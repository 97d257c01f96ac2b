import LC3.Console

/-!
# A console that collects

The bytes are kept, and flushes are counted. The console may have room for
only so many bytes: a write past the end is cut short there and fails, and so
does every later write of at least one byte. A console may also fail to
flush; the attempt is counted first.
-/

namespace LC3

/-- **A console that keeps what is written.** -/
structure Collector where
  /-- The bytes that were taken. -/
  bytes : Array UInt8 := #[]
  /-- How often a flush was asked for. -/
  flushes : Nat := 0
  /-- How many bytes will still be taken, if there is a bound. -/
  room : Option Nat := none
  /-- Whether flushing fails. -/
  flushFails : Bool := false
  deriving DecidableEq, Repr

namespace Collector

/-- What a console without room says. -/
def brokenPipe : DeviceError := ⟨"broken pipe"⟩

/-- What a console says that cannot flush. -/
def flushFailed : DeviceError := ⟨"flush failed"⟩

/-- Keeps the bytes for which there is room. -/
def write (c : Collector) (message : List UInt8) : Except DeviceError Unit × Collector :=
  match c with
  | ⟨bytes, flushes, none, flushFails⟩ =>
    (.ok (), ⟨bytes ++ message, flushes, none, flushFails⟩)
  | ⟨bytes, flushes, some room, flushFails⟩ =>
    if message.length ≤ room then
      (.ok (), ⟨bytes ++ message, flushes, some (room - message.length), flushFails⟩)
    else
      (.error brokenPipe, ⟨bytes ++ message.take room, flushes, some 0, flushFails⟩)

/-- Counts the flush. -/
def flush (c : Collector) : Except DeviceError Unit × Collector :=
  (if c.flushFails then .error flushFailed else .ok (), { c with flushes := c.flushes + 1 })

/-- Forgets what was collected; the room stays what is left of it. -/
def cleared (c : Collector) : Collector := { c with bytes := #[], flushes := 0 }

instance : Console Collector where
  write := write
  flush := flush

end Collector

end LC3
