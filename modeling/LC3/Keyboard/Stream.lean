import LC3.Keyboard

/-!
# A keyboard that reads a stream

Input that does not come from a terminal is read from a stream, one byte at a
time. Reading a byte may be cut off before anything was read, and is then
simply tried again; it may fail; and it may find the end of the input, after
which the stream is not read any more. Waiting for a character at the end of
the input counts as a request for shutdown.
-/

namespace LC3

/-- **What reading one byte of a stream can lead to.** -/
inductive StreamStep where
  /-- A byte. -/
  | byte (value : UInt8)
  /-- Nothing yet: the attempt was cut off. -/
  | cutOff
  /-- The end of the input. -/
  | finish
  /-- A failure of the stream. -/
  | failure (error : DeviceError)
  deriving DecidableEq, Repr

/-- **A keyboard on a stream.** -/
structure Stream where
  /-- What the attempts to read will lead to, one after another; the input is
  at its end after the last. -/
  steps : List StreamStep
  /-- The character that a poll found. -/
  latch : Option UInt8 := none
  /-- Whether the end of the input was found. -/
  ended : Bool := false
  /-- Whether a character was waited for in vain. -/
  exhausted : Bool := false
  deriving DecidableEq, Repr

namespace Stream

/-- **Reads one byte** with attempts that lead to the given steps: what was
read, the steps that are left, and whether the end of the input was found. -/
def attempt : List StreamStep → Except DeviceError (Option UInt8) × List StreamStep × Bool
  | [] => (.ok none, [], true)
  | .byte b :: rest => (.ok (some b), rest, false)
  | .cutOff :: rest => attempt rest
  | .finish :: rest => (.ok none, rest, true)
  | .failure e :: rest => (.error e, rest, false)

/-- Reads one byte, unless the end of the input was found before. -/
def next (k : Stream) : Reply Stream (Except DeviceError (Option UInt8)) :=
  if k.ended then ⟨.ok none, k, []⟩
  else
    match attempt k.steps with
    | (answer, rest, true) => ⟨answer, { k with steps := rest, ended := true }, [.endOfInput]⟩
    | (answer, rest, false) => ⟨answer, { k with steps := rest }, []⟩

/-- Finds a character, unless one was found already. -/
def poll (k : Stream) : Reply Stream (Except DeviceError Bool) :=
  match k.latch with
  | some _ => ⟨.ok true, k, []⟩
  | none =>
    match k.next with
    | ⟨.ok found, k, events⟩ => ⟨.ok found.isSome, { k with latch := found }, events⟩
    | ⟨.error e, k, events⟩ => ⟨.error e, k, events⟩

/-- Takes the character that was found. -/
def take (k : Stream) : Option UInt8 × Stream := (k.latch, { k with latch := none })

/-- The character that was found, or else the next one. -/
def wait (k : Stream) : Reply Stream (Except DeviceError (Option UInt8)) :=
  match k.latch with
  | some c => ⟨.ok (some c), { k with latch := none }, []⟩
  | none =>
    match k.next with
    | ⟨.ok (some c), k, events⟩ => ⟨.ok (some c), k, events⟩
    | ⟨.ok none, k, events⟩ => ⟨.ok none, { k with exhausted := true }, events⟩
    | ⟨.error e, k, events⟩ => ⟨.error e, k, events⟩

instance : Keyboard Stream where
  poll := poll
  take := take
  wait := wait
  requested := exhausted

end Stream

end LC3
