import LC3.Keyboard

/-!
# A keyboard with pending events

A terminal hands out what happened on it in the order in which it happened: a
key was pressed, CTRL-C was pressed, something happened that is of no
interest, or looking at the device failed. This keyboard has a queue of such
events. A poll looks at the first of them, unless a character was found
already; waiting looks at as many as it takes to find a character.
-/

namespace LC3

/-- **What may have happened on the device.** -/
inductive PendingEvent where
  /-- A character was typed. -/
  | character (value : UInt8)
  /-- Shutdown was requested. -/
  | shutdown
  /-- Nothing of interest. -/
  | idle
  /-- A character was announced that does not come. -/
  | ghost
  /-- The device failed. -/
  | failure (error : DeviceError)
  deriving DecidableEq, Repr

/-- **A keyboard with a queue of events.** -/
structure Pending where
  /-- What happened and was not looked at yet. -/
  queue : List PendingEvent
  /-- The character that a poll found. -/
  latch : Option UInt8 := none
  /-- Whether shutdown was requested. -/
  shutdown : Bool := false
  deriving DecidableEq, Repr

namespace Pending

/-- Looks at one event, unless a character was found already. -/
def poll (k : Pending) : Reply Pending (Except DeviceError Bool) :=
  match k.latch, k.queue with
  | some _, _ => ⟨.ok true, k, []⟩
  | none, [] => ⟨.ok false, k, []⟩
  | none, .character c :: rest => ⟨.ok true, { k with queue := rest, latch := some c }, []⟩
  | none, .shutdown :: rest => ⟨.ok false, { k with queue := rest, shutdown := true }, []⟩
  | none, .idle :: rest => ⟨.ok false, { k with queue := rest }, []⟩
  | none, .ghost :: rest => ⟨.ok true, { k with queue := rest }, []⟩
  | none, .failure e :: rest => ⟨.error e, { k with queue := rest }, []⟩

/-- Takes the character that was found. -/
def take (k : Pending) : Option UInt8 × Pending := (k.latch, { k with latch := none })

/-- **Looks at events until one settles the matter:** a character, a failure,
or a request for shutdown, which the end of the queue counts as. The events
after it are left. -/
def search : List PendingEvent → Except DeviceError (Option UInt8) × List PendingEvent
  | [] => (.ok none, [])
  | .character c :: rest => (.ok (some c), rest)
  | .shutdown :: rest => (.ok none, rest)
  | .idle :: rest => search rest
  | .ghost :: rest => search rest
  | .failure e :: rest => (.error e, rest)

/-- The character that was found, or else the next one. -/
def wait (k : Pending) : Reply Pending (Except DeviceError (Option UInt8)) :=
  match k.latch with
  | some c => ⟨.ok (some c), { k with latch := none }, []⟩
  | none =>
    match search k.queue with
    | (.ok none, rest) => ⟨.ok none, { k with queue := rest, shutdown := true }, []⟩
    | (answer, rest) => ⟨answer, { k with queue := rest }, []⟩

instance : Keyboard Pending where
  poll := poll
  take := take
  wait := wait
  requested := shutdown

end Pending

end LC3
