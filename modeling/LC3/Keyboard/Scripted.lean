import LC3.Keyboard

/-!
# A keyboard that types a fixed text

The text is known from the start and can be extended at any time. Waiting
for a character after the last one counts as a request for shutdown; polling
does not.
-/

namespace LC3

/-- **A keyboard with a fixed text.** -/
structure Scripted where
  /-- The characters that were not read yet. -/
  queue : List UInt8
  /-- The character that a poll found. -/
  latch : Option UInt8 := none
  /-- Whether a character was waited for in vain. -/
  exhausted : Bool := false
  deriving DecidableEq, Repr

namespace Scripted

/-- Finds a character, unless one was found already. -/
def poll (k : Scripted) : Reply Scripted (Except DeviceError Bool) :=
  match k.latch, k.queue with
  | some _, _ => ⟨.ok true, k, []⟩
  | none, c :: rest => ⟨.ok true, { k with queue := rest, latch := some c }, []⟩
  | none, [] => ⟨.ok false, k, []⟩

/-- Takes the character that was found. -/
def take (k : Scripted) : Option UInt8 × Scripted := (k.latch, { k with latch := none })

/-- The character that was found, or else the next one. -/
def wait (k : Scripted) : Reply Scripted (Except DeviceError (Option UInt8)) :=
  match k.latch, k.queue with
  | some c, _ => ⟨.ok (some c), { k with latch := none }, []⟩
  | none, c :: rest => ⟨.ok (some c), { k with queue := rest }, []⟩
  | none, [] => ⟨.ok none, { k with exhausted := true }, []⟩

instance : Keyboard Scripted where
  poll := poll
  take := take
  wait := wait
  requested := exhausted
  type k bytes := { k with queue := k.queue ++ bytes }

end Scripted

end LC3
