import LC3.Event

/-!
# Keyboards

A keyboard is any state that can answer the four questions of a dialogue. An
answer comes with the state after it and with the events that the keyboard
reports meanwhile. The instances are in the modules below this one: a fixed
text, a stream that may fail, and a queue of pending events; a terminal
answers only as far as it need not look at the device.

Every keyboard keeps the character that a poll found in a **latch**, where it
stays until it is taken or waited for.
-/

namespace LC3

/-- **The answer of a keyboard**, the keyboard after it, and what it
reported. -/
structure Reply (κ α : Type) where
  /-- The answer. -/
  answer : α
  /-- The keyboard after it. -/
  keyboard : κ
  /-- What the keyboard reported. -/
  events : List Event := []

/-- **What a keyboard does.** -/
class Keyboard (κ : Type) where
  /-- Whether a character is there, without waiting. -/
  poll : κ → Reply κ (Except DeviceError Bool)
  /-- Takes the character that a poll found, if there is one. -/
  take : κ → Option UInt8 × κ
  /-- Waits for a character; none comes once shutdown was requested. -/
  wait : κ → Reply κ (Except DeviceError (Option UInt8))
  /-- Whether shutdown was requested. -/
  requested : κ → Bool
  /-- Types characters on the keyboard, after those that were typed before. A
  keyboard with a device of its own cannot be typed on. -/
  type : κ → List UInt8 → κ := fun keyboard _ => keyboard

end LC3
