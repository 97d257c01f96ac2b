import LC3.Dialogue
import LC3.Keyboard
import LC3.Console

/-!
# Dialogues with actual devices

Given a keyboard and a console, a dialogue has one course. `Dialogue.hold`
follows it: it ends with the value of the dialogue, the devices as they are
then, and a record of every **exchange**, one question with its answer or one
reported event at a time. The record is what a statement about a whole run
quantifies over, and what the log is drawn from.
-/

namespace LC3

/-- **One question to a device with its answer**, or an event. -/
inductive Exchange where
  /-- The keyboard was polled. -/
  | polled (answer : Except DeviceError Bool)
  /-- The character that a poll found was taken. -/
  | took (answer : Option UInt8)
  /-- A character was waited for. -/
  | waited (answer : Except DeviceError (Option UInt8))
  /-- The keyboard was asked whether shutdown was requested. -/
  | asked (answer : Bool)
  /-- Bytes were written to the console. -/
  | wrote (bytes : List UInt8) (answer : Except DeviceError Unit)
  /-- The console was flushed. -/
  | flushed (answer : Except DeviceError Unit)
  /-- An event was reported, by the machine or by the keyboard. -/
  | reported (event : Event)

/-- **Where a dialogue led.** -/
structure Course (κ ω α : Type) where
  /-- The value at its end. -/
  value : α
  /-- The keyboard at its end. -/
  keyboard : κ
  /-- The console at its end. -/
  console : ω
  /-- What was exchanged, in order. -/
  exchanges : List Exchange

namespace Course

variable {κ ω α : Type}

/-- A course before which something else was exchanged. -/
def after (c : Course κ ω α) (before : List Exchange) : Course κ ω α :=
  { c with exchanges := before ++ c.exchanges }

end Course

namespace Dialogue

variable {κ ω α : Type} [Keyboard κ] [Console ω]

/-- **Holds a dialogue** with a keyboard and a console. -/
def hold : Dialogue α → κ → ω → Course κ ω α
  | done a, k, c => ⟨a, k, c, []⟩
  | poll next, k, c =>
    match Keyboard.poll k with
    | ⟨answer, k, events⟩ =>
      ((next answer).hold k c).after (events.map .reported ++ [.polled answer])
  | take next, k, c =>
    match Keyboard.take k with
    | (answer, k) => ((next answer).hold k c).after [.took answer]
  | wait next, k, c =>
    match Keyboard.wait k with
    | ⟨answer, k, events⟩ =>
      ((next answer).hold k c).after (events.map .reported ++ [.waited answer])
  | requested next, k, c =>
    let answer := Keyboard.requested k
    ((next answer).hold k c).after [.asked answer]
  | write bytes next, k, c =>
    match Console.write c bytes with
    | (answer, c) => ((next answer).hold k c).after [.wrote bytes answer]
  | flush next, k, c =>
    match Console.flush c with
    | (answer, c) => ((next answer).hold k c).after [.flushed answer]
  | report event rest, k, c => (rest.hold k c).after [.reported event]

@[simp]
theorem hold_done (a : α) (k : κ) (c : ω) : (done a).hold k c = ⟨a, k, c, []⟩ := rfl

/-- **One dialogue after another is held one after another:** the second with
the devices as the first left them. -/
theorem hold_bind {β : Type} (x : Dialogue α) (f : α → Dialogue β) (k : κ) (c : ω) :
    (x >>= f).hold k c
      = ((f (x.hold k c).value).hold (x.hold k c).keyboard (x.hold k c).console).after
          (x.hold k c).exchanges := by
  rw [bind_eq_graft]
  induction x generalizing k c with
  | done a => rfl
  | poll next ih => simp only [graft, hold, ih, Course.after, List.append_assoc]
  | take next ih => simp only [graft, hold, ih, Course.after, List.append_assoc]
  | wait next ih => simp only [graft, hold, ih, Course.after, List.append_assoc]
  | requested next ih => simp only [graft, hold, ih, Course.after, List.append_assoc]
  | write bytes next ih => simp only [graft, hold, ih, Course.after, List.append_assoc]
  | flush next ih => simp only [graft, hold, ih, Course.after, List.append_assoc]
  | report event rest ih => simp only [graft, hold, ih, Course.after, List.append_assoc]

/-- What holds at every end holds at the end of the course. -/
theorem Ends.hold {P : α → Prop} {x : Dialogue α} (h : x.Ends P) (k : κ) (c : ω) :
    P (x.hold k c).value := by
  induction x generalizing k c with
  | done => exact h
  | poll next ih => exact ih _ (h _) _ _
  | take next ih => exact ih _ (h _) _ _
  | wait next ih => exact ih _ (h _) _ _
  | requested next ih => exact ih _ (h _) _ _
  | write bytes next ih => exact ih _ (h _) _ _
  | flush next ih => exact ih _ (h _) _ _
  | report event rest ih => exact ih h _ _

end Dialogue

namespace Exchange

/-- The event of an exchange, if it is one. -/
def event? : Exchange → Option Event
  | reported event => some event
  | _ => none

end Exchange

/-- **How often the keyboard was asked.** -/
structure Usage where
  /-- How often it was polled. -/
  polls : Nat := 0
  /-- How often a found character was taken. -/
  takes : Nat := 0
  /-- How often a character was waited for. -/
  waits : Nat := 0
  deriving DecidableEq, Repr

namespace Usage

/-- Counts one more exchange. -/
def add (u : Usage) : Exchange → Usage
  | .polled _ => { u with polls := u.polls + 1 }
  | .took _ => { u with takes := u.takes + 1 }
  | .waited _ => { u with waits := u.waits + 1 }
  | _ => u

end Usage

end LC3
