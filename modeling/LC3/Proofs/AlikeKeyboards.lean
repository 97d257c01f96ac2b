import LC3.Proofs.Deliveries
import LC3.Proofs.Waits

/-!
# Keyboards that no dialogue can tell apart

Two sound keyboards that deliver a text are **alike** if they have the same
unread characters and the same to say about shutdown. They need not be of one
kind, and a character may have been found on one of them that still waits in
the queue of the other. To every dialogue composed of phrases they are the
same: it asks both the same questions, is answered the same, and ends the same
(`Dialogue.Composed.hold_alike`). And what a keyboard hands out in it is the
beginning of what was unread (`Dialogue.Composed.hands`).
-/

namespace LC3

namespace Exchange

/-- Whether an exchange is a question to a device, and not an event. -/
def isQuestion : Exchange → Bool
  | reported _ => false
  | _ => true

/-- **The questions** to the devices with their answers, in order. -/
def questions (exchanges : List Exchange) : List Exchange := exchanges.filter isQuestion

/-- The questions of two parts are those of the first and then those of the second. -/
theorem questions_append (before later : List Exchange) :
    questions (before ++ later) = questions before ++ questions later :=
  List.filter_append _ _

/-- What a keyboard reports on its own is no question. -/
@[simp] theorem questions_reported (events : List Event) :
    questions (events.map reported) = [] := by
  rw [questions, List.filter_eq_nil_iff]
  intro e hmem
  obtain ⟨event, -, rfl⟩ := List.mem_map.1 hmem
  exact Bool.false_ne_true

end Exchange

open Exchange (questions questions_append delivered delivered_append)
open Delivers (Sound unread latch poll_eq take_eq wait_eq)

variable {κ κ' ω α β : Type} [Delivers κ] [Delivers κ'] [Console ω]

/-! ## Alike keyboards and alike courses

Where an unread character is, in the latch or in the queue, is left open, since
a dialogue that asks in phrases cannot see it. What is reported on the way is
left open too: a keyboard on a stream says when it finds the end of its input,
and one that has its text in memory has nothing to say. -/

/-- **Two keyboards are alike** if both are sound, and they have the same
unread characters and the same to say about shutdown. -/
structure Alike (k : κ) (k' : κ') : Prop where
  sound : Sound k
  sound' : Sound k'
  unread : unread k = unread k'
  requested : Keyboard.requested k = Keyboard.requested k'

/-- A sound keyboard is like itself. -/
theorem Alike.refl {k : κ} (h : Sound k) : Alike k k := ⟨h, h, rfl, rfl⟩

/-- Which of the two is which does not matter. -/
theorem Alike.symm {k : κ} {k' : κ'} (h : Alike k k') : Alike k' k :=
  ⟨h.sound', h.sound, h.unread.symm, h.requested.symm⟩

/-- A poll makes no difference. -/
theorem Alike.poll {k : κ} {k' : κ'} (h : Alike k k') : Alike (Keyboard.poll k).keyboard k' := by
  obtain ⟨-, hsound, hunread, -, hrequested⟩ := poll_eq h.sound
  exact ⟨hsound, h.sound', hunread.trans h.unread, hrequested.trans h.requested⟩

/-- **Two courses are alike**, of a dialogue with one keyboard and with
another. -/
structure Course.Alike (course : Course κ ω α) (course' : Course κ' ω α) : Prop where
  value : course.value = course'.value
  keyboard : LC3.Alike course.keyboard course'.keyboard
  console : course.console = course'.console
  questions : questions course.exchanges = questions course'.exchanges

/-- The console does not hear the keyboard. -/
theorem Dialogue.hold_say_eq (message : List UInt8) (k : κ) (k' : κ') (c : ω) :
    ((say message).hold k c).value = ((say message).hold k' c).value
      ∧ ((say message).hold k c).console = ((say message).hold k' c).console
      ∧ ((say message).hold k c).exchanges = ((say message).hold k' c).exchanges := by
  unfold say
  split
  · exact ⟨rfl, rfl, rfl⟩
  · unfold hold
    dsimp only
    cases (Console.write c message).1 with
    | ok => exact ⟨rfl, rfl, rfl⟩
    | error e => exact ⟨rfl, rfl, rfl⟩

/-- **Alike keyboards take alike phrases.** Each phrase is answered from the unread
characters and the request alone, and these are the same on both sides. -/
theorem Dialogue.Phrase.hold_alike {x : Dialogue α} (hx : x.Phrase) {k : κ} {k' : κ'}
    (h : Alike k k') (c : ω) : (x.hold k c).Alike (x.hold k' c) := by
  cases hx with
  | poll =>
    rw [hold_pollKeyboard, hold_pollKeyboard]
    obtain ⟨hanswer, -⟩ := poll_eq h.sound
    obtain ⟨hanswer', -⟩ := poll_eq h.sound'
    rw [hanswer, hanswer', h.unread]
    -- both keyboards are polled: one side after the other
    refine ⟨rfl, h.poll.symm.poll.symm, rfl, ?_⟩
    rw [questions_append, questions_append, Exchange.questions_reported,
      Exchange.questions_reported]
  | arrival =>
    obtain ⟨hvalue, hconsole, hsound, hunread, hrequested, hexchanges⟩ :=
      Delivers.hold_arrival h.sound c
    obtain ⟨hvalue', hconsole', hsound', hunread', hrequested', hexchanges'⟩ :=
      Delivers.hold_arrival h.sound' c
    refine ⟨?_, ⟨hsound, hsound', ?_, ?_⟩, hconsole.trans hconsole'.symm, ?_⟩
    · rw [hvalue, hvalue', h.unread]
    · rw [hunread, hunread', h.unread]
    · rw [hrequested, hrequested', h.requested]
    · rw [hexchanges, hexchanges', questions_append, questions_append,
        Exchange.questions_reported, Exchange.questions_reported, h.unread]
  | wait =>
    rw [hold_awaitCharacter, hold_awaitCharacter]
    obtain ⟨hanswer, hsound, hunread, hrequested⟩ := wait_eq h.sound
    obtain ⟨hanswer', hsound', hunread', hrequested'⟩ := wait_eq h.sound'
    rw [hanswer, hanswer', h.unread]
    refine ⟨rfl, ⟨hsound, hsound', ?_, ?_⟩, rfl, ?_⟩
    · rw [hunread, hunread', h.unread]
    · rw [hrequested, hrequested', h.requested, h.unread]
    · rw [questions_append, questions_append, Exchange.questions_reported,
        Exchange.questions_reported]
  | requested =>
    rw [hold_shutdownRequested, hold_shutdownRequested, h.requested]
    exact ⟨rfl, h, rfl, rfl⟩
  | say message =>
    obtain ⟨hvalue, hconsole, hexchanges⟩ := hold_say_eq message k k' c
    obtain ⟨hkeyboard, -⟩ := hold_say message k c
    obtain ⟨hkeyboard', -⟩ := hold_say message k' c
    refine ⟨hvalue, ?_, hconsole, congrArg questions hexchanges⟩
    rw [hkeyboard, hkeyboard']
    exact h
  | tell event => exact ⟨rfl, h, rfl, rfl⟩

/-- **Alike keyboards take alike dialogues** that are composed of phrases. -/
theorem Dialogue.Composed.hold_alike {x : Dialogue α} (hx : x.Composed) {k : κ} {k' : κ'}
    (h : Alike k k') (c : ω) : (x.hold k c).Alike (x.hold k' c) := by
  induction hx generalizing k k' c with
  | done a => exact ⟨rfl, h, rfl, rfl⟩
  | phrase hx => exact hx.hold_alike h c
  | bind hx hf ihx ihf =>
    obtain ⟨hvalue, hkeyboard, hconsole, hquestions⟩ := ihx h c
    rw [hold_bind, hold_bind, ← hvalue, ← hconsole]
    -- the first parts end in the same value, so the same dialogue goes on
    obtain ⟨hvalue', hkeyboard', hconsole', hquestions'⟩ := ihf _ hkeyboard _
    refine ⟨hvalue', hkeyboard', hconsole', ?_⟩
    rw [Course.after_exchanges, Course.after_exchanges, questions_append, questions_append,
      hquestions, hquestions']

/-! ## What is handed out

The unread characters are a budget: what a dialogue is given by the keyboard and
what is unread afterwards make up what was unread before. A poll moves a
character to the latch at most, which does not count as handing it out. -/

/-- **What is handed out was unread**, in order, and the rest still is. -/
structure Hands (k : κ) (course : Course κ ω α) : Prop where
  sound : Sound course.keyboard
  delivered : delivered course.exchanges ++ unread course.keyboard = unread k

/-- Saying a message hands nothing out. -/
theorem Dialogue.delivered_say {κ ω : Type} [Keyboard κ] [Console ω] (message : List UInt8)
    (k : κ) (c : ω) : delivered ((say message).hold k c).exchanges = [] := by
  unfold say
  split
  · rfl
  · unfold hold
    dsimp only
    cases (Console.write c message).1 with
    | ok => rfl
    | error e => rfl

/-- A phrase hands out one character at most, the first that is unread. -/
theorem Dialogue.Phrase.hands {x : Dialogue α} (hx : x.Phrase) {k : κ} (h : Sound k) (c : ω) :
    Hands k (x.hold k c) := by
  cases hx with
  | poll =>
    obtain ⟨hanswer, hsound, hunread, -, -⟩ := poll_eq h
    rw [hold_pollKeyboard]
    refine ⟨hsound, ?_⟩
    rw [delivered_append, Exchange.delivered_reported, hunread]
    rfl
  | arrival =>
    obtain ⟨-, -, hsound, hunread, -, hexchanges⟩ := Delivers.hold_arrival h c
    refine ⟨hsound, ?_⟩
    rw [hexchanges, delivered_append, Exchange.delivered_reported, hunread]
    cases unread k <;> rfl
  | wait =>
    obtain ⟨hanswer, hsound, hunread, -⟩ := wait_eq h
    rw [hold_awaitCharacter]
    refine ⟨hsound, ?_⟩
    rw [delivered_append, Exchange.delivered_reported, hunread, hanswer]
    cases unread k <;> rfl
  | requested => exact ⟨h, rfl⟩
  | say message =>
    obtain ⟨hkeyboard, -⟩ := hold_say message k c
    refine ⟨?_, ?_⟩
    · rw [hkeyboard]
      exact h
    · rw [hkeyboard, delivered_say]
      rfl
  | tell event => exact ⟨h, rfl⟩

/-- **A dialogue that is composed of phrases** hands out what was unread. -/
theorem Dialogue.Composed.hands {x : Dialogue α} (hx : x.Composed) {k : κ} (h : Sound k)
    (c : ω) : Hands k (x.hold k c) := by
  induction hx generalizing k c with
  | done a => exact ⟨h, rfl⟩
  | phrase hx => exact hx.hands h c
  | bind hx hf ihx ihf =>
    obtain ⟨hsound, hdelivered⟩ := ihx h c
    obtain ⟨hsound', hdelivered'⟩ := ihf _ hsound _
    rw [hold_bind]
    refine ⟨hsound', ?_⟩
    rw [Course.after_exchanges, Course.after_keyboard, delivered_append, List.append_assoc,
      hdelivered', hdelivered]

end LC3
