import LC3.Keyboard.Stream
import LC3.Proofs.Phrases
import LC3.Proofs.TypedCharacters

/-!
# Keyboards that deliver a text

A scripted keyboard and a stream have little in common but what they are for:
each delivers the characters of a text, one after another, and counts a wait
after the last one as a request for shutdown. What such a keyboard answers
depends on its **unread** characters alone, and on whether shutdown was
requested already; not on which of them sits in the latch, nor on how the
others are kept. `Delivers` states this with a condition under which it
holds, that the keyboard is **sound**: a stream may fail. A stream delivers
the bytes before the end of its input (`Stream.text`), and nothing behind.
-/

namespace LC3

namespace Exchange

/-- **The character that the keyboard handed out** in an exchange, if it
handed one out. -/
def delivered? : Exchange → Option UInt8
  | took character => character
  | waited (.ok character) => character
  | _ => none

/-- The characters that the keyboard handed out, in order. -/
def delivered (exchanges : List Exchange) : List UInt8 := exchanges.filterMap delivered?

/-- What is handed out in two parts is handed out one part after the other. -/
theorem delivered_append (before later : List Exchange) :
    delivered (before ++ later) = delivered before ++ delivered later :=
  List.filterMap_append

/-- A report hands out nothing. -/
@[simp] theorem delivered_reported (events : List Event) :
    delivered (events.map reported) = [] := by
  rw [delivered, List.filterMap_eq_nil_iff]
  intro e hmem
  obtain ⟨event, -, rfl⟩ := List.mem_map.1 hmem
  rfl

end Exchange

/-- **A keyboard that delivers a text.** -/
class Delivers (κ : Type) extends Keyboard κ where
  /-- The keyboard will not fail. -/
  Sound : κ → Prop
  /-- The characters that were not handed out yet, in order. -/
  unread : κ → List UInt8
  /-- The character that a poll found. -/
  latch : κ → Option UInt8
  /-- A poll finds the first unread character, and leaves it unread. -/
  poll_eq : ∀ {k}, Sound k → (poll k).answer = .ok (!(unread k).isEmpty)
    ∧ Sound (poll k).keyboard ∧ unread (poll k).keyboard = unread k
    ∧ latch (poll k).keyboard = (unread k).head? ∧ requested (poll k).keyboard = requested k
  /-- What was found is handed out. -/
  take_eq : ∀ {k}, Sound k → latch k = (unread k).head? → (take k).1 = (unread k).head?
    ∧ Sound (take k).2 ∧ unread (take k).2 = (unread k).tail ∧ requested (take k).2 = requested k
  /-- A wait is answered with the first unread character, found or not, and
  requests shutdown if there is none. -/
  wait_eq : ∀ {k}, Sound k → (wait k).answer = .ok (unread k).head?
    ∧ Sound (wait k).keyboard ∧ unread (wait k).keyboard = (unread k).tail
    ∧ requested (wait k).keyboard = (requested k || (unread k).isEmpty)
  /-- What is typed is read after what is unread, if it is read at all. -/
  type_eq : ∀ {k}, Sound k → ∀ characters, Sound (type k characters)
    ∧ requested (type k characters) = requested k
    ∧ ∀ k', unread k' = unread k → unread (type k' characters) = unread (type k characters)

/-! ## The two keyboards

A scripted keyboard has its queue behind the latch, and a stream has the bytes
that it did not read yet. Where nothing is in the latch both poll by looking at
what is next, so the proofs go by whether something is in the latch. -/

/-- A scripted keyboard never fails. -/
instance : Delivers Scripted where
  Sound _ := True
  unread := Scripted.unread
  latch := Scripted.latch
  poll_eq {k} _ := by
    obtain ⟨hanswer, -, hunread, hlatch⟩ := k.poll_eq
    refine ⟨hanswer, trivial, hunread, hlatch, ?_⟩
    obtain ⟨queue, latch, exhausted⟩ := k
    cases latch with
    | some c => rfl
    | none => cases queue <;> rfl
  take_eq {k} _ h := by
    obtain ⟨queue, latch, exhausted⟩ := k
    refine ⟨h, trivial, ?_, rfl⟩
    cases latch with
    | some c => rfl
    | none =>
      cases queue with
      | nil => rfl
      | cons c rest => exact nomatch h
  wait_eq {k} _ := by
    obtain ⟨hanswer, -, hunread⟩ := k.wait_eq
    refine ⟨hanswer, trivial, hunread, ?_⟩
    obtain ⟨queue, latch, exhausted⟩ := k
    cases latch with
    | some c => exact (Bool.or_false exhausted).symm
    | none =>
      cases queue with
      | nil => exact (Bool.or_true exhausted).symm
      | cons c rest => exact (Bool.or_false exhausted).symm
  type_eq {k} _ characters := by
    have hunread : ∀ k : Scripted,
        (Keyboard.type k characters).unread = k.unread ++ characters := fun k =>
      (List.append_assoc _ _ _).symm
    refine ⟨trivial, rfl, fun k' h => ?_⟩
    rw [hunread, hunread, h]

namespace Stream

/-- The byte that a step reads, if it reads one. -/
def byte? : StreamStep → Option UInt8
  | .byte b => some b
  | _ => none

/-- **The text of a stream:** the bytes before the end of the input. -/
def text (steps : List StreamStep) : List UInt8 :=
  (steps.takeWhile (· ≠ .finish)).filterMap byte?

/-- The stream will not fail. -/
def Sound (k : Stream) : Prop := ∀ e, .failure e ∉ k.steps

/-- The bytes that were not read yet. -/
def rest (k : Stream) : List UInt8 := if k.ended then [] else text k.steps

/-- The characters that were not handed out yet. -/
def unread (k : Stream) : List UInt8 := k.latch.toList ++ k.rest

/-- **Reading one byte** without a failure reads the first of the text, or
finds its end. -/
theorem attempt_eq {steps : List StreamStep} (h : ∀ e, .failure e ∉ steps) :
    (attempt steps).1 = .ok (text steps).head?
      ∧ (∀ e, .failure e ∉ (attempt steps).2.1)
      ∧ (attempt steps).2.2 = (text steps).isEmpty
      ∧ ((text steps).isEmpty = false → text (attempt steps).2.1 = (text steps).tail) := by
  -- a read that was cut off is tried again, so the steps are gone through until one settles
  -- the matter
  induction steps with
  | nil => exact ⟨rfl, h, rfl, nofun⟩
  | cons step rest ih =>
    have hrest : ∀ e, .failure e ∉ rest := fun e hmem => h e (List.mem_cons_of_mem _ hmem)
    cases step with
    | byte b => exact ⟨rfl, hrest, rfl, fun _ => rfl⟩
    | cutOff => exact ih hrest
    | finish => exact ⟨rfl, hrest, rfl, nofun⟩
    | failure e => exact absurd List.mem_cons_self (h e)

/-- The same for a keyboard on the stream, which reads nothing any more after
the end. -/
theorem next_eq {k : Stream} (h : k.Sound) :
    k.next.answer = .ok k.rest.head?
      ∧ k.next.keyboard.Sound ∧ k.next.keyboard.rest = k.rest.tail
      ∧ k.next.keyboard.latch = k.latch ∧ k.next.keyboard.exhausted = k.exhausted := by
  obtain ⟨steps, latch, ended, exhausted⟩ := k
  cases ended with
  | true => exact ⟨rfl, h, rfl, rfl, rfl⟩
  | false =>
    obtain ⟨hanswer, hsound, hended, htail⟩ := attempt_eq h
    unfold next
    rw [if_neg Bool.false_ne_true]
    match hattempt : attempt steps with
    | (answer, rest, true) =>
      rw [hattempt] at hanswer hsound hended
      -- the end was found, so there was nothing before it
      have hempty : text steps = [] := List.isEmpty_iff.1 hended.symm
      refine ⟨hanswer, hsound, ?_, rfl, rfl⟩
      show [] = (text steps).tail
      rw [hempty]
      rfl
    | (answer, rest, false) =>
      rw [hattempt] at hanswer hsound hended htail
      exact ⟨hanswer, hsound, htail hended.symm, rfl, rfl⟩

/-- With nothing found yet a poll reads a byte. -/
theorem poll_eq_next {k : Stream} (hlatch : k.latch = none) {found : Option UInt8}
    (hnext : k.next.answer = .ok found) :
    k.poll = ⟨.ok found.isSome, { k.next.keyboard with latch := found }, k.next.events⟩ := by
  unfold poll
  rw [hlatch]
  dsimp only
  cases hreply : k.next with
  | mk answer keyboard events =>
    rw [hreply] at hnext
    cases hnext
    rfl

/-- And so does a wait, which asks for shutdown if there is none. -/
theorem wait_eq_next {k : Stream} (hlatch : k.latch = none) {found : Option UInt8}
    (hnext : k.next.answer = .ok found) :
    k.wait = ⟨.ok found, { k.next.keyboard with
      exhausted := k.next.keyboard.exhausted || found.isNone }, k.next.events⟩ := by
  unfold wait
  rw [hlatch]
  dsimp only
  cases hreply : k.next with
  | mk answer keyboard events =>
    rw [hreply] at hnext
    cases hnext
    cases found with
    | none => rw [Option.isNone_none, Bool.or_true]
    | some c => rw [Option.isNone_some, Bool.or_false]

/-- What was found comes first. -/
theorem unread_of_some {k : Stream} {c : UInt8} (h : k.latch = some c) :
    k.unread = c :: k.rest := by
  unfold unread
  rw [h]
  rfl

/-- With nothing found, all that is unread is still to be read. -/
theorem unread_of_none {k : Stream} (h : k.latch = none) : k.unread = k.rest := by
  unfold unread
  rw [h]
  rfl

/-- A stream that does not fail delivers its text. -/
instance : Delivers Stream where
  Sound := Sound
  unread := unread
  latch := latch
  poll_eq {k} h := by
    show k.poll.answer = _ ∧ k.poll.keyboard.Sound ∧ k.poll.keyboard.unread = _
      ∧ k.poll.keyboard.latch = _ ∧ k.poll.keyboard.exhausted = _
    cases hlatch : k.latch with
    | some c =>
      have hpoll : k.poll = ⟨.ok true, k, []⟩ := by
        unfold poll
        rw [hlatch]
      rw [hpoll, unread_of_some hlatch]
      exact ⟨rfl, h, rfl, hlatch, rfl⟩
    | none =>
      obtain ⟨hanswer, hsound, hrest, -, hexhausted⟩ := next_eq h
      rw [poll_eq_next hlatch hanswer, unread_of_none hlatch]
      refine ⟨?_, hsound, ?_, rfl, hexhausted⟩
      · cases k.rest <;> rfl
      · show k.rest.head?.toList ++ k.next.keyboard.rest = k.rest
        rw [hrest]
        cases k.rest <;> rfl
  take_eq {k} h hlatch := by
    refine ⟨hlatch, h, ?_, rfl⟩
    show k.rest = k.unread.tail
    cases hfound : k.latch with
    | some c =>
      rw [unread_of_some hfound]
      rfl
    | none =>
      -- nothing was found since there is nothing
      have hempty : k.unread = [] := List.head?_eq_none_iff.1 (hlatch.symm.trans hfound)
      rw [← unread_of_none hfound, hempty]
      rfl
  wait_eq {k} h := by
    show k.wait.answer = _ ∧ k.wait.keyboard.Sound ∧ k.wait.keyboard.unread = _
      ∧ k.wait.keyboard.exhausted = (k.exhausted || _)
    cases hlatch : k.latch with
    | some c =>
      have hwait : k.wait = ⟨.ok (some c), { k with latch := none }, []⟩ := by
        unfold wait
        rw [hlatch]
      rw [hwait, unread_of_some hlatch]
      exact ⟨rfl, h, rfl, (Bool.or_false _).symm⟩
    | none =>
      obtain ⟨hanswer, hsound, hrest, hkept, hexhausted⟩ := next_eq h
      rw [wait_eq_next hlatch hanswer, unread_of_none hlatch]
      refine ⟨rfl, hsound, (unread_of_none (hkept.trans hlatch)).trans hrest, ?_⟩
      rw [hexhausted]
      cases k.rest <;> rfl
  type_eq h characters := ⟨h, rfl, fun _ hunread => hunread⟩

end Stream

/-! ## A character that arrives

The memory polls, and takes what the poll has found. From outside this is one
event: the first unread character, if there is one, is handed out. -/

namespace Delivers

variable {κ ω : Type} [Delivers κ] [Console ω]

/-- **The first unread character arrives**, if there is one. -/
theorem hold_arrival {k : κ} (h : Sound k) (c : ω) :
    let course := Memory.arrival.hold k c
    course.value = (unread k).head? ∧ course.console = c
      ∧ Sound course.keyboard ∧ unread course.keyboard = (unread k).tail
      ∧ Keyboard.requested course.keyboard = Keyboard.requested k
      ∧ course.exchanges = (Keyboard.poll k).events.map .reported
        ++ .polled (.ok (!(unread k).isEmpty))
          :: (unread k).head?.toList.map fun character => .took (some character) := by
  obtain ⟨hanswer, hsound, hunread, hlatch, hrequested⟩ := poll_eq h
  obtain ⟨htaken, hsound', hunread', hrequested'⟩ :=
    take_eq hsound (hlatch.trans (congrArg _ hunread.symm))
  unfold Memory.arrival
  rw [Dialogue.hold_bind, Dialogue.hold_pollKeyboard]
  dsimp only
  rw [hanswer]
  cases hlist : unread k with
  | nil =>
    rw [hlist] at hunread
    exact ⟨rfl, rfl, hsound, hunread, hrequested, List.append_nil _⟩
  | cons character rest =>
    rw [hunread, hlist] at htaken hunread'
    refine ⟨htaken, rfl, hsound', hunread', hrequested'.trans hrequested, ?_⟩
    show (_ ++ [_]) ++ [Exchange.took (Keyboard.take (Keyboard.poll k).keyboard).1] = _
    rw [htaken, List.append_assoc]
    rfl

end Delivers

end LC3
