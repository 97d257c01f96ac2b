import LC3.Proofs.Deliveries

/-!
# Streams that fail

A stream may be cut off, fail, and find the end of its input, in any order, and a
keyboard on it is polled, taken from and waited on, in any order too. Nothing is
lost by that. Every step of the stream that was **consumed** is accounted for by
the answers that the keyboard gave (`Stream.Accounts`): a byte was handed out or is
in the latch, a failure was answered once, a step that was cut off left no mark at
all, and behind an end of the input nothing is consumed any more.

One question consumes at most one step that is not cut off
(`Stream.Consumes`); the statement on any number of questions
(`Stream.accounts_for_every_step`) follows by induction. That steps which are cut
off leave no mark is proved by comparison with a stream from which they were left
out (`Stream.uncut`).
-/

namespace LC3

/-! ## Questions to a keyboard -/

/-- **A question to a keyboard** that may change it. -/
inductive Question where
  /-- Whether a character is there. -/
  | poll
  /-- The character that was found. -/
  | take
  /-- The next character. -/
  | wait
  deriving DecidableEq, Repr

namespace Question

variable {κ : Type} [Keyboard κ]

/-- Puts the question. -/
def put (k : κ) : Question → Exchange × κ
  | poll => (.polled (Keyboard.poll k).answer, (Keyboard.poll k).keyboard)
  | take => (.took (Keyboard.take k).1, (Keyboard.take k).2)
  | wait => (.waited (Keyboard.wait k).answer, (Keyboard.wait k).keyboard)

/-- **Puts one question after another.** -/
def putAll (k : κ) : List Question → List Exchange × κ
  | [] => ([], k)
  | q :: rest => ((q.put k).1 :: (putAll (q.put k).2 rest).1, (putAll (q.put k).2 rest).2)

/-- Every question is answered. -/
theorem length_putAll (k : κ) (questions : List Question) :
    (putAll k questions).1.length = questions.length := by
  induction questions generalizing k with
  | nil => rfl
  | cons q rest ih => exact congrArg (· + 1) (ih _)

end Question

/-- What the keyboard failed with, if a poll or a wait was answered by a failure. -/
def Exchange.refused? : Exchange → Option DeviceError
  | polled (.error e) | waited (.error e) => some e
  | _ => none

namespace Stream

open Exchange (delivered delivered_append delivered? refused?)
open Question (putAll length_putAll)

/-- The failure in a step, if it is one. -/
def failure? : StreamStep → Option DeviceError
  | .failure e => some e
  | _ => none

/-! ## One question -/

@[simp] theorem put_poll (k : Stream) :
    Question.poll.put k = (.polled k.poll.answer, k.poll.keyboard) := rfl

@[simp] theorem put_take (k : Stream) : Question.take.put k = (.took k.take.1, k.take.2) := rfl

@[simp] theorem put_wait (k : Stream) :
    Question.wait.put k = (.waited k.wait.answer, k.wait.keyboard) := rfl

/-- **What an answer consumed.** The steps that are gone from the stream are those
of which the answer, together with the latch, is the account. -/
structure Consumes (k : Stream) (e : Exchange) (k' : Stream) (consumed : List StreamStep) :
    Prop where
  /-- They were the first of the stream. -/
  steps : consumed ++ k'.steps = k.steps
  /-- A byte among them is handed out or found. -/
  handed : e.delivered?.toList ++ k'.latch.toList = k.latch.toList ++ consumed.filterMap byte?
  /-- A failure among them is the answer. -/
  refused : e.refused?.toList = consumed.filterMap failure?
  /-- With a failure for an answer nothing is found. -/
  latch_of_refused : e.refused? ≠ none → k'.latch = none
  /-- The end of the input is the last of them. -/
  finish_last : .finish ∉ consumed.dropLast
  /-- Behind the end of the input there are none. -/
  nil_of_ended : k.ended = true → consumed = []
  /-- The end of the input is found, and stays found. -/
  ended : k.ended = true ∨ .finish ∈ consumed → k'.ended = true
  /-- It is found as a step, or behind the last one. -/
  ended_cases : k'.ended = true → k.ended = true ∨ .finish ∈ consumed ∨ k'.steps = []
  /-- A wait in vain found it, and nothing else. -/
  inVain : e = .waited (.ok none) → k'.ended = true ∧ k'.latch = none
  /-- Such a wait requests shutdown, and nothing takes this back. -/
  exhausted : k'.exhausted = true ↔ k.exhausted = true ∨ e = .waited (.ok none)

/-- What was cut off is consumed along with what is behind it. -/
theorem Consumes.cutOff {k k' : Stream} {e : Exchange} {consumed : List StreamStep}
    (h : Consumes k e k' consumed) (hended : k.ended = false) :
    Consumes { k with steps := .cutOff :: k.steps } e k' (.cutOff :: consumed) where
  steps := congrArg (StreamStep.cutOff :: ·) h.steps
  handed := h.handed
  refused := h.refused
  latch_of_refused := h.latch_of_refused
  finish_last := by
    cases consumed with
    | nil => simp
    | cons step rest => simpa using h.finish_last
  nil_of_ended hk := absurd hk (by simp [hended])
  ended hk := h.ended (by simpa using hk)
  ended_cases hk := by simpa using h.ended_cases hk
  inVain := h.inVain
  exhausted := h.exhausted

/-- **With something found** no question consumes anything. -/
theorem consumes_of_some {k : Stream} {c : UInt8} (hlatch : k.latch = some c) (q : Question) :
    Consumes k (q.put k).1 (q.put k).2 [] := by
  obtain ⟨steps, latch, ended, exhausted⟩ := k
  obtain rfl : latch = some c := hlatch
  cases q <;> constructor <;> simp_all [poll, take, wait, delivered?, refused?]

/-- **With nothing found** a byte is read: what is cut off is consumed, and one step
more, if there is one. -/
theorem exists_consumes_of_none {k : Stream} (hlatch : k.latch = none) {q : Question}
    (hq : q ≠ .take) : ∃ consumed, Consumes k (q.put k).1 (q.put k).2 consumed := by
  obtain ⟨steps, latch, ended, exhausted⟩ := k
  obtain rfl : latch = none := hlatch
  cases ended with
  | true =>
    refine ⟨[], ?_⟩
    cases q <;> constructor <;> simp_all [poll, wait, next, delivered?, refused?]
  | false =>
    -- the induction passes over what is cut off; any other step ends it
    induction steps with
    | nil =>
      refine ⟨[], ?_⟩
      cases q <;> constructor <;> simp_all [poll, wait, next, attempt, delivered?, refused?]
    | cons step rest ih =>
      by_cases hcutOff : step = .cutOff
      · subst hcutOff
        obtain ⟨consumed, h⟩ := ih
        have hput : q.put (⟨.cutOff :: rest, none, false, exhausted⟩ : Stream)
            = q.put (⟨rest, none, false, exhausted⟩ : Stream) := by
          cases q with
          | take => exact absurd rfl hq
          | poll | wait => rfl
        rw [hput]
        exact ⟨.cutOff :: consumed, h.cutOff rfl⟩
      · refine ⟨[step], ?_⟩
        cases step with
        | cutOff => exact absurd rfl hcutOff
        | byte | finish | failure =>
          cases q <;> constructor <;>
            simp_all [poll, wait, next, attempt, byte?, failure?, delivered?, refused?]

/-- **Any question** consumes the steps of which its answer, together with the
latch, is the account. -/
theorem exists_consumes (k : Stream) (q : Question) :
    ∃ consumed, Consumes k (q.put k).1 (q.put k).2 consumed := by
  cases hlatch : k.latch with
  | some c => exact ⟨[], consumes_of_some hlatch q⟩
  | none =>
    by_cases hq : q = .take
    · subst hq
      refine ⟨[], ?_⟩
      constructor <;> simp_all [take, delivered?, refused?]
    · exact exists_consumes_of_none hlatch hq

/-- Where the end was found, with nothing before it, nothing will be found. -/
theorem Consumes.latch_of_ended {k k' : Stream} {e : Exchange} {consumed : List StreamStep}
    (h : Consumes k e k' consumed) (hended : k.ended = true) (hlatch : k.latch = none) :
    k'.latch = none := by
  have hnothing := h.handed
  rw [h.nil_of_ended hended, hlatch] at hnothing
  simp at hnothing
  exact hnothing.2

/-! ## Any number of questions -/

/-- **The answers account for the steps that were consumed.** -/
structure Accounts (script : List StreamStep) (history : List Exchange) (k : Stream)
    (consumed : List StreamStep) : Prop where
  /-- The steps that were consumed were the first of the stream. -/
  steps : consumed ++ k.steps = script
  /-- The bytes among them were handed out, in order, but for one that is in the latch. -/
  handed : delivered history ++ k.latch.toList = consumed.filterMap byte?
  /-- Each failure among them was the answer to one question, in order. -/
  refused : history.filterMap refused? = consumed.filterMap failure?
  /-- Such an answer leaves the latch empty. -/
  latch_of_refused : ∀ e ∈ history.getLast?, e.refused? ≠ none → k.latch = none
  /-- Nothing was consumed behind an end of the input. -/
  finish_last : .finish ∉ consumed.dropLast
  /-- The end of the input was found if it was consumed, -/
  ended : .finish ∈ consumed → k.ended = true
  /-- or behind the last step. -/
  ended_cases : k.ended = true → .finish ∈ consumed ∨ k.steps = []
  /-- Shutdown is requested if a wait was in vain. -/
  exhausted : k.exhausted = true ↔ .waited (.ok none) ∈ history
  /-- Then the end of the input was found, and the latch is empty. -/
  ended_of_exhausted : k.exhausted = true → k.ended = true ∧ k.latch = none

/-- Before the first question all of the script is left. -/
theorem accounts_nil (script : List StreamStep) : Accounts script [] { steps := script } [] := by
  constructor <;> simp [delivered]

/-- **One more question** leaves everything accounted for. -/
theorem Accounts.snoc {script consumed more : List StreamStep} {history : List Exchange}
    {k k' : Stream} {e : Exchange} (h : Accounts script history k consumed)
    (hput : Consumes k e k' more) :
    Accounts script (history ++ [e]) k' (consumed ++ more) where
  steps := by rw [List.append_assoc, hput.steps, h.steps]
  handed := by
    have he : delivered [e] = e.delivered?.toList := by
      cases hd : e.delivered? <;> simp [delivered, hd]
    rw [delivered_append, List.append_assoc, he, hput.handed, ← List.append_assoc, h.handed,
      List.filterMap_append]
  refused := by
    have he : [e].filterMap refused? = e.refused?.toList := by
      cases hr : e.refused? <;> simp [hr]
    rw [List.filterMap_append, List.filterMap_append, h.refused, he, hput.refused]
  latch_of_refused := by simpa using hput.latch_of_refused
  finish_last := by
    obtain rfl | hmore := eq_or_ne more []
    · simpa using h.finish_last
    · -- behind an end nothing more would have been consumed
      have hconsumed : .finish ∉ consumed := fun hmem =>
        hmore (hput.nil_of_ended (h.ended hmem))
      rw [List.dropLast_append_of_ne_nil hmore]
      simp [hconsumed, hput.finish_last]
  ended hmem := hput.ended ((List.mem_append.1 hmem).imp_left h.ended)
  ended_cases hended := by
    obtain hbefore | hfinish | hover := hput.ended_cases hended
    · obtain hfinish | hover := h.ended_cases hbefore
      · exact .inl (List.mem_append_left _ hfinish)
      · exact .inr (List.append_eq_nil_iff.1 (hput.steps.trans hover)).2
    · exact .inl (List.mem_append_right _ hfinish)
    · exact .inr hover
  exhausted := by
    rw [hput.exhausted, h.exhausted]
    simp [eq_comm]
  ended_of_exhausted hexhausted := by
    obtain hbefore | hvain := hput.exhausted.1 hexhausted
    · obtain ⟨hended, hlatch⟩ := h.ended_of_exhausted hbefore
      exact ⟨hput.ended (.inl hended), hput.latch_of_ended hended hlatch⟩
    · exact hput.inVain hvain

/-- **Any number of questions** leave everything accounted for. -/
theorem Accounts.putAll {script consumed : List StreamStep} {history : List Exchange}
    {k : Stream} (h : Accounts script history k consumed) (questions : List Question) :
    ∃ consumed', Accounts script (history ++ (putAll k questions).1) (putAll k questions).2
      consumed' := by
  induction questions generalizing history k consumed with
  | nil => exact ⟨consumed, by simpa [Question.putAll] using h⟩
  | cons q rest ih =>
    obtain ⟨more, hput⟩ := k.exists_consumes q
    obtain ⟨consumed', hrest⟩ := ih (h.snoc hput)
    exact ⟨consumed', by simpa [Question.putAll] using hrest⟩

/-! ## Steps that are cut off -/

/-- The keyboard on the same stream, never cut off. -/
def uncut (k : Stream) : Stream := { k with steps := k.steps.filter (· ≠ .cutOff) }

/-- An attempt passes over the steps that are cut off, so it finds the same without
them. -/
theorem attempt_uncut (steps : List StreamStep) :
    attempt (steps.filter (· ≠ .cutOff))
      = ((attempt steps).1, (attempt steps).2.1.filter (· ≠ .cutOff), (attempt steps).2.2) := by
  induction steps with
  | nil => rfl
  | cons step rest ih =>
    cases step with
    | cutOff => exact ih
    | byte | finish | failure => rfl

/-- So does reading the next character. -/
theorem next_uncut (k : Stream) :
    k.uncut.next = ⟨k.next.answer, k.next.keyboard.uncut, k.next.events⟩ := by
  obtain ⟨steps, latch, ended, exhausted⟩ := k
  cases ended with
  | true => rfl
  | false =>
    unfold next uncut
    dsimp only
    rw [if_neg Bool.false_ne_true, if_neg Bool.false_ne_true, attempt_uncut]
    match attempt steps with
    | (answer, rest, true) => rfl
    | (answer, rest, false) => rfl

/-- **No question tells** whether the stream is cut off. -/
theorem put_uncut (k : Stream) (q : Question) :
    q.put k.uncut = ((q.put k).1, (q.put k).2.uncut) := by
  have hlatch' : k.uncut.latch = k.latch := rfl
  cases q with
  | take => rfl
  | poll =>
    rw [put_poll, put_poll]
    unfold poll
    rw [hlatch', next_uncut]
    cases k.latch with
    | some c => rfl
    | none =>
      match k.next with
      | ⟨.ok found, k, events⟩ => rfl
      | ⟨.error e, k, events⟩ => rfl
  | wait =>
    rw [put_wait, put_wait]
    unfold wait
    rw [hlatch', next_uncut]
    cases k.latch with
    | some c => rfl
    | none =>
      match k.next with
      | ⟨.ok (some c), k, events⟩ => rfl
      | ⟨.ok none, k, events⟩ => rfl
      | ⟨.error e, k, events⟩ => rfl

/-- Nor do questions one after another. -/
theorem putAll_uncut (k : Stream) (questions : List Question) :
    putAll k.uncut questions = ((putAll k questions).1, (putAll k questions).2.uncut) := by
  induction questions generalizing k with
  | nil => rfl
  | cons q rest ih =>
    unfold putAll
    rw [put_uncut, ih]

/-! ## The whole account -/

/-- **Once the end of the input was found** nothing is consumed, and an empty latch
stays empty. -/
theorem putAll_of_ended {k : Stream} (hended : k.ended = true) (questions : List Question) :
    (putAll k questions).2.steps = k.steps
      ∧ (k.latch = none → (putAll k questions).2.latch = none) := by
  induction questions generalizing k with
  | nil => exact ⟨rfl, id⟩
  | cons q rest ih =>
    obtain ⟨consumed, h⟩ := k.exists_consumes q
    obtain ⟨hsteps, hlatch⟩ := ih (h.ended (.inl hended))
    refine ⟨hsteps.trans ?_, fun hempty => hlatch (h.latch_of_ended hended hempty)⟩
    have hnothing := h.steps
    rw [h.nil_of_ended hended] at hnothing
    exact hnothing

/-- **A keyboard on a faulty stream delivers it faithfully**, whatever it is asked
and in whatever order. Every question is answered, and the answers account for every
step that was consumed. They are those of the stream without the steps that are cut
off. A poll consumes nothing while a character is found. Behind the end of the input
nothing is consumed any more, and once shutdown is requested nothing is found any
more. -/
theorem accounts_for_every_step (script : List StreamStep) (questions : List Question) :
    let (history, k) := putAll ({ steps := script } : Stream) questions
    history.length = questions.length
      ∧ (∃ consumed, Accounts script history k consumed)
      ∧ (putAll ({ steps := script.filter (· ≠ .cutOff) } : Stream) questions).1 = history
      ∧ (k.latch ≠ none → Question.poll.put k = (.polled (.ok true), k))
      ∧ ∀ later : List Question,
        (k.ended = true → (putAll k later).2.steps = k.steps)
          ∧ (k.exhausted = true → (putAll k later).2.latch = none) := by
  have haccounts := (accounts_nil script).putAll questions
  have huncut := congrArg Prod.fst (putAll_uncut { steps := script } questions)
  have hlength := length_putAll ({ steps := script } : Stream) questions
  generalize putAll ({ steps := script } : Stream) questions = result at *
  obtain ⟨history, k⟩ := result
  refine ⟨hlength, haccounts, huncut, fun hfound => ?_, fun later => ⟨fun hended => ?_, ?_⟩⟩
  · obtain ⟨c, hlatch⟩ := Option.ne_none_iff_exists'.1 hfound
    simp [poll, hlatch]
  · exact (putAll_of_ended hended later).1
  · intro hexhausted
    obtain ⟨consumed, h⟩ := haccounts
    obtain ⟨hended, hlatch⟩ := h.ended_of_exhausted hexhausted
    exact (putAll_of_ended hended later).2 hlatch

/-- What is cut off is not seen, and the byte behind the end is never read. -/
example :
    putAll ({ steps := [.cutOff, .byte 0x61, .finish, .byte 0x62] } : Stream) [.poll, .wait, .wait]
      = ([.polled (.ok true), .waited (.ok (some 0x61)), .waited (.ok none)],
        { steps := [.byte 0x62], ended := true, exhausted := true }) := rfl

end Stream

end LC3
