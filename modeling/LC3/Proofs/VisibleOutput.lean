import LC3.Proofs.Conversations

/-!
# Output is visible in time

A console may hold back what is written until it is flushed. Nobody types an
answer to a question that cannot be seen, so everything written has to be made
visible before the program waits for a character; and since nobody knows whether
there will be another step, also before a step ends.

Both are read off the talk. A message is flushed as soon as it is written, and a
wait comes before the message or behind it, so each of the three parts of a routine
keeps its user informed by itself, and this is passed on to what is put together
from such parts: routines, steps, sessions (`System.Leads.informs`). It does not
matter how a step ends. How often the console was flushed is read off the talk as
well, of the steps that were completed.
-/

namespace LC3

namespace Exchange

/-! ## Visible output

Both notions speak about every way to split the exchanges at a write or at a
wait. So to put two parts together is to ask in which of them the split is: in
the second, what is flushed there is flushed in the whole; in the first, the
flush is already behind the write there. -/

/-- **All that was written is visible:** behind every write there is a flush that
succeeded. -/
def Visible (exchanges : List Exchange) : Prop :=
  ∀ before bytes answer later, exchanges = before ++ .wrote bytes answer :: later →
    .flushed (.ok ()) ∈ later

/-- **The user is informed:** what was written is visible at the end, and at every
moment at which a character is waited for. -/
structure Informs (exchanges : List Exchange) : Prop where
  visible : Visible exchanges
  visible_of_waited : ∀ before answer later, exchanges = before ++ .waited answer :: later →
    Visible before

/-- What is visible at the end of each of two parts is visible at the end of both. -/
theorem Visible.append {first second : List Exchange} (h : Visible first)
    (h' : Visible second) : Visible (first ++ second) := by
  intro before bytes answer later heq
  obtain ⟨rest, rfl, hrest⟩ | ⟨rest, hfirst, hrest⟩ := List.append_eq_append_iff.1 heq
  · exact h' rest bytes answer later hrest
  · cases rest with
    | nil => exact h' [] bytes answer later hrest.symm
    | cons e rest =>
      obtain ⟨rfl, rfl⟩ := List.cons.inj hrest
      exact List.mem_append_left _ (h before bytes answer rest hfirst)

/-- **What informs at first and then** informs altogether. -/
theorem Informs.append {first second : List Exchange} (h : Informs first) (h' : Informs second) :
    Informs (first ++ second) where
  visible := h.visible.append h'.visible
  visible_of_waited := by
    intro before answer later heq
    obtain ⟨rest, rfl, hrest⟩ | ⟨rest, hfirst, hrest⟩ := List.append_eq_append_iff.1 heq
    · exact h.visible.append (h'.visible_of_waited rest answer later hrest)
    · cases rest with
      | nil =>
        rw [List.append_nil] at hfirst
        exact hfirst ▸ h.visible
      | cons e rest =>
        obtain ⟨rfl, rfl⟩ := List.cons.inj hrest
        exact h.visible_of_waited before answer rest hfirst

/-- The talk decides what is visible, -/
theorem visible_of_talk {exchanges : List Exchange} (h : Visible (talk exchanges)) :
    Visible exchanges := by
  rintro before bytes answer later rfl
  -- a split of the exchanges at a write is a split of the talk as well
  rw [talk_append] at h
  exact (mem_talk.1 (h (talk before) bytes answer (talk later) rfl)).1

/-- and so it decides whether the user is informed. -/
theorem informs_of_talk {exchanges : List Exchange} (h : Informs (talk exchanges)) :
    Informs exchanges where
  visible := visible_of_talk h.visible
  visible_of_waited := by
    rintro before answer later rfl
    rw [talk_append] at h
    exact visible_of_talk (h.visible_of_waited (talk before) answer (talk later) rfl)

/-- Where nothing happens nothing has to be seen. -/
theorem informs_nil : Informs [] := ⟨by simp [Visible], by simp⟩

/-- **What informs one after another** informs altogether, however many there are. -/
theorem informs_flatMap {α : Type} {f : α → List Exchange} {l : List α}
    (h : ∀ a ∈ l, Informs (f a)) : Informs (l.flatMap f) := by
  induction l with
  | nil => exact informs_nil
  | cons a rest ih =>
    rw [List.flatMap_cons]
    exact (h a List.mem_cons_self).append (ih fun b hmem => h b (List.mem_cons_of_mem _ hmem))

/-- A wait informs of nothing, and nothing is due. -/
theorem informs_waited (answer : Except DeviceError (Option UInt8)) :
    Informs [.waited answer] := by
  refine ⟨fun before bytes answer' later heq => ?_, fun before answer' later heq => ?_⟩
  · have hmem : Exchange.wrote bytes answer' ∈ [Exchange.waited answer] :=
      heq ▸ List.mem_append_right _ List.mem_cons_self
    exact nomatch List.eq_of_mem_singleton hmem
  · obtain ⟨rfl, -⟩ | ⟨rest, -, hnil⟩ := List.cons_eq_append_iff.1 heq
    · exact informs_nil.visible
    · exact absurd hnil.symm (by simp)

/-- **A message is visible** once it is said. -/
theorem informs_said (message : List UInt8) : Informs (said message) := by
  refine ⟨fun before bytes answer later heq => ?_, fun before answer later heq => ?_⟩
  · unfold said at heq
    split at heq
    · have hmem : Exchange.wrote bytes answer ∈ [Exchange.flushed (.ok ())] :=
        heq ▸ List.mem_append_right _ List.mem_cons_self
      exact nomatch List.eq_of_mem_singleton hmem
    · obtain ⟨rfl, hfirst⟩ | ⟨rest, -, hrest⟩ := List.cons_eq_append_iff.1 heq
      · cases hfirst
        exact List.mem_cons_self
      · have hmem : Exchange.wrote bytes answer ∈ [Exchange.flushed (.ok ())] :=
          hrest ▸ List.mem_append_right _ List.mem_cons_self
        exact nomatch List.eq_of_mem_singleton hmem
  · have hmem : Exchange.waited answer ∈ said message :=
      heq ▸ List.mem_append_right _ List.mem_cons_self
    unfold said at hmem
    split at hmem <;> simp at hmem

end Exchange

open Exchange (talk Visible Informs flushes informs_nil informs_said informs_waited)

/-! ## Routines

A routine says its message, waits, and echoes, and each of these may be missing.
Every part informs by itself; in particular a prompt is flushed before the wait,
since saying it ends with a flush. -/

section Routines

variable {κ ω : Type} [Keyboard κ] [Console ω]

namespace Trap

/-- **Every routine keeps its user informed**, whichever way it ends. -/
theorem informs_talk (config : Config) (core : Core) (k : κ) (c : ω) (trap : Trap) :
    Informs (trap.talk config core k c) := by
  have hecho : ∀ answer, Informs (trap.echo answer) := by
    intro answer
    match answer with
    | .ok (some character) =>
      unfold echo
      dsimp only
      split
      · exact informs_said _
      · exact informs_nil
    -- without a character there is no echo
    | .ok none | .error e => exact informs_nil
  unfold talk
  refine Informs.append ?_ ?_
  · cases trap.message? config core k c with
    | none => exact informs_nil
    | some message => exact informs_said message
  · split
    · exact (informs_waited _).append (hecho _)
    · exact informs_nil

/-- How often a routine flushes the console, if it comes to its end. -/
def flushes (config : Config) : Trap → Nat
  | getC => 0
  | out | putS | putSP => 1
  | input => 2
  | halt => if config.haltNotice then 1 else 0

/-- **A routine flushes as often as it says something**, an empty message included. It
comes to its end if it does not wait, or is given a character. -/
theorem flushes_talk (config : Config) (core : Core) (k : κ) (c : ω) {trap : Trap}
    (h : trap.Awaits → ∃ character, (Keyboard.wait k).answer = .ok (some character)) :
    Exchange.flushes (trap.talk config core k c) = trap.flushes config := by
  unfold talk
  rw [Exchange.flushes_append]
  cases trap with
  | getC =>
    obtain ⟨character, hanswer⟩ := h (.inl rfl)
    rw [hanswer]
    rfl
  | out | putS | putSP => exact congrArg (· + 0) (Exchange.flushes_said _)
  | input =>
    obtain ⟨character, hanswer⟩ := h (.inr rfl)
    rw [hanswer]
    exact congrArg (· + 1) (Exchange.flushes_said _)
  | halt =>
    unfold message? flushes
    dsimp only
    split
    · exact congrArg (· + 0) (Exchange.flushes_said _)
    · rfl

/-- **A routine that calls the console** is not GETC, and HALT only with the
notice. -/
theorem notice_of_mem_talk {config : Config} {core : Core} {k : κ} {c : ω} {trap : Trap}
    {e : Exchange} (h : e ∈ trap.talk config core k c) (hwaited : ∀ answer, e ≠ .waited answer) :
    trap ≠ getC ∧ (trap = halt → config.haltNotice = true) := by
  refine ⟨?_, ?_⟩
  · rintro rfl
    obtain rfl | hmem := List.mem_cons.1 h
    · exact hwaited _ rfl
    · match hanswer : (Keyboard.wait k).answer with
      | .ok (some character) =>
        rw [hanswer] at hmem
        exact nomatch hmem
      | .ok none =>
        rw [hanswer] at hmem
        exact nomatch hmem
      | .error error =>
        rw [hanswer] at hmem
        exact nomatch hmem
  · rintro rfl
    cases hnotice : config.haltNotice with
    | true => rfl
    | false =>
      unfold talk message? at h
      dsimp only at h
      rw [hnotice] at h
      exact nomatch h

end Trap

/-! ## Steps

Only a called trap talks, so a step informs as its routine does. For the count
of flushes the way a step ends does matter: a wait in vain leaves out the echo
and its flush, and so only completed steps are counted. -/

namespace System

variable {s s' : System κ ω}

/-- **Every step keeps its user informed.** -/
theorem informs_step (haccepts : Console.AcceptsAll s.console) : Informs (talk s.step.2.2) := by
  by_cases h : ∃ trap, s.Executes ∧ s.instruction.Calls trap
  · obtain ⟨trap, hexecutes, hcalls⟩ := h
    rw [talk_step_of_calls hexecutes hcalls haccepts]
    exact trap.informs_talk _ _ _ _
  · rw [talk_step_of_not_calls fun hexecutes trap hcalls => h ⟨trap, hexecutes, hcalls⟩]
    exact informs_nil

/-- **A step is completed** if the program goes on after it, or halts. -/
def Completes (s : System κ ω) : Prop := s.step.1 = .running ∨ s.step.1 = .halted

instance (s : System κ ω) : Decidable s.Completes := inferInstanceAs (Decidable (_ ∨ _))

/-- It has executed an instruction then, -/
theorem Completes.executes (h : s.Completes) : s.Executes := s.executes_of_running_or_halted h

/-- and a character came if it waited for one. -/
theorem Completes.exists_answer (h : s.Completes) {trap : Trap}
    (hcalls : s.instruction.Calls trap) (hawaits : trap.Awaits) :
    ∃ character, (Keyboard.wait s.askedKeyboard).answer = .ok (some character) := by
  have hend := ending_step h.executes hcalls
  rw [polled_keyboard_eq] at hend
  have houtcome : s.step.1 = .running ∨ s.step.1 = .halted := h
  -- with the outcome as a variable the ways in which the routine can have ended are its
  -- cases
  generalize s.step.1 = outcome at hend houtcome
  generalize s.next.machine.core.registers = registers at hend
  cases hend with
  | heard hsaid hawaits hwait => exact ⟨_, hwait⟩
  | finished hsaid hnot => exact absurd hawaits hnot
  | unsaid | unheard | inVain | unechoed => simp at houtcome

/-- **The flushes of a completed step** are those of the routine that it calls. -/
theorem Completes.flushes_eq (h : s.Completes) (haccepts : Console.AcceptsAll s.console) :
    flushes s.step.2.2
      = (if s.instruction.Calls .out then 1 else 0) + (if s.instruction.Calls .putS then 1 else 0)
        + (if s.instruction.Calls .putSP then 1 else 0)
        + 2 * (if s.instruction.Calls .input then 1 else 0)
        + if s.instruction.Calls .halt ∧ s.machine.config.haltNotice = true then 1 else 0 := by
  rw [← Exchange.flushes_talk]
  by_cases hcalls : ∃ trap, s.instruction.Calls trap
  · obtain ⟨trap, hcalls⟩ := hcalls
    have hiff := Instruction.calls_iff hcalls.1 hcalls.2
    rw [talk_step_of_calls h.executes hcalls haccepts,
      Trap.flushes_talk _ _ _ _ (h.exists_answer hcalls)]
    simp only [hiff]
    cases trap with
    | getC | out | putS | putSP | input => simp [Trap.flushes]
    | halt => simp [Trap.flushes]
  · rw [talk_step_of_not_calls fun _ trap hcall => hcalls ⟨trap, hcall⟩]
    simp [not_exists.1 hcalls, flushes]

/-- **Nothing but the traps that print calls the console:** OUT, PUTS, PUTSP, IN, and
HALT if it has something to say. -/
theorem prints_of_mem_step (haccepts : Console.AcceptsAll s.console) {e : Exchange}
    (hmem : e ∈ s.step.2.2) (hconsole : (∃ bytes answer, e = .wrote bytes answer)
      ∨ ∃ answer, e = .flushed answer) :
    s.Executes ∧ (s.instruction.Calls .out ∨ s.instruction.Calls .putS
      ∨ s.instruction.Calls .putSP ∨ s.instruction.Calls .input
      ∨ s.instruction.Calls .halt ∧ s.machine.config.haltNotice = true) := by
  have htalk : e ∈ talk s.step.2.2 := by
    refine Exchange.mem_talk.2 ⟨hmem, ?_⟩
    obtain ⟨bytes, answer, rfl⟩ | ⟨answer, rfl⟩ := hconsole
    · rfl
    · rfl
  have hwaited : ∀ answer, e ≠ .waited answer := by
    obtain ⟨bytes, answer, rfl⟩ | ⟨answer, rfl⟩ := hconsole
    · exact nofun
    · exact nofun
  by_cases h : ∃ trap, s.Executes ∧ s.instruction.Calls trap
  · obtain ⟨trap, hexecutes, hcalls⟩ := h
    rw [talk_step_of_calls hexecutes hcalls haccepts] at htalk
    obtain ⟨hgetC, hnotice⟩ := Trap.notice_of_mem_talk htalk hwaited
    refine ⟨hexecutes, ?_⟩
    cases trap with
    | getC => exact absurd rfl hgetC
    | out => exact .inl hcalls
    | putS => exact .inr (.inl hcalls)
    | putSP => exact .inr (.inr (.inl hcalls))
    | input => exact .inr (.inr (.inr (.inl hcalls)))
    | halt => exact .inr (.inr (.inr (.inr ⟨hcalls, hnotice rfl⟩)))
  · rw [talk_step_of_not_calls fun hexecutes trap hcalls => h ⟨trap, hexecutes, hcalls⟩] at htalk
    exact absurd htalk List.not_mem_nil

/-! ## Sessions

The talk of a session is the talk of its steps (`System.Leads.talk_eq`), since
resets, loads and typing do not call the console. -/

variable {starts : List (System κ ω)} {log : List Touch} {exchanges : List Exchange}

/-- **A session keeps its user informed.** -/
theorem Leads.informs (h : Leads s starts log exchanges s')
    (haccepts : Console.AcceptsAll s.console) : Informs exchanges := by
  refine Exchange.informs_of_talk ?_
  rw [h.talk_eq]
  exact Exchange.informs_flatMap fun t hmem => informs_step (h.acceptsAll haccepts t hmem)

/-- The flushes of completed steps, counted by the traps that they call. -/
theorem flushes_flatMap (hcompletes : ∀ t ∈ starts, t.Completes)
    (haccepts : ∀ t ∈ starts, Console.AcceptsAll t.console) :
    flushes (starts.flatMap fun t => t.step.2.2)
      = starts.countP (fun t => t.instruction.Calls .out)
        + starts.countP (fun t => t.instruction.Calls .putS)
        + starts.countP (fun t => t.instruction.Calls .putSP)
        + 2 * starts.countP (fun t => t.instruction.Calls .input)
        + starts.countP (fun t => t.instruction.Calls .halt
          ∧ t.machine.config.haltNotice = true) := by
  induction starts with
  | nil => rfl
  | cons t rest ih =>
    obtain ⟨hcompletes, hrest⟩ := List.forall_mem_cons.1 hcompletes
    obtain ⟨haccepts, haccepts'⟩ := List.forall_mem_cons.1 haccepts
    rw [List.flatMap_cons, Exchange.flushes_append, hcompletes.flushes_eq haccepts,
      ih hrest haccepts']
    simp only [List.countP_cons, decide_eq_true_eq]
    omega

/-- **Output is visible before the machine waits**, for every session with any system
whose console accepts everything. At every moment at which a character is waited for,
at the end of every step, and at the end of the session, what was written before was
flushed after it was written. Nothing but steps calls the console, and a step does so
only if it executes OUT, PUTS, PUTSP, IN, or HALT with the notice. Of the steps that
were completed, each OUT, PUTS and PUTSP flushed the console once, even if there was
nothing to write, each IN twice, and each HALT once that had a notice to give. -/
theorem output_is_visible {κ ω : Type} [Keyboard κ] [Console ω] {s : System κ ω}
    (haccepts : Console.AcceptsAll s.console) (commands : List Command) :
    let exchanges := (s.obeyAll commands).2.2
    let starts := s.starts commands
    let completed := starts.filter fun t => t.step.1 = .running ∨ t.step.1 = .halted
    let executed (trap : Trap) := completed.countP fun t => t.instruction.Calls trap
    (∀ before answer later, exchanges = before ++ .waited answer :: later → Visible before)
      ∧ (∀ before later, starts = before ++ later →
        Visible (before.flatMap fun t => t.step.2.2))
      ∧ Visible exchanges
      ∧ talk exchanges = talk (starts.flatMap fun t => t.step.2.2)
      ∧ (∀ t ∈ starts, ∀ e ∈ t.step.2.2,
        (∃ bytes answer, e = .wrote bytes answer) ∨ (∃ answer, e = .flushed answer) →
        t.Executes ∧ (t.instruction.Calls .out ∨ t.instruction.Calls .putS
          ∨ t.instruction.Calls .putSP ∨ t.instruction.Calls .input
          ∨ t.instruction.Calls .halt ∧ t.machine.config.haltNotice = true))
      ∧ (∀ t ∈ completed, t.Executes)
      ∧ flushes (completed.flatMap fun t => t.step.2.2)
        = executed .out + executed .putS + executed .putSP + 2 * executed .input
          + completed.countP fun t => t.instruction.Calls .halt
            ∧ t.machine.config.haltNotice = true := by
  intro exchanges starts completed executed
  have hleads := s.leads_obeyAll commands
  have hconsoles := hleads.acceptsAll haccepts
  have hinforms := hleads.informs haccepts
  have hcompleted : ∀ t ∈ completed, t.Completes := fun t hmem =>
    of_decide_eq_true (List.mem_filter.1 hmem).2
  refine ⟨hinforms.visible_of_waited, fun before later hstarts => ?_, hinforms.visible, ?_,
    fun t hmem e => prints_of_mem_step (hconsoles t hmem),
    fun t hmem => (hcompleted t hmem).executes, ?_⟩
  · have hbefore : ∀ t ∈ before, Informs t.step.2.2 := fun t hmem =>
      Exchange.informs_of_talk (informs_step (hconsoles t (by
        rw [show s.starts commands = before ++ later from hstarts]
        exact List.mem_append_left _ hmem)))
    exact (Exchange.informs_flatMap hbefore).visible
  · rw [Exchange.talk_flatMap]
    exact hleads.talk_eq
  · exact flushes_flatMap hcompleted fun t hmem => hconsoles t (List.mem_filter.1 hmem).1

/-- A program that asks for a character behind a prompt. -/
def asksWithPrompt : System Scripted Collector :=
  ⟨{ Machine.loaded [0xF023] with config := ⟨true, "? ", none⟩ }, { queue := [0x61] }, {}⟩

/-- The prompt can be seen when the character is waited for. -/
theorem output_is_visible_asksWithPrompt :
    Console.AcceptsAll asksWithPrompt.console
      ∧ ∃ before later, (asksWithPrompt.obeyAll [.step]).2.2
          = before ++ .waited (.ok (some 0x61)) :: later
        ∧ Visible before ∧ Visible (asksWithPrompt.obeyAll [.step]).2.2 := by
  have haccepts : Console.AcceptsAll asksWithPrompt.console :=
    Collector.Wide.acceptsAll ⟨rfl, rfl⟩
  have hexecutes : asksWithPrompt.Executes := ⟨rfl, rfl, by decide⟩
  have hinstruction : asksWithPrompt.instruction = .ofWord 0xF023 :=
    instruction_of_cell (by decide) (Machine.read_loaded (i := 0) rfl (by decide) (by decide))
  have hcalls : asksWithPrompt.instruction.Calls .input := by
    rw [hinstruction]
    decide
  have hanswer : (Keyboard.wait asksWithPrompt.askedKeyboard).answer = .ok (some 0x61) := rfl
  have hwaited : .waited (.ok (some 0x61)) ∈ (asksWithPrompt.obeyAll [.step]).2.2 := by
    have htalk := (asksWithPrompt.leads_obeyAll [.step]).talk_eq
    rw [show asksWithPrompt.starts [.step] = [asksWithPrompt] from rfl, List.flatMap_singleton,
      talk_step_of_calls hexecutes hcalls haccepts, Trap.talk, if_pos (.inr rfl), hanswer] at htalk
    have hmem : .waited (.ok (some 0x61)) ∈ talk (asksWithPrompt.obeyAll [.step]).2.2 := by
      rw [htalk]
      exact List.mem_append_right _ List.mem_cons_self
    exact (Exchange.mem_talk.1 hmem).1
  obtain ⟨before, later, hsplit⟩ := List.append_of_mem hwaited
  obtain ⟨hbefore, -, hlast, -⟩ := output_is_visible haccepts [.step]
  exact ⟨haccepts, before, later, hsplit, hbefore before _ later hsplit, hlast⟩

end System

end Routines

end LC3
