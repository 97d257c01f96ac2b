import LC3.Proofs.LastStored
import LC3.Proofs.StepOutcomes

/-!
# Steps that execute an instruction

Three things keep a step from executing an instruction: the limit is reached,
shutdown was requested, or the count of steps is used up. `System.Executes`
says that none of them does, and `System.step_cases` that there is no fifth
case; for each of the four there is an equation for the step and one for what
it touches. A statement about all steps is then proved by these four cases,
and only the last of them goes on to the operations.

Most of what an instruction touches it only looks at. A look is a read that
has no effect, and a step that only looks leaves the memory as it was
(`System.memory_eq_of_looks`).
-/

namespace LC3

open Memory (statusAddress dataAddress)
open Dialogue (ends_bind ends_of_forall)

/-! ## Machines at the start of a program

A program can start on a new machine, after a reset, and after it was loaded.
What these have in common is all that a statement about whole programs needs to
assume. -/

namespace Machine

/-- **A machine at the start:** its registers are those of a new machine, and
no step was counted. Its memory and its settings may be any. -/
structure AtStart (m : Machine) : Prop where
  registers : m.core.registers = .initial
  steps : m.steps = 0

/-- A new machine is at the start. -/
theorem atStart_initial : initial.AtStart := ⟨rfl, rfl⟩

/-- So is every machine that was reset, -/
theorem ends_reset_atStart (m : Machine) : m.reset.Ends AtStart := by
  unfold reset
  exact ends_bind.2 ⟨rfl, rfl⟩

/-- and every machine that a program was loaded into. -/
theorem ends_load_atStart (m : Machine) (program : List Word) :
    (m.load program).Ends fun (result, m') => result = .ok () → m'.AtStart := by
  unfold load
  cases program with
  | nil => exact nofun
  | cons origin words =>
    dsimp only
    cases m.core.memory.load origin words with
    | error e => exact nofun
    | ok memory =>
      refine ends_bind.2 ((ends_reset_atStart _).imp fun m' hstart => ?_)
      exact ends_bind.2 fun _ => hstart

end Machine

/-! ## What cannot fail -/

/-- What cannot fail leaves the console alone. -/
theorem Dialogue.CannotFail.console_eq {κ ω α : Type} [Keyboard κ] [Console ω]
    {x : Dialogue α} (h : x.CannotFail) (k : κ) (c : ω) : (x.hold k c).console = c := by
  induction x generalizing k c with
  | done a => rfl
  | poll next ih => exact ih _ (h _) _ _
  | take next ih => exact ih _ (h _) _ _
  | wait next ih =>
    obtain ⟨a, -, hfalse⟩ := h.2.1.eq_done
    exact hfalse.elim
  | requested next ih => exact ih _ (h _) _ _
  | write bytes next ih =>
    obtain ⟨a, -, hfalse⟩ := (h.2 Collector.brokenPipe).eq_done
    exact hfalse.elim
  | flush next ih =>
    obtain ⟨a, -, hfalse⟩ := (h.2 Collector.brokenPipe).eq_done
    exact hfalse.elim
  | report event rest ih => exact ih h _ _

/-! ## The four cases of a step

The conditions are looked at in this order, so each case has those before it
denied. The third one cannot be undone: the instruction is fetched before the
count is found to be used up. -/

namespace System

variable {κ ω : Type} [Keyboard κ] [Console ω]

/-- The keyboard is polled if a poll is due. -/
theorem polled_keyboard (s : System κ ω) :
    s.polled.keyboard
      = if s.machine.PollIsDue then (Keyboard.poll s.keyboard).keyboard else s.keyboard := by
  split
  next hdue => exact (polled_of_due hdue).1
  next hdue => rw [polled_of_not_due hdue]

/-- The poll between instructions leaves the console alone, -/
theorem polled_console (s : System κ ω) : s.polled.console = s.console :=
  s.machine.cannotFail_pollBetween.console_eq _ _

/-- and so does the fetch. -/
theorem fetched_console (s : System κ ω) : s.fetched.console = s.console :=
  (Memory.cannotFail_read _ _).console_eq _ _

/-- **A step executes an instruction** if the limit is not reached, shutdown
was not requested up to the poll that may be due, and one more step can be
counted. -/
structure Executes (s : System κ ω) : Prop where
  unlimited : s.machine.limitReached? = none
  unrequested : Keyboard.requested s.polled.keyboard = false
  countable : s.machine.steps ≠ Machine.maxCount

instance (s : System κ ω) : Decidable s.Executes :=
  decidable_of_iff (s.machine.limitReached? = none
      ∧ Keyboard.requested s.polled.keyboard = false ∧ s.machine.steps ≠ Machine.maxCount)
    ⟨fun ⟨h, h', h''⟩ => ⟨h, h', h''⟩, fun h => ⟨h.unlimited, h.unrequested, h.countable⟩⟩

/-- **How far a step gets.** -/
theorem step_cases (s : System κ ω) :
    (∃ limit, s.machine.limitReached? = some limit)
      ∨ (s.machine.limitReached? = none ∧ Keyboard.requested s.polled.keyboard = true)
      ∨ (s.machine.limitReached? = none ∧ Keyboard.requested s.polled.keyboard = false
        ∧ s.machine.steps = Machine.maxCount)
      ∨ s.Executes := by
  cases hlimit : s.machine.limitReached? with
  | some limit => exact .inl ⟨limit, rfl⟩
  | none =>
    cases hrequested : Keyboard.requested s.polled.keyboard with
    | true => exact .inr (.inl ⟨rfl, rfl⟩)
    | false =>
      by_cases hfull : s.machine.steps = Machine.maxCount
      · exact .inr (.inr (.inl ⟨rfl, rfl, hfull⟩))
      · exact .inr (.inr (.inr ⟨hlimit, hrequested, hfull⟩))

/-- A step that cannot be counted is a fetch. -/
theorem step_of_full {s : System κ ω} (hlimit : s.machine.limitReached? = none)
    (hrequested : Keyboard.requested s.polled.keyboard = false)
    (hfull : s.machine.steps = Machine.maxCount) :
    s.step = (.crash .arithmetic,
      ⟨{ s.polled.machine with
          core := ⟨s.machine.core.registers.advance, s.polled.fetched.value.2⟩ },
        s.polled.fetched.keyboard, s.polled.fetched.console⟩,
      s.pollExchanges ++ .asked false :: s.polled.fetched.exchanges) := by
  obtain ⟨hcore, -, hsteps⟩ := s.polled_machine
  rw [step_eq_cycle hlimit hrequested, cycle_of_full (hsteps.trans hfull), hcore]

/-- The instruction takes effect after the program counter moved on, with the
devices as the fetch left them. -/
theorem effect_polled (s : System κ ω) :
    s.polled.effect
      = (Core.execute s.machine.config s.machine.core.registers.pc
          ⟨s.machine.core.registers.advance, s.polled.fetched.value.2⟩ s.instruction).hold
            s.polled.fetched.keyboard s.console := by
  obtain ⟨hcore, hconfig, -⟩ := s.polled_machine
  unfold effect
  rw [fetched_console, polled_console, hcore, hconfig]
  rfl

/-- **A step that executes an instruction** fetches it, counts the step, and
lets the instruction take effect. -/
theorem step_of_executes {s : System κ ω} (h : s.Executes) :
    s.step = (s.polled.effect.value.1,
      ⟨{ s.polled.machine with
          core := s.polled.effect.value.2, steps := s.machine.steps + 1 },
        s.polled.effect.keyboard, s.polled.effect.console⟩,
      s.pollExchanges ++ .asked false :: (s.polled.fetched.exchanges
        ++ .reported (.executed s.machine.core.registers.pc s.instruction)
          :: s.polled.effect.exchanges)) := by
  obtain ⟨hcore, -, hsteps⟩ := s.polled_machine
  rw [step_eq_cycle h.unlimited h.unrequested, cycle_eq (hsteps ▸ h.countable), hcore, hsteps]
  rfl

/-! ## What they touch

A step touches nothing before its fetch, and what it touches afterwards follows
from its operation. So there is an empty log in the first two cases, a log of
one word in the third, and in the fourth a log that starts with this word. -/

/-- At the limit nothing is touched. -/
theorem touches_of_limit {s : System κ ω} {limit : UInt64}
    (h : s.machine.limitReached? = some limit) : s.touches = [] := by
  obtain ⟨machine, keyboard, console⟩ := s
  unfold touches act Machine.stepLogged
  dsimp only at h ⊢
  rw [h]
  rfl

/-- Nothing is touched by a step that is interrupted before the fetch. -/
theorem touches_of_requested {s : System κ ω} (hlimit : s.machine.limitReached? = none)
    (hrequested : Keyboard.requested s.polled.keyboard = true) : s.touches = [] := by
  obtain ⟨machine, keyboard, console⟩ := s
  have hasked : Keyboard.requested (machine.pollBetween.hold keyboard console).keyboard = true :=
    hrequested
  unfold touches act Machine.stepLogged
  dsimp only at hlimit ⊢
  rw [hlimit]
  dsimp only
  rw [Dialogue.hold_bind, Dialogue.hold_bind, Dialogue.hold_shutdownRequested]
  dsimp only
  rw [hasked, if_pos rfl]
  rfl

/-- A step that cannot be counted touches the word that it fetches. -/
theorem touches_of_full {s : System κ ω} (hlimit : s.machine.limitReached? = none)
    (hrequested : Keyboard.requested s.polled.keyboard = false)
    (hfull : s.machine.steps = Machine.maxCount) :
    s.touches = [.read s.machine.core.registers.pc s.polled.fetched.value.1] := by
  obtain ⟨hcore, -, hsteps⟩ := s.polled_machine
  obtain ⟨later, hlog, ⟨-, rfl⟩ | ⟨hleft, -⟩⟩ := s.polled.fetchesFirst_cycleLogged
  · rw [touches_eq_cycleLogged hlimit hrequested, hlog, hcore]
  · exact absurd (hsteps.trans hfull) hleft

/-- **A step that executes an instruction** touches its word and what it
touches itself. -/
theorem exists_touches {s : System κ ω} (h : s.Executes) :
    ∃ later, s.touches = .read s.machine.core.registers.pc s.polled.fetched.value.1 :: later
      ∧ s.instruction.Touches s.machine.core.registers.advance later := by
  obtain ⟨hcore, -, hsteps⟩ := s.polled_machine
  obtain ⟨later, hlog, ⟨hfull, -⟩ | ⟨-, htouches⟩⟩ := s.polled.fetchesFirst_cycleLogged
  · exact absurd (hsteps.symm.trans hfull) h.countable
  · rw [hcore] at hlog htouches
    exact ⟨later, (touches_eq_cycleLogged h.unlimited h.unrequested).trans hlog, htouches⟩

end System

/-- Only the traps that print a string touch memory. -/
theorem Instruction.eq_nil_of_touches {i : Instruction} {r : Registers} {log : List Touch}
    (htrap : i.opcode = .trap) (hstring : ¬ i.Calls .putS ∧ ¬ i.Calls .putSP)
    (h : i.Touches r log) : log = [] := by
  unfold Touches at h
  rw [htrap] at h
  dsimp only at h
  cases hvector : Trap.ofVector? i.vector with
  | none =>
    rw [hvector] at h
    exact h
  | some trap =>
    rw [hvector] at h
    cases trap with
    | putS => exact absurd ⟨htrap, hvector⟩ hstring.1
    | putSP => exact absurd ⟨htrap, hvector⟩ hstring.2
    | getC | out | input | halt => exact h

/-! ## Looks

A read has an effect at two addresses only: at the status register it may bring
a character, and at the data register it gives the character away. -/

/-- The words of a string are only read. -/
theorem Touch.exists_read_of_mem {touch : Touch} {b : Word} {words : List Word}
    (h : touch ∈ readsFrom b words) : ∃ a w, touch = .read a w := by
  induction words generalizing b with
  | nil => exact nomatch h
  | cons w rest ih =>
    obtain rfl | h := List.mem_cons.1 h
    · exact ⟨b, w, rfl⟩
    · exact ih h

/-- **A touch is a look** if it reads a word that reading leaves in place. -/
def Touch.IsLook : Touch → Prop
  | read a _ => a ≠ statusAddress ∧ a ≠ dataAddress
  | stored .. | loaded .. => False

/-- **Work that only looks** leaves the memory as it was. -/
theorem Work.ends_logged_of_looks {α : Type} (x : Work α) (m : Memory) :
    (x.logged m).Ends fun ((_, m'), log) => (∀ touch ∈ log, touch.IsLook) → m' = m := by
  induction x generalizing m with
  | done a => exact fun _ => rfl
  | read a next ih =>
    -- a read that is no look is in the log, and all in the log are looks
    by_cases hlook : a ≠ statusAddress ∧ a ≠ dataAddress
    · unfold logged
      rw [m.read_eq_done hlook.1 hlook.2]
      refine ends_bind.2 (ends_bind.2 ((ih (m.peek a) m).imp ?_))
      rintro ⟨⟨result, m'⟩, log⟩ hlog hall
      exact hlog fun touch hmem => hall touch (List.mem_cons_of_mem _ hmem)
    · refine ends_bind.2 (ends_of_forall ?_ _)
      rintro ⟨w, m'⟩
      refine ends_bind.2 (ends_of_forall ?_ _)
      rintro ⟨⟨result, m''⟩, log⟩ hall
      exact absurd (hall (.read a w) List.mem_cons_self) hlook
  | store a value rest ih =>
    refine ends_bind.2 (ends_bind.2 (ends_of_forall ?_ _))
    rintro ⟨⟨result, m'⟩, log⟩ hall
    exact (hall (.stored a value) List.mem_cons_self).elim
  | wait next ih => exact ends_bind.2 (ends_of_forall (fun answer => ih answer m) _)
  | say message next ih => exact ends_bind.2 (ends_of_forall (fun answer => ih answer m) _)
  | tell event rest ih => exact ih m

/-- So does a step, whose poll between instructions keeps the memory in any case. -/
theorem Machine.ends_stepLogged_of_looks (m : Machine) :
    m.stepLogged.Ends fun ((_, log), m') =>
      (∀ touch ∈ log, touch.IsLook) → m'.core.memory = m.core.memory := by
  unfold stepLogged
  split
  · exact ends_bind.2 fun _ => rfl
  · refine ends_bind.2 (m.ends_pollBetween_eq.imp ?_)
    rintro m' ⟨failed, rfl⟩
    refine ends_bind.2 (ends_of_forall (fun requested => ?_) _)
    split
    · exact ends_bind.2 fun _ => rfl
    · exact ends_bind.2 ((Work.ends_logged_of_looks _ _).imp fun _ h => h)

/-- **A step that only looks** leaves the memory as it was. -/
theorem System.memory_eq_of_looks {κ ω : Type} [Keyboard κ] [Console ω] {s : System κ ω}
    (h : ∀ touch ∈ s.touches, touch.IsLook) :
    s.next.machine.core.memory = s.machine.core.memory := by
  have hstep := s.value_act s.machine.ends_stepLogged_of_looks
  rw [act_stepLogged] at hstep
  exact hstep h

end LC3
