import LC3.Proofs.BrokenConsoles
import LC3.Proofs.IntervalPoll

/-!
# How steps end when no device fails

With a keyboard that delivers a text and a console that takes everything there
is one thing left that can keep an instruction from its outcome: a trap that
waits for a character, when all characters were read. So the outcome of a step
depends on the instruction, and on whether anything is left to read
(`System.Steady.step_eq`). A poll at the end of the input changes nothing, be
it made between two instructions or by reading the keyboard status.

Since a wait in vain is the only request for shutdown that such a keyboard
knows of (`Dialogue.Composed.requested_eq`), a step that leaves the machine
running leaves the devices as they have to be for the next one.
-/

namespace LC3

open Delivers (Sound unread poll_eq take_eq wait_eq)

/-! ## Waits in vain

A wait in vain is the only answer of a sound keyboard after which shutdown is
requested, and it is also a failure that ends the step. Together these two facts
say that the machine never goes on with a request it has not heard. -/

namespace Exchange

/-- **A character was waited for in vain.** -/
def inVain : Exchange → Bool
  | waited (.ok none) => true
  | _ => false

/-- There is only one such exchange. -/
theorem eq_of_inVain {e : Exchange} (h : e.inVain = true) : e = waited (.ok none) := by
  unfold inVain at h
  split at h
  · rfl
  · exact nomatch h

/-- Reports are no waits. -/
theorem any_inVain_reported (events : List Event) :
    (events.map reported).any inVain = false := by
  rw [List.any_map, List.any_eq_false]
  exact fun _ _ => Bool.false_ne_true

/-- Without a failure there is no wait in vain. -/
theorem any_inVain_of_findSome? {exchanges : List Exchange}
    (h : exchanges.findSome? fault? = none) : exchanges.any inVain = false := by
  rw [List.any_eq_false]
  intro e hmem hvain
  have hnone := List.findSome?_eq_none_iff.1 h e hmem
  -- a wait in vain is itself a failure
  rw [eq_of_inVain hvain] at hnone
  exact nomatch hnone

end Exchange

variable {κ ω α : Type} [Delivers κ]

section Requests

variable [Console ω]

/-- A phrase requests shutdown if it waits in vain. -/
theorem Dialogue.Phrase.requested_eq {x : Dialogue α} (hx : x.Phrase) {k : κ} (h : Sound k)
    (c : ω) :
    Keyboard.requested (x.hold k c).keyboard
      = (Keyboard.requested k || (x.hold k c).exchanges.any Exchange.inVain) := by
  cases hx with
  | poll =>
    obtain ⟨-, -, -, -, hrequested⟩ := poll_eq h
    rw [hold_pollKeyboard]
    dsimp only
    rw [hrequested, List.any_append, Exchange.any_inVain_reported]
    exact (Bool.or_false _).symm
  | arrival =>
    obtain ⟨-, -, -, -, hrequested, hexchanges⟩ := Delivers.hold_arrival h c
    rw [hexchanges, hrequested, List.any_append, Exchange.any_inVain_reported]
    cases unread k <;> exact (Bool.or_false _).symm
  | wait =>
    obtain ⟨hanswer, -, -, hrequested⟩ := wait_eq h
    rw [hold_awaitCharacter]
    dsimp only
    rw [hrequested, hanswer, List.any_append, Exchange.any_inVain_reported]
    cases unread k <;> rfl
  | requested => exact (Bool.or_false _).symm
  | say message =>
    obtain ⟨hkeyboard, hwaits⟩ := hold_say message k c
    have hvain : ((Dialogue.say message).hold k c).exchanges.any Exchange.inVain = false := by
      rw [List.any_eq_false]
      intro e hmem hvain
      exact hwaits _ (Exchange.eq_of_inVain hvain ▸ hmem)
    rw [hkeyboard, hvain, Bool.or_false]
  | tell event => exact (Bool.or_false _).symm

/-- **Shutdown is requested by a wait in vain** and by nothing else. -/
theorem Dialogue.Composed.requested_eq {x : Dialogue α} (hx : x.Composed) {k : κ}
    (h : Sound k) (c : ω) :
    Keyboard.requested (x.hold k c).keyboard
      = (Keyboard.requested k || (x.hold k c).exchanges.any Exchange.inVain) := by
  induction hx generalizing k c with
  | done a => exact (Bool.or_false _).symm
  | phrase hx => exact hx.requested_eq h c
  | bind hx hf ihx ihf =>
    rw [hold_bind, Course.after_keyboard, Course.after_exchanges, List.any_append,
      ihf _ (hx.hands h c).sound, ihx h, Bool.or_assoc]

end Requests

/-! ## The outcome of an instruction

What a trap has as its outcome when no device fails is `Trap.outcome`. It
remains to find out which devices can fail here. A wide console does not, and of
the answers to a wait only the one in vain is left. -/

/-- **An instruction calls a trap** that has a routine. -/
def Instruction.Calls (i : Instruction) (trap : Trap) : Prop :=
  i.opcode = .trap ∧ Trap.ofVector? i.vector = some trap

instance (i : Instruction) (trap : Trap) : Decidable (i.Calls trap) :=
  inferInstanceAs (Decidable (_ ∧ _))

/-- **A trap that waits** for a character. -/
def Trap.Awaits (trap : Trap) : Prop := trap = .getC ∨ trap = .input

instance (trap : Trap) : Decidable trap.Awaits := inferInstanceAs (Decidable (_ ∨ _))

/-- **An instruction that waits** for a character. -/
def Instruction.Awaits (i : Instruction) : Prop := i.Calls .getC ∨ i.Calls .input

instance (i : Instruction) : Decidable i.Awaits := inferInstanceAs (Decidable (_ ∨ _))

variable {k : κ} {c : Collector}

/-- A vector has one routine at most. -/
theorem Instruction.calls_iff {i : Instruction} {trap : Trap} (h : i.opcode = .trap)
    (hvector : Trap.ofVector? i.vector = some trap) (trap' : Trap) :
    i.Calls trap' ↔ trap = trap' := by
  unfold Calls
  rw [hvector, Option.some_inj]
  exact and_iff_right h

namespace Trap

/-- Printing to a wide console ends in the outcome it is given. -/
theorem outcome_print (core : Core) (message : List UInt8) (outcome : Outcome) (k : κ)
    (h : c.Wide) : ((print core message outcome).hold k c).value.1 = outcome := by
  unfold print
  rw [Dialogue.hold_bind, Dialogue.value_say_of_wide message k h]
  rfl

/-- A wait is in vain if nothing is left to read. -/
theorem outcome_receive (core : Core) {next : UInt8 → Core → Dialogue (Outcome × Core)}
    {outcome : Outcome}
    (hnext : ∀ character core (k : κ), ((next character core).hold k c).value.1 = outcome)
    (hsound : Sound k) :
    ((receive core next).hold k c).value.1
      = if unread k = [] then .fault .interrupted else outcome := by
  obtain ⟨hanswer, -⟩ := wait_eq hsound
  unfold receive
  rw [Dialogue.hold_bind, Dialogue.hold_awaitCharacter]
  dsimp only
  rw [hanswer]
  cases unread k with
  | nil => rfl
  | cons character rest => exact hnext _ _ _

/-- **The outcome of a routine** on a wide console: interrupted if it waits and nothing
is left to read. IN is asked for its character after the prompt, which leaves the
keyboard as it was. -/
theorem outcome_perform (config : Config) (core : Core) (trap : Trap) (hsound : Sound k)
    (hwide : c.Wide) :
    ((trap.perform config core).hold k c).value.1
      = if trap.Awaits ∧ unread k = [] then .fault .interrupted else trap.outcome := by
  -- only GETC and IN wait, and a console that is wide takes every message
  cases trap with
  | getC =>
    unfold perform
    rw [outcome_receive core (fun _ _ _ => rfl) hsound]
    exact if_congr (and_iff_right (.inl rfl)).symm rfl rfl
  | input =>
    obtain ⟨hkeyboard, -⟩ := Dialogue.hold_say config.prompt.toUTF8.toList k c
    obtain ⟨hwide', -⟩ := (Dialogue.say config.prompt.toUTF8.toList).hold_wide k hwide
    unfold perform
    dsimp only
    rw [Dialogue.hold_bind, Dialogue.value_say_of_wide _ k hwide, hkeyboard, Course.after_value]
    dsimp only
    rw [outcome_receive core (fun _ _ k => outcome_print _ _ _ k hwide') hsound]
    exact if_congr (and_iff_right (.inr rfl)).symm rfl rfl
  | out => exact outcome_print core _ _ k hwide
  | putS | putSP =>
    obtain ⟨registers, memory⟩ := core
    show ((_ >>= _ : Dialogue (Outcome × Core)).hold k c).value.1 = .running
    rw [Dialogue.hold_bind]
    exact outcome_print _ _ _ _ (Dialogue.hold_wide _ k hwide).1
  | halt =>
    show ((if config.haltNotice then _ else _ : Dialogue (Outcome × Core)).hold k c).value.1
      = .halted
    split
    · exact outcome_print core _ _ k hwide
    · rfl

end Trap

/-- **The outcome of an instruction** when no device fails, by what is left to
read. -/
theorem Core.outcome_execute (config : Config) (address : Word) (core : Core) (i : Instruction)
    (hsound : Sound k) (hwide : c.Wide) :
    ((core.execute config address i).hold k c).value.1
      = if i.Awaits ∧ unread k = [] then .fault .interrupted else i.outcome address := by
  by_cases htrap : i.opcode = .trap
  · unfold execute Instruction.outcome
    rw [htrap]
    dsimp only
    cases hvector : Trap.ofVector? i.vector with
    | some trap =>
      have hawaits : trap.Awaits ∧ unread k = [] ↔ i.Awaits ∧ unread k = [] := by
        unfold Trap.Awaits Instruction.Awaits
        rw [Instruction.calls_iff htrap hvector, Instruction.calls_iff htrap hvector]
      exact (trap.outcome_perform config core hsound hwide).trans (if_congr hawaits rfl rfl)
    | none =>
      -- a vector without a routine calls neither of the two traps
      have hawaits : ¬ i.Awaits := by
        rintro (⟨-, hcalls⟩ | ⟨-, hcalls⟩)
        · exact nomatch hvector.symm.trans hcalls
        · exact nomatch hvector.symm.trans hcalls
      exact (if_neg fun h => hawaits h.1).symm
  · have hawaits : ¬ i.Awaits := by
      rintro (⟨hcalls, -⟩ | ⟨hcalls, -⟩)
      · exact htrap hcalls
      · exact htrap hcalls
    rw [if_neg fun h => hawaits h.1]
    exact (ends_execute htrap config address core).hold k c

/-! ## The outcome of a step

Before the instruction come the poll and the fetch. Neither of them hands out a
character, but a fetch from the status register can move one to the latch; that
is why `hunread'` in `step_eq` is stated for waiting instructions only, which
are not fetched from there. -/

namespace System

/-- **The instruction that a step executes**, if it comes to that. -/
def instruction {κ ω : Type} [Keyboard κ] [Console ω] (s : System κ ω) : Instruction :=
  .ofWord s.polled.fetched.value.1

/-- Between two polls it is the word in an ordinary cell. -/
theorem instruction_of_cell {κ ω : Type} [Keyboard κ] [Console ω] {s : System κ ω}
    {w : Word} (hdue : ¬ s.machine.PollIsDue)
    (hread : s.machine.core.memory.read s.machine.core.registers.pc
      = .done (w, s.machine.core.memory)) : s.instruction = .ofWord w := by
  unfold instruction
  rw [polled_of_not_due hdue, fetched, hread]
  rfl

/-- **Nothing is wrong with the devices:** the keyboard delivers its text,
shutdown was not requested, and the console takes everything. -/
structure Steady (s : System κ Collector) : Prop where
  sound : Sound s.keyboard
  requested : Keyboard.requested s.keyboard = false
  wide : s.console.Wide

namespace Steady

/-- A poll between instructions does not change that, and takes nothing. -/
theorem polled {s : System κ Collector} (h : s.Steady) :
    s.polled.Steady ∧ unread s.polled.keyboard = unread s.keyboard := by
  obtain ⟨-, halike, hconsole, -⟩ := polled_of_sound h.sound
  exact ⟨⟨halike.sound, halike.requested.trans h.requested, hconsole.symm ▸ h.wide⟩,
    halike.unread⟩

/-- **A step that may be made and counted** executes an instruction. It is
interrupted if this waits and nothing is left to read, and otherwise has the
outcome of the instruction. -/
theorem step_eq {s : System κ Collector} (h : s.Steady) (hlimit : s.machine.limitReached? = none)
    (hleft : s.machine.steps ≠ Machine.maxCount) :
    s.step.1 = (if s.instruction.Awaits ∧ unread s.keyboard = [] then .fault .interrupted
        else s.instruction.outcome s.machine.core.registers.pc)
      ∧ s.next.machine.steps = s.machine.steps + 1
      ∧ .reported (.executed s.machine.core.registers.pc s.instruction) ∈ s.step.2.2 := by
  obtain ⟨hcore, -, hsteps⟩ := s.polled_machine
  obtain ⟨hpolled, hunread⟩ := h.polled
  have hcycle := cycle_eq (s := s.polled) (hsteps ▸ hleft)
  have hsound : Sound s.polled.fetched.keyboard :=
    ((Memory.composed_read _ _).hands hpolled.sound _).sound
  have hwide : s.polled.fetched.console.Wide := (Dialogue.hold_wide _ _ hpolled.wide).1
  have houtcome : s.polled.effect.value.1 = _ :=
    Core.outcome_execute _ _ _ s.instruction hsound hwide
  have hunread' : s.instruction.Awaits → unread s.polled.fetched.keyboard = unread s.keyboard := by
    intro hawaits
    have htrap : s.instruction.opcode = .trap := hawaits.elim (·.1) (·.1)
    rw [fetched_keyboard_of_trap htrap, hunread]
  unfold next
  rw [step_eq_cycle hlimit hpolled.requested, hcycle]
  refine ⟨houtcome.trans ?_, ?_, ?_⟩
  · rw [hcore]
    refine if_congr (and_congr_right fun hawaits => ?_) rfl rfl
    rw [hunread' hawaits]
  · show s.polled.machine.steps + 1 = _
    rw [hsteps]
  · rw [← hcore]
    exact List.mem_append_right _ (List.mem_cons_of_mem _
      (List.mem_append_right _ List.mem_cons_self))

/-- **A step that leaves the machine running** leaves the devices as they have
to be. -/
theorem next {s : System κ Collector} (h : s.Steady) (hrunning : s.step.1 = .running) :
    s.next.Steady := by
  have hcomposed := s.machine.composed_step
  have hvain : s.step.2.2.any Exchange.inVain = false := by
    -- a step that goes on had no failure in it, so no wait in vain either
    obtain ⟨hnone, -⟩ | ⟨fault, -, hfault⟩ :=
      s.machine.heeds_step.hold s.keyboard s.console
    · exact Exchange.any_inVain_of_findSome? hnone
    · exact nomatch hrunning.symm.trans hfault
  refine ⟨(hcomposed.hands h.sound s.console).sound, ?_, (wide_next h.wide).1⟩
  have hrequested : Keyboard.requested s.next.keyboard
      = (Keyboard.requested s.keyboard || s.step.2.2.any Exchange.inVain) :=
    hcomposed.requested_eq h.sound s.console
  rw [hrequested, h.requested, hvain]
  rfl

end Steady

/-! ## What a step writes

The poll, the fetch and every instruction but a trap belong to the dialogues
that cannot fail, and such a dialogue writes nothing. -/

/-- **Only traps write.** -/
theorem written_step_of_ne_trap {κ ω : Type} [Keyboard κ] [Console ω] {s : System κ ω}
    (h : s.instruction.opcode ≠ .trap) : Exchange.written s.step.2.2 = [] := by
  have hpoll : Exchange.written s.pollExchanges = [] :=
    s.machine.cannotFail_pollBetween.written_eq_nil s.keyboard s.console
  have hfetch : Exchange.written s.polled.fetched.exchanges = [] :=
    (Memory.cannotFail_read _ _).written_eq_nil _ _
  -- neither the poll nor the fetch writes, so the instruction is all that could
  cases hlimit : s.machine.limitReached? with
  | some limit =>
    rw [step_of_limit hlimit]
    rfl
  | none =>
    cases hrequested : Keyboard.requested s.polled.keyboard with
    | true =>
      rw [step_of_requested hlimit hrequested, Exchange.written_append, hpoll]
      rfl
    | false =>
      have hcycle : Exchange.written s.polled.cycle.exchanges = [] := by
        by_cases hfull : s.polled.machine.steps = Machine.maxCount
        · rw [cycle_of_full hfull]
          exact hfetch
        · have heffect : Exchange.written s.polled.effect.exchanges = [] :=
            (Core.heeds_execute_of_ne_trap h _ _ _).written_eq_nil _ _
          rw [cycle_eq hfull, Exchange.written_append, hfetch, ← List.singleton_append,
            Exchange.written_append, heffect]
          rfl
      rw [step_eq_cycle hlimit hrequested, Exchange.written_append, hpoll,
        ← List.singleton_append, Exchange.written_append, hcycle]
      rfl

end System

end LC3
