import LC3.Proofs.FailedSteps
import LC3.Proofs.StepLimits

/-!
# Runs under a step limit

A machine counts the instructions it executes, and nothing else moves its
count: a step that the limit stops, or a request for shutdown, leaves the
count alone. So what `n` steps add to the count is how many of them executed
an instruction (`System.toNat_steps_after`). That holds without a limit too.

A limit is looked at before every instruction, so the count never passes it,
unless it was past it from the beginning (`System.steps_after_le`). Together
the two statements bound the instructions of any number of steps by what the
limit leaves, `System.executions_le_left`, and this is why a run ends soon:
each of its steps but the last leaves the machine running, hence executes an
instruction.

`System.run_limited` puts this together with the question which end a run
comes to. The limit ends it only after as many instructions as it leaves,
all of which left the machine running; an instruction that halts or fails is
the end of its run even if it is the last that the limit allows.
-/

namespace LC3

/-- A limit that is set and not reached is above the count. -/
theorem Machine.steps_lt_of_limitReached? {m : Machine} {limit : UInt64}
    (hmax : m.config.maxSteps = some limit) (h : m.limitReached? = none) :
    m.steps.toNat < limit.toNat := by
  by_contra hle
  have hreached : m.limitReached? = some limit :=
    (m.limitReached?_eq_some_iff limit).2
      ⟨hmax, UInt64.le_iff_toNat_le.2 (Nat.le_of_not_lt hle)⟩
  rw [h] at hreached
  cases hreached

namespace System

variable {κ ω : Type} [Keyboard κ] [Console ω] {s : System κ ω} {limit : UInt64}

/-! ## What is counted -/

/-- **How many of the first `n` steps execute an instruction.** -/
def executions (s : System κ ω) (n : Nat) : Nat :=
  (List.range n).countP fun i => (s.after i).Executes

@[simp] theorem executions_zero (s : System κ ω) : s.executions 0 = 0 := rfl

@[simp] theorem executions_succ (s : System κ ω) (n : Nat) :
    s.executions (n + 1) = s.executions n + if (s.after n).Executes then 1 else 0 := by
  simp [executions, List.range_succ, List.countP_append, List.countP_singleton]

/-- A step that executes nothing is not counted. -/
theorem steps_next_of_not_executes (h : ¬ s.Executes) :
    s.next.machine.steps = s.machine.steps := by
  obtain ⟨-, -, hsteps⟩ := s.polled_machine
  unfold next
  obtain ⟨reached, hlimit⟩ | ⟨hlimit, hrequested⟩ | ⟨hlimit, hrequested, hfull⟩ | hexecutes :=
    s.step_cases
  · rw [step_of_limit hlimit]
  · rw [step_of_requested hlimit hrequested]
    exact hsteps
  · rw [step_of_full hlimit hrequested hfull]
    exact hsteps
  · exact absurd hexecutes h

/-- **The count is that of the instructions.** -/
theorem toNat_steps_after (s : System κ ω) (n : Nat) :
    (s.after n).machine.steps.toNat = s.machine.steps.toNat + s.executions n := by
  induction n with
  | zero => rfl
  | succ n ih =>
    rw [after_succ', executions_succ]
    split
    next h => rw [toNat_steps_next_of_executes h, ih, Nat.add_assoc]
    next h => rw [steps_next_of_not_executes h, ih, Nat.add_zero]

/-- As long as the machine runs, every step is an instruction. -/
theorem executions_of_runsFor {n : Nat} (h : s.RunsFor n) : s.executions n = n := by
  induction n with
  | zero => rfl
  | succ n ih =>
    have hbefore : s.executions n = n := ih fun i hi => h i (Nat.lt_succ_of_lt hi)
    have hexecutes := (s.after n).executes_of_running_or_halted (.inl (h n n.lt_succ_self))
    rw [executions_succ, hbefore, if_pos hexecutes]

/-! ## What a limit leaves -/

/-- **How many instructions a limit leaves.** -/
def left (s : System κ ω) (limit : UInt64) : Nat :=
  limit.toNat - s.machine.steps.toNat

/-- **A step does not count past the limit.** -/
theorem steps_next_le (hmax : s.machine.config.maxSteps = some limit) :
    s.next.machine.steps.toNat ≤ max limit.toNat s.machine.steps.toNat := by
  by_cases h : s.Executes
  · rw [toNat_steps_next_of_executes h]
    exact (Machine.steps_lt_of_limitReached? hmax h.unlimited).trans_le (le_max_left _ _)
  · rw [steps_next_of_not_executes h]
    exact le_max_right _ _

/-- **Nor does any number of steps.** -/
theorem steps_after_le (hmax : s.machine.config.maxSteps = some limit) (n : Nat) :
    (s.after n).machine.steps.toNat ≤ max limit.toNat s.machine.steps.toNat := by
  induction n with
  | zero => exact le_max_right _ _
  | succ n ih =>
    have hafter : (s.after n).machine.config.maxSteps = some limit := by
      rw [config_after, hmax]
    calc (s.after (n + 1)).machine.steps.toNat
        = (s.after n).next.machine.steps.toNat := by rw [after_succ']
      _ ≤ max limit.toNat (s.after n).machine.steps.toNat := steps_next_le hafter
      _ ≤ max limit.toNat s.machine.steps.toNat := max_le (le_max_left _ _) ih

/-- Any number of steps has no more instructions than the limit leaves. -/
theorem executions_le_left (hmax : s.machine.config.maxSteps = some limit) (n : Nat) :
    s.executions n ≤ s.left limit := by
  have hcount := s.toNat_steps_after n
  have hle := steps_after_le hmax n
  unfold left
  omega

/-- **The limit is reached** once as many instructions are executed as it leaves. -/
theorem step_after_eq_stepLimit_iff (hmax : s.machine.config.maxSteps = some limit) (n : Nat)
    (l : UInt64) :
    (s.after n).step.1 = .fault (.stepLimit l) ↔ l = limit ∧ s.executions n = s.left limit := by
  have hcount := s.toNat_steps_after n
  have hle := executions_le_left hmax n
  rw [stepLimit_iff, config_after, hmax, Option.some.injEq, UInt64.le_iff_toNat_le, hcount]
  unfold left at hle ⊢
  constructor
  · rintro ⟨rfl, hreached⟩
    exact ⟨rfl, by omega⟩
  · rintro ⟨rfl, heq⟩
    exact ⟨rfl, by omega⟩

/-- Under a limit the count is never used up, so whatever is fetched is executed. -/
theorem executes_iff_touches (hmax : s.machine.config.maxSteps = some limit) :
    s.Executes ↔ s.touches ≠ [] := by
  refine ⟨touches_ne_nil_of_executes, fun htouches => ?_⟩
  obtain ⟨reached, hlimit⟩ | ⟨hlimit, hrequested⟩ | ⟨hlimit, -, hfull⟩ | hexecutes :=
    s.step_cases
  · exact absurd (touches_of_limit hlimit) htouches
  · exact absurd (touches_of_requested hlimit hrequested) htouches
  · have hroom : s.machine.HasRoom := .inr (by simp [hmax])
    exact absurd hfull (hroom.steps_ne hlimit)
  · exact hexecutes

/-! ## The run -/

/-- **A run that a limit keeps in bounds:** `n` steps leave the machine running, and one
more ends the run. -/
structure EndsWithin (s : System κ ω) (limit : UInt64) (n : Nat) : Prop where
  /-- All steps but the last leave the machine running, -/
  runs : s.RunsFor n
  /-- and the last does not. -/
  stops : (s.after n).step.1 ≠ .running
  /-- Its outcome is that of the run, -/
  outcome : s.run.1 = (s.after n).step.1
  /-- and what it leaves is left by the run. -/
  leaves : s.run.2.1 = s.after (n + 1)
  /-- The instructions that are counted below are those that are fetched. -/
  fetched_iff : ∀ i, (s.after i).Executes ↔ (s.after i).touches ≠ []
  /-- There are no more of them than the limit leaves. -/
  executions_le : s.executions (n + 1) ≤ s.left limit
  /-- The count goes up by their number, -/
  steps_eq : s.run.2.1.machine.steps.toNat = s.machine.steps.toNat + s.executions (n + 1)
  /-- and not past the limit, unless it was there from the beginning. -/
  steps_le : s.run.2.1.machine.steps.toNat ≤ max limit.toNat s.machine.steps.toNat
  /-- The count is not used up. -/
  regular : s.run.1.Regular
  /-- **The limit ends the run** if as many instructions were executed as it leaves,
  without a request for shutdown before any of them, and all left the machine running. -/
  stepLimit_iff : ∀ l, s.run.1 = .fault (.stepLimit l)
    ↔ l = limit ∧ s.executions (n + 1) = s.left limit
      ∧ ∀ i < s.left limit, Keyboard.requested (s.after i).askedKeyboard = false
        ∧ (s.after i).step.1 = .running
  /-- **An instruction that the limit allows**, be it the last, ends the run as it ends. -/
  ends_as_instruction : ∀ i < s.left limit, s.RunsFor i → (s.after i).step.1 ≠ .running →
    s.run.1 = (s.after i).step.1 ∧ ∀ l, s.run.1 ≠ .fault (.stepLimit l)

/-- Up to the instruction that the limit leaves last, no step ends at the limit. -/
theorem ne_stepLimit_of_lt_left (hmax : s.machine.config.maxSteps = some limit) {i : Nat}
    (hruns : s.RunsFor i) (hi : i < s.left limit) (l : UInt64) :
    (s.after i).step.1 ≠ .fault (.stepLimit l) := by
  rw [Ne, step_after_eq_stepLimit_iff hmax, executions_of_runsFor hruns]
  rintro ⟨-, heq⟩
  exact hi.ne heq

/-- A step at the limit is no instruction. -/
theorem not_executes_of_stepLimit {l : UInt64} (h : s.step.1 = .fault (.stepLimit l)) :
    ¬ s.Executes :=
  fun hexecutes => (ofInstruction_of_executes hexecutes).ne_stepLimit l h

/-- **Which runs end at the limit**, if `n` steps leave the machine running and the next
does not. -/
theorem stepLimit_iff_of_runsFor (hmax : s.machine.config.maxSteps = some limit) {n : Nat}
    (hruns : s.RunsFor n) (hstops : (s.after n).step.1 ≠ .running) (l : UInt64) :
    (s.after n).step.1 = .fault (.stepLimit l)
      ↔ l = limit ∧ s.executions (n + 1) = s.left limit
        ∧ ∀ i < s.left limit, Keyboard.requested (s.after i).askedKeyboard = false
          ∧ (s.after i).step.1 = .running := by
  have hn : s.executions n = n := executions_of_runsFor hruns
  constructor
  · intro hlimit
    obtain ⟨rfl, hleft⟩ := (step_after_eq_stepLimit_iff hmax n l).1 hlimit
    refine ⟨rfl, ?_, fun i hi => ?_⟩
    · rw [executions_succ, if_neg (not_executes_of_stepLimit hlimit), hleft, Nat.add_zero]
    · have hrunning := hruns i (by omega)
      have hexecutes := (s.after i).executes_of_running_or_halted (.inl hrunning)
      exact ⟨((executes_iff _).1 hexecutes).2.1, hrunning⟩
  · rintro ⟨rfl, hall, hrunning⟩
    -- the step that ends the run is none of those that left the machine running
    have hle : s.left l ≤ n := Nat.le_of_not_lt fun hlt => hstops (hrunning n hlt).2
    have hsucc : n ≤ s.executions (n + 1) := by
      rw [executions_succ, hn]
      exact Nat.le_add_right _ _
    exact (step_after_eq_stepLimit_iff hmax n l).2 ⟨rfl, by omega⟩

/-- **A step limit ends every run**, with an exact count: whatever the program does and
the devices answer, at most as many instructions are executed as the limit leaves, none
if it is reached already. Their number is what the run adds to the count, and the count
does not pass the limit. The run ends at the limit if and only if that many
instructions were executed and all left the machine running, without a request for
shutdown before any of them; a program that halts, or fails, in the last instruction
ends as it would without the limit. -/
theorem run_limited {κ ω : Type} [Keyboard κ] [Console ω] {s : System κ ω} {limit : UInt64}
    (hmax : s.machine.config.maxSteps = some limit) :
    ∃ n ≤ s.left limit, s.EndsWithin limit n := by
  obtain ⟨n, hruns, houtcome, hends, hsystem, -⟩ := s.exists_run_eq_after
  -- where the run ends is known from its steps, and the limit tells how far that can be
  have hstops : (s.after n).step.1 ≠ .running := houtcome ▸ hends
  refine ⟨n, ?_, ?_⟩
  · exact (executions_of_runsFor hruns).symm.trans_le (executions_le_left hmax n)
  · exact {
      runs := hruns
      stops := hstops
      outcome := houtcome
      leaves := hsystem
      fetched_iff := fun i => executes_iff_touches (by rw [config_after, hmax])
      executions_le := executions_le_left hmax (n + 1)
      steps_eq := by rw [hsystem, toNat_steps_after]
      steps_le := by
        rw [hsystem]
        exact steps_after_le hmax (n + 1)
      regular := by
        have hroom : (s.after n).machine.HasRoom := .inr (by simp [config_after, hmax])
        rw [houtcome]
        exact (s.after n).value_act (Machine.regular_step hroom)
      stepLimit_iff := by
        intro l
        rw [houtcome]
        exact stepLimit_iff_of_runsFor hmax hruns hstops l
      ends_as_instruction := by
        intro i hi hrunsFor hstopped
        rw [(run_eq_after hrunsFor hstopped).1]
        exact ⟨rfl, ne_stepLimit_of_lt_left hmax hrunsFor hi⟩ }

/-- A program whose only instruction halts, without a notice and under a limit of one. -/
def haltAtLimit : System Scripted Collector :=
  ⟨{ Machine.loaded [0xF025] with config := ⟨false, "", some 1⟩ }, { queue := [] }, {}⟩

/-- Its only instruction is executed, and halts. -/
theorem halted_haltAtLimit : haltAtLimit.Executes ∧ haltAtLimit.step.1 = .halted := by
  have hexecutes : haltAtLimit.Executes := ⟨rfl, rfl, by decide⟩
  have hinstruction : haltAtLimit.instruction = .ofWord 0xF025 :=
    instruction_of_cell (by decide) (Machine.read_loaded (i := 0) rfl (by decide) (by decide))
  refine ⟨hexecutes, (halted_iff_of_executes hexecutes).2 ⟨?_, .inl rfl⟩⟩
  rw [hinstruction]
  exact ⟨rfl, rfl⟩

/-- It halts in the last instruction that it is allowed, and does not reach the limit. -/
theorem run_limited_haltAtLimit :
    haltAtLimit.machine.config.maxSteps = some 1 ∧ haltAtLimit.left 1 = 1
      ∧ haltAtLimit.run.1 = .halted ∧ (∀ l, haltAtLimit.run.1 ≠ .fault (.stepLimit l))
      ∧ haltAtLimit.run.2.1.machine.steps.toNat = 1 := by
  have hmax : haltAtLimit.machine.config.maxSteps = some 1 := rfl
  obtain ⟨hexecutes, hhalted⟩ := halted_haltAtLimit
  obtain ⟨n, -, hends⟩ := run_limited hmax
  have hstops : haltAtLimit.step.1 ≠ .running := by
    rw [hhalted]
    exact nofun
  obtain ⟨hrun, hlimit⟩ := hends.ends_as_instruction 0 Nat.one_pos nofun hstops
  -- the first step ends the run, so it is the only one
  obtain rfl : n = 0 :=
    Nat.eq_zero_of_not_pos fun hpos => hstops (hends.runs 0 hpos)
  refine ⟨hmax, rfl, hrun.trans hhalted, hlimit, ?_⟩
  rw [hends.steps_eq, executions_succ, executions_zero, after_zero, if_pos hexecutes]
  rfl

end System

end LC3
