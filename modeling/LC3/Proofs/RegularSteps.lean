import LC3.Proofs.DeviceFailures

/-!
# Steps that end regularly

An instruction can leave the machine running, halt it, or end in a fault of
its own; whether the step limit is reached is asked before there is an
instruction, and decoding refuses no word (`Core.ofInstruction_execute`). So
below the limit the step count is all that could be refused, and it is not as
long as there is **room** for the step (`Machine.HasRoom`): the count is not
used up, or a limit stops the machine before it is. Then a step ends regularly
whatever the devices answer (`Machine.regular_step`), and so does any number
of steps, each of them made only if there is room for it.
-/

namespace LC3

namespace Outcome

/-- **No part of the machine refused** what it was asked. -/
def Regular (outcome : Outcome) : Prop := ∀ violation, outcome ≠ .crash violation

/-- A fault is no refusal: it is how a program or a device ends a run. -/
theorem regular_fault (f : Fault) : (fault f).Regular := nofun

/-- **An instruction can end so:** neither at the step limit nor in a
crash. -/
def OfInstruction : Outcome → Prop
  | running | halted | fault .interrupted | fault (.device _) | fault (.reservedOpcode ..) => True
  | fault (.stepLimit _) | crash _ => False

/-- What an instruction can end in is no refusal, -/
theorem OfInstruction.regular {outcome : Outcome} (h : outcome.OfInstruction) :
    outcome.Regular := by
  rintro violation rfl
  exact h

/-- nor is it the step limit. -/
theorem OfInstruction.ne_stepLimit {outcome : Outcome} (h : outcome.OfInstruction)
    (limit : UInt64) : outcome ≠ .fault (.stepLimit limit) := by
  rintro rfl
  exact h

end Outcome

/-- So end the services of the trap vectors as long as no device fails. -/
theorem Trap.ofInstruction_outcome (trap : Trap) : trap.outcome.OfInstruction := by
  cases trap <;> exact trivial

/-- And so does every instruction, as long as no device fails. -/
theorem Instruction.ofInstruction_outcome (address : Word) (i : Instruction) :
    (i.outcome address).OfInstruction := by
  unfold outcome
  cases i.opcode with
  | trap =>
    dsimp only
    cases Trap.ofVector? i.vector with
    | some trap => exact trap.ofInstruction_outcome
    | none => exact trivial
  | _ => exact trivial

/-- A fault that a device leads to ends an instruction as well. -/
theorem Fault.OfDevice.ofInstruction {f : Fault} (h : f.OfDevice) :
    (Outcome.fault f).OfInstruction := by
  cases f with
  | interrupted | device => exact trivial
  | reservedOpcode | stepLimit => exact h.elim

/-- **An instruction ends as one can**, whatever the devices answer. -/
theorem Core.ofInstruction_execute (config : Config) (address : Word) (core : Core)
    (i : Instruction) : (core.execute config address i).Ends (·.1.OfInstruction) := by
  refine (core.endsIn_execute config address i).ends.imp fun result h => ?_
  obtain h | ⟨fault, hdevice, h⟩ := h
  · rw [h]
    exact i.ofInstruction_outcome address
  · rw [h]
    exact hdevice.ofInstruction

namespace Machine

/-- **There is room for a step:** it can be counted, or the machine stops
before the count is used up. -/
def HasRoom (m : Machine) : Prop := m.steps ≠ maxCount ∨ m.config.maxSteps ≠ none

instance (m : Machine) : Decidable m.HasRoom := inferInstanceAs (Decidable (_ ∨ _))

/-- **So many steps**, whatever their outcomes, as long as there is room. -/
def stepMany : Nat → Machine → Dialogue (List Outcome × Machine)
  | 0, m => return ([], m)
  | n + 1, m =>
    if m.HasRoom then do
      let (outcome, m) ← m.step
      let (outcomes, m) ← stepMany n m
      return (outcome :: outcomes, m)
    else return ([], m)

/-- The poll between instructions leaves the count. -/
theorem ends_pollBetween (m : Machine) : m.pollBetween.Ends (·.steps = m.steps) := by
  refine m.ends_pollBetween_eq.imp ?_
  rintro m' ⟨failed, rfl⟩
  rfl

/-- **A cycle that can be counted** ends as its instruction does. -/
theorem ofInstruction_cycle {m : Machine} (h : m.steps ≠ maxCount) :
    m.cycle.Ends (·.1.OfInstruction) := by
  obtain ⟨core, config, steps, pollFailed⟩ := m
  unfold cycle
  refine Dialogue.ends_bind.2 (Dialogue.ends_of_forall (fun (w, core) => ?_) _)
  dsimp only
  rw [if_neg h, Instruction.decode_eq_ok]
  refine Dialogue.ends_bind.2
    (Dialogue.ends_of_forall (fun _ => Dialogue.ends_bind.2 ?_) (Dialogue.tell _))
  exact (core.ofInstruction_execute _ _ _).imp fun result h => h

/-- A cycle that cannot be counted is refused. -/
theorem ends_cycle_of_full {m : Machine} (h : m.steps = maxCount) :
    m.cycle.Ends (·.1 = .crash .arithmetic) := by
  obtain ⟨core, config, steps, pollFailed⟩ := m
  unfold cycle
  refine Dialogue.ends_bind.2 (Dialogue.ends_of_forall (fun (w, core) => ?_) _)
  dsimp only
  rw [if_pos h]
  exact rfl

/-- A limit is reached before the count is used up. -/
theorem HasRoom.steps_ne {m : Machine} (h : m.HasRoom) (hlimit : m.limitReached? = none) :
    m.steps ≠ maxCount := by
  obtain hne | hsome := h
  · exact hne
  · intro hfull
    obtain ⟨limit, hmax⟩ := Option.ne_none_iff_exists'.1 hsome
    have hreached : m.limitReached? = some limit := by
      unfold limitReached?
      rw [hmax, hfull]
      exact if_pos (decide_eq_true (UInt64.le_iff_toNat_le.2 (Nat.le_of_lt_succ limit.toNat_lt)))
    rw [hlimit] at hreached
    cases hreached

/-- **A step ends regularly** if there is room for it. -/
theorem regular_step {m : Machine} (h : m.HasRoom) : m.step.Ends (·.1.Regular) := by
  unfold step
  cases hlimit : m.limitReached? with
  | some limit => exact Outcome.regular_fault _
  | none =>
    refine Dialogue.ends_bind.2 (m.ends_pollBetween.imp fun m' hpolled => ?_)
    refine Dialogue.ends_bind.2 (Dialogue.ends_of_forall (fun requested => ?_) _)
    split
    · exact Outcome.regular_fault _
    · exact (ofInstruction_cycle (hpolled ▸ h.steps_ne hlimit)).imp fun _ h => h.regular

/-- **Any number of steps end regularly**, as long as there is room for each. -/
theorem regular_stepMany (n : Nat) (m : Machine) :
    (m.stepMany n).Ends fun (outcomes, _) => ∀ outcome ∈ outcomes, outcome.Regular := by
  induction n generalizing m with
  | zero => exact nofun
  | succ n ih =>
    unfold stepMany
    split
    next hroom =>
      refine Dialogue.ends_bind.2 ((regular_step hroom).imp fun (outcome, m) hregular => ?_)
      refine Dialogue.ends_bind.2 ((ih m).imp fun (outcomes, m) hlater => ?_)
      exact List.forall_mem_cons.2 ⟨hregular, hlater⟩
    next => exact nofun

end Machine

end LC3
