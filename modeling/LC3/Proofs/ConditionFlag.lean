import LC3.Proofs.InstructionTable
import LC3.Proofs.TrapEndings

/-!
# The flag tells the sign of the last result

Seven operations compute or load a value into a register, and set the flag to
its sign. The other nine leave the flag alone, also those that write a register:
a jump to a subroutine writes R7, and a trap that reads a character writes R0. So
the flag is a function of the past of a program. It tells the sign of the **last
result**, the word that the latest of the seven left in its destination, or zero
as long as none of them was executed (`System.flag_after`), and that is what a
branch depends on.

The past is made of steps, whatever their outcomes: a step that executes no
instruction has no result, and neither has one whose trap fails.
-/

namespace LC3

open Dialogue (ends_bind ends_of_forall)

/-- **The operations that set the flag** to the sign of what they put into their
destination. -/
def Opcode.SetsFlag (opcode : Opcode) : Prop :=
  opcode ∈ [add, and, not, ld, ldi, ldr, lea]

instance (opcode : Opcode) : Decidable opcode.SetsFlag := inferInstanceAs (Decidable (_ ∈ _))

namespace Core

/-- An assignment sets the flag to the sign of what is in the register
afterwards. -/
theorem flag_assign (core : Core) (i : Fin 8) (value : Word) :
    (core.assign i value).registers.flag
      = .ofWord ((core.assign i value).registers.get i) := by
  obtain ⟨registers, memory⟩ := core
  exact congrArg Flag.ofWord (registers.get_assign_self i value).symm

/-- A read of the memory leaves the registers, and with them the flag. -/
theorem ends_read_registers (core : Core) (a : Word) :
    (core.read a).Ends fun (_, core') => core'.registers = core.registers := by
  obtain ⟨registers, memory⟩ := core
  exact ends_bind.2 (ends_of_forall (fun _ => rfl) _)

/-- So does a store. -/
theorem ends_store_registers (core : Core) (i : Fin 8) (a : Word) :
    (core.store i a).Ends fun core' => core'.registers = core.registers := by
  obtain ⟨registers, memory⟩ := core
  exact rfl

/-- **The flag after an instruction** that calls no trap: the sign of what it put
into its destination, if it is one of the seven, or else what it was. -/
theorem ends_execute_flag {i : Instruction} (h : ∀ trap, ¬ i.Calls trap) (config : Config)
    (address : Word) (core : Core) :
    (core.execute config address i).Ends fun (_, core') =>
      core'.registers.flag
        = if i.opcode.SetsFlag then .ofWord (core'.registers.get i.dr)
          else core.registers.flag := by
  unfold execute
  -- what sets the flag assigns a register last, and all else keeps the flag
  cases hopcode : i.opcode with
  | add | and | not | lea => exact (flag_assign _ _ _).trans (if_pos (by decide)).symm
  | ld | ldr =>
    refine ends_bind.2 (ends_of_forall (fun (value, core') => ?_) _)
    exact (flag_assign _ _ _).trans (if_pos (by decide)).symm
  | ldi =>
    refine ends_bind.2 (ends_of_forall (fun (a, core') => ?_) _)
    refine ends_bind.2 (ends_of_forall (fun (value, core') => ?_) _)
    exact (flag_assign _ _ _).trans (if_pos (by decide)).symm
  | br =>
    dsimp only
    by_cases hnot : i.signs &&& core.registers.flag.bits = 0
    · rw [if_pos hnot]
      exact (if_neg (by decide)).symm
    · rw [if_neg hnot]
      exact (if_neg (by decide)).symm
  | jmp | jsr | rti | res => rfl
  | st | str =>
    refine ends_bind.2 ((core.ends_store_registers _ _).imp fun core' hregisters => ?_)
    exact congrArg Registers.flag hregisters
  | sti =>
    refine ends_bind.2 ((core.ends_read_registers _).imp fun (a, core') hread => ?_)
    refine ends_bind.2 ((core'.ends_store_registers _ _).imp fun core'' hregisters => ?_)
    exact congrArg Registers.flag (hregisters.trans hread)
  | trap =>
    have hvector : Trap.ofVector? i.vector = none :=
      Option.eq_none_iff_forall_ne_some.2 fun trap hsome => h trap ⟨hopcode, hsome⟩
    rw [hvector]
    exact ends_bind.2 rfl

end Core

namespace System

variable {κ ω : Type} [Keyboard κ] [Console ω]

/-! ## One step

A trap is treated apart, since its routine may write R0. From the ways in which
it can end it is known that this is all it writes, and that the flag is not
touched. -/

/-- **The flag after a step** that executes an instruction. -/
theorem flag_next_of_executes {s : System κ ω} (h : s.Executes) :
    s.next.machine.core.registers.flag
      = if s.instruction.opcode.SetsFlag then
          .ofWord (s.next.machine.core.registers.get s.instruction.dr)
        else s.machine.core.registers.flag := by
  by_cases hcalls : ∃ trap, s.instruction.Calls trap
  · obtain ⟨trap, hcalls⟩ := hcalls
    rw [hcalls.1, if_neg (by decide)]
    -- a routine leaves the registers, or writes R0 alone
    obtain hregisters | ⟨character, hregisters⟩ := (ending_step h hcalls).registers_eq
    · rw [hregisters]
      rfl
    · rw [hregisters]
      rfl
  · have hflag := (Core.ends_execute_flag (not_exists.1 hcalls) s.machine.config
      s.machine.core.registers.pc s.fetchedCore).hold s.polled.fetched.keyboard s.console
    unfold next
    rw [step_of_executes h, effect_polled]
    exact hflag

/-- A step that executes none leaves the flag. -/
theorem flag_next_of_not_executes {s : System κ ω} (h : ¬ s.Executes) :
    s.next.machine.core.registers.flag = s.machine.core.registers.flag := by
  unfold next
  obtain ⟨limit, hlimit⟩ | ⟨hlimit, hrequested⟩ | ⟨hlimit, hrequested, hfull⟩ | hexecutes :=
    s.step_cases
  · rw [step_of_limit hlimit]
  · rw [step_of_requested hlimit hrequested]
    exact congrArg (·.registers.flag) s.polled_machine.1
  · rw [step_of_full hlimit hrequested hfull]
    rfl
  · exact absurd hexecutes h

/-- **The result of a step:** the word that its instruction leaves in the
destination, if a step executes one of the seven that set the flag. -/
def result? (s : System κ ω) : Option Word :=
  if s.Executes ∧ s.instruction.opcode.SetsFlag then
    some (s.next.machine.core.registers.get s.instruction.dr)
  else none

/-- **The flag after any step:** the sign of its result, or what it was if the step has
none. -/
theorem flag_next (s : System κ ω) :
    s.next.machine.core.registers.flag
      = (s.result?.map Table.sign).getD s.machine.core.registers.flag := by
  by_cases hexecutes : s.Executes
  · rw [flag_next_of_executes hexecutes]
    by_cases hsets : s.instruction.opcode.SetsFlag
    · have hresult : s.result? = some (s.next.machine.core.registers.get s.instruction.dr) :=
        if_pos ⟨hexecutes, hsets⟩
      rw [if_pos hsets, hresult, Option.map_some, Option.getD_some, Table.sign_eq_ofWord]
    · have hnone : s.result? = none := if_neg fun h => hsets h.2
      rw [if_neg hsets, hnone, Option.map_none, Option.getD_none]
  · have hnone : s.result? = none := if_neg fun h => hexecutes h.1
    rw [flag_next_of_not_executes hexecutes, hnone, Option.map_none, Option.getD_none]

/-! ## All steps

The last result is defined from the end: the last step has it if it has a result
at all, and otherwise it is that of the steps before. So the induction is on the
number of steps and looks at the last one. -/

/-- **The last result** of the first `n` steps, if any of them has one. -/
def lastResult? (s : System κ ω) : Nat → Option Word
  | 0 => none
  | n + 1 => (s.after n).result?.or (s.lastResult? n)

/-- **The flag tells the sign of the last result**, whatever was executed in
between. -/
theorem flag_after (s : System κ ω) (n : Nat) :
    (s.after n).machine.core.registers.flag
      = ((s.lastResult? n).map Table.sign).getD s.machine.core.registers.flag := by
  induction n with
  | zero => rfl
  | succ n ih =>
    rw [after_succ', flag_next, ih, lastResult?]
    cases (s.after n).result? with
    | some value => rfl
    | none => rfl

/-- **A branch is taken** if its field has the bit of the flag. -/
theorem pc_next_of_branch {s : System κ ω} (h : s.Executes)
    (hbranch : s.polled.fetched.value.1.bits 12 4 = 0) :
    let w := s.polled.fetched.value.1
    let pc := s.machine.core.registers.pc
    s.next.machine.core.registers.pc
      = if w.toNat.testBit (Table.signBit s.machine.core.registers.flag) then
          .wrap (pc.toNat + 1 + w.signedBits 9)
        else pc + 1 := by
  intro w pc
  have hopcode : s.instruction.opcode = .br := (Instruction.opcode_ofWord_iff w .br).2 hbranch
  have htarget : s.fetchedCore.near s.instruction.off9
      = .wrap (pc.toNat + 1 + w.signedBits 9) := by
    rw [Word.wrap_add, Word.wrap_add, Word.wrap_toNat]
    rfl
  have htaken : s.instruction.signs &&& s.fetchedCore.registers.flag.bits = 0
      ↔ w.toNat.testBit (Table.signBit s.machine.core.registers.flag) = false :=
    Table.signs_and_bits_eq_zero_iff w s.machine.core.registers.flag
  unfold next
  rw [step_of_executes h, effect_polled]
  unfold Core.execute
  rw [hopcode]
  show ((if s.instruction.signs &&& s.fetchedCore.registers.flag.bits = 0 then _ else _ :
    Dialogue (Outcome × Core)).hold _ _).value.2.registers.pc = _
  by_cases htest : w.toNat.testBit (Table.signBit s.machine.core.registers.flag) = true
  · rw [if_pos htest, if_neg fun hzero => absurd htest (by rw [htaken.1 hzero]; decide)]
    exact htarget
  · rw [if_neg htest, if_pos (htaken.2 (Bool.eq_false_iff.2 htest))]
    rfl

/-- **The flag always tells the sign of the last result.** A machine that is new, was
reset, or was loaded with a program is at the start. After any number of steps from
there, with any devices, the flag is the sign of the word that the latest of the seven
operations left in its destination, or zero if none was executed. So a branch that is
executed next is taken if and only if its field has the bit of this sign. -/
theorem flag_tells_last_result :
    (Machine.initial.AtStart ∧ (∀ m : Machine, m.reset.Ends Machine.AtStart)
        ∧ ∀ (m : Machine) (program : List Word),
          (m.load program).Ends fun (result, m') => result = .ok () → m'.AtStart)
      ∧ ∀ s : System κ ω, s.machine.AtStart → ∀ n : Nat,
        let t := s.after n
        let w := t.polled.fetched.value.1
        let pc := t.machine.core.registers.pc
        let sign := ((s.lastResult? n).map Table.sign).getD .zero
        t.machine.core.registers.flag = sign
          ∧ (t.Executes → w.bits 12 4 = 0 → t.next.machine.core.registers.pc
              = if w.toNat.testBit (Table.signBit sign) then .wrap (pc.toNat + 1 + w.signedBits 9)
                else pc + 1) := by
  refine ⟨⟨Machine.atStart_initial, Machine.ends_reset_atStart, Machine.ends_load_atStart⟩, ?_⟩
  intro s hstart n t w pc sign
  have hflag : t.machine.core.registers.flag = sign := by
    rw [s.flag_after n, hstart.registers]
    rfl
  refine ⟨hflag, fun hexecutes hbranch => ?_⟩
  rw [← hflag]
  exact pc_next_of_branch hexecutes hbranch

/-- A program that takes one from zero and branches on a negative result. -/
def branchOnNegative : System Scripted Collector :=
  ⟨.loaded [0x103F, 0x0801], { queue := [] }, {}⟩

/-- Where its first step leads. -/
def branchOnNegativeNext : System Scripted Collector :=
  ⟨{ branchOnNegative.machine with
      core := ⟨Registers.initial.advance.assign Registers.r0 0xFFFF,
        branchOnNegative.machine.core.memory⟩,
      steps := 1 }, { queue := [] }, {}⟩

/-- The first step takes one from R0 and leaves 0xFFFF there. -/
theorem next_branchOnNegative : branchOnNegative.next = branchOnNegativeNext := by
  have hread : branchOnNegative.machine.core.memory.read
      branchOnNegative.machine.core.registers.pc
        = .done (0x103F, branchOnNegative.machine.core.memory) :=
    Machine.read_loaded (i := 0) rfl (by decide) (by decide)
  have hstep := step_of_cell (s := branchOnNegative) rfl (by decide) rfl (by decide) hread
  exact (next_eq_of_step hstep).trans rfl

/-- So this is the last result when the branch is executed. -/
theorem lastResult?_branchOnNegative : branchOnNegative.lastResult? 1 = some 0xFFFF := by
  have hinstruction : branchOnNegative.instruction = .ofWord 0x103F :=
    instruction_of_cell (by decide) (Machine.read_loaded (i := 0) rfl (by decide) (by decide))
  have hexecutes : branchOnNegative.Executes := ⟨rfl, rfl, by decide⟩
  have hresult : branchOnNegative.result? = some 0xFFFF := by
    unfold result?
    rw [hinstruction, next_branchOnNegative, if_pos ⟨hexecutes, by decide⟩]
    rfl
  unfold lastResult?
  rw [after_zero, hresult]
  rfl

/-- The branch is taken, since the result was negative. -/
theorem flag_tells_last_result_negative :
    branchOnNegative.machine.AtStart
      ∧ (branchOnNegative.after 1).machine.core.registers.flag = .negative
      ∧ (branchOnNegative.after 2).machine.core.registers.pc = 0x3003 := by
  have hstart : branchOnNegative.machine.AtStart := ⟨rfl, rfl⟩
  have hafter : branchOnNegative.after 1 = branchOnNegativeNext := next_branchOnNegative
  have hread : branchOnNegativeNext.machine.core.memory.read 0x3001
      = .done (0x0801, branchOnNegativeNext.machine.core.memory) :=
    Machine.read_loaded (i := 1) rfl (by decide) (by decide)
  have hfetched : branchOnNegativeNext.polled.fetched.value.1 = 0x0801 := by
    rw [polled_of_not_due (by decide), fetched]
    show ((branchOnNegativeNext.machine.core.memory.read 0x3001).hold _ _).value.1 = _
    rw [hread]
    rfl
  have hsign : Table.sign 0xFFFF = .negative := by
    rw [Table.sign_eq_ofWord]
    decide
  obtain ⟨hflag, hbranch⟩ := flag_tells_last_result.2 branchOnNegative hstart 1
  rw [lastResult?_branchOnNegative, Option.map_some, hsign] at hflag hbranch
  rw [hafter, hfetched] at hbranch
  refine ⟨hstart, hflag, ?_⟩
  rw [after_succ', hafter]
  have hpc := hbranch ⟨rfl, rfl, by decide⟩ (by decide)
  rw [if_pos (by decide)] at hpc
  exact hpc.trans (by decide)

end System

end LC3
