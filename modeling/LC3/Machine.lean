import LC3.Trap

/-!
# The machine

A machine is its registers and memory with the settings of the run, the
number of instructions executed so far, and whether polling between
instructions was given up. It holds no device: `Machine.step` is a dialogue
that ends with how the step went and the machine after it.

## A step

**Before the fetch** the machine stops if the step limit is reached. Every
4096 instructions it polls the keyboard, for the sake of a program that never
reads input and could not be interrupted otherwise; a character found by this
poll stays with the keyboard. If the poll fails it is never made again. Then
the machine stops if shutdown was requested.

**The instruction** is read from memory like any word, the program counter
moves on, the step is counted, and the instruction takes effect. Addresses
relative to the program counter are therefore relative to the instruction
that follows. All sums of addresses wrap around.
-/

namespace LC3

namespace Core

/-- The address at a signed distance from the program counter. -/
def near (core : Core) (distance : Word) : Word := core.registers.pc + distance

/-- The address at a signed distance from a base register. -/
def beyond (core : Core) (base : Fin 8) (distance : Word) : Word :=
  core.registers.get base + distance

/-- The second operand of an arithmetic instruction. -/
def operand (core : Core) (i : Instruction) : Word :=
  if i.usesImmediate then i.imm5 else core.registers.get i.sr2

/-- Writes a result to a register and its sign to the flag. -/
def assign (core : Core) (i : Fin 8) (value : Word) : Core :=
  match core with
  | ⟨registers, memory⟩ => ⟨registers.assign i value, memory⟩

/-- Moves the program counter. -/
def jump (core : Core) (target : Word) : Core :=
  match core with
  | ⟨registers, memory⟩ => ⟨registers.jump target, memory⟩

/-- Reads a word of memory. -/
def read (core : Core) (a : Word) : Dialogue (Word × Core) :=
  match core with
  | ⟨registers, memory⟩ => do
    let (w, memory) ← memory.read a
    return (w, ⟨registers, memory⟩)

/-- Stores a register. -/
def store (core : Core) (i : Fin 8) (a : Word) : Dialogue Core :=
  match core with
  | ⟨registers, memory⟩ => do
    let value := registers.get i
    Dialogue.tell (.stored a value)
    return ⟨registers, memory.write a value⟩

/-- Reads the instruction that the program counter names, and moves on. -/
def fetch (core : Core) : Dialogue (Word × Core) :=
  match core with
  | ⟨registers, memory⟩ => do
    let (w, memory) ← memory.read registers.pc
    return (w, ⟨registers.advance, memory⟩)

/-- Ends a step that leaves the machine running. -/
def goOn (core : Core) : Dialogue (Outcome × Core) := .done (.running, core)

/-- **The effect of an instruction** that was fetched from an address. -/
def execute (config : Config) (address : Word) (core : Core) (i : Instruction) :
    Dialogue (Outcome × Core) :=
  match i.opcode with
  | .br =>
    if i.signs &&& core.registers.flag.bits = 0 then goOn core
    else goOn (core.jump (core.near i.off9))
  | .add => goOn (core.assign i.dr (core.registers.get i.sr1 + core.operand i))
  | .and => goOn (core.assign i.dr (core.registers.get i.sr1 &&& core.operand i))
  | .not => goOn (core.assign i.dr (~~~ core.registers.get i.sr1))
  | .lea => goOn (core.assign i.dr (core.near i.off9))
  | .jmp => goOn (core.jump (core.registers.get i.sr1))
  | .jsr =>
    let core := { core with registers := core.registers.set Registers.r7 core.registers.pc }
    goOn (core.jump (if i.usesOffset then core.near i.off11 else core.registers.get i.sr1))
  | .ld => do
    let (value, core) ← core.read (core.near i.off9)
    goOn (core.assign i.dr value)
  | .ldi => do
    let (a, core) ← core.read (core.near i.off9)
    let (value, core) ← core.read a
    goOn (core.assign i.dr value)
  | .ldr => do
    let (value, core) ← core.read (core.beyond i.sr1 i.off6)
    goOn (core.assign i.dr value)
  | .st => do
    let core ← core.store i.dr (core.near i.off9)
    goOn core
  | .sti => do
    let (a, core) ← core.read (core.near i.off9)
    let core ← core.store i.dr a
    goOn core
  | .str => do
    let core ← core.store i.dr (core.beyond i.sr1 i.off6)
    goOn core
  | .rti | .res => do
    Dialogue.tell (.reservedOpcode i.opcode address)
    return (.fault (.reservedOpcode i.code address), core)
  | .trap =>
    match Trap.ofVector? i.vector with
    | some trap => trap.perform config core
    | none => do
      Dialogue.tell (.unknownTrap i.vector)
      goOn core

end Core

/-- **The machine.** -/
structure Machine where
  /-- The registers and the memory. -/
  core : Core
  /-- The settings of the run. -/
  config : Config
  /-- The number of instructions executed since the last reset. -/
  steps : UInt64
  /-- Whether the keyboard is no longer polled between instructions. -/
  pollFailed : Bool
  deriving DecidableEq

namespace Machine

/-- The number of instructions from one poll to the next. -/
def pollInterval : UInt64 := 4096

/-- The largest number of steps that can be counted. -/
def maxCount : UInt64 := 0xFFFFFFFFFFFFFFFF

/-- A machine with empty memory. -/
def initial : Machine := ⟨⟨.initial, .empty⟩, .default, 0, false⟩

/-- The step limit, if it is reached. -/
def limitReached? (m : Machine) : Option UInt64 :=
  m.config.maxSteps.filter fun limit => m.steps ≥ limit

/-- Polls the keyboard once in every interval, until a poll fails. -/
def pollBetween (m : Machine) : Dialogue Machine :=
  if m.steps % pollInterval = pollInterval - 1 ∧ m.pollFailed = false then do
    match ← Dialogue.pollKeyboard with
    | .ok _ => return m
    | .error e =>
      Dialogue.tell (.pollAbandoned e)
      return { m with pollFailed := true }
  else return m

/-- **Fetches and executes one instruction.** -/
def cycle (m : Machine) : Dialogue (Outcome × Machine) :=
  match m with
  | ⟨core, config, steps, pollFailed⟩ => do
    let address := core.registers.pc
    let (w, core) ← core.fetch
    if steps = maxCount then return (.crash .arithmetic, ⟨core, config, steps, pollFailed⟩)
    else
      let steps := steps + 1
      match Instruction.decode w with
      | .error violation => return (.crash violation, ⟨core, config, steps, pollFailed⟩)
      | .ok i =>
        Dialogue.tell (.executed address i)
        let (outcome, core) ← core.execute config address i
        return (outcome, ⟨core, config, steps, pollFailed⟩)

/-- **One step of the machine.** -/
def step (m : Machine) : Dialogue (Outcome × Machine) :=
  match m.limitReached? with
  | some limit => do
    Dialogue.tell (.limitReached limit)
    return (.fault (.stepLimit limit), m)
  | none => do
    let m ← m.pollBetween
    if ← Dialogue.shutdownRequested then
      Dialogue.tell .interrupted
      return (.fault .interrupted, m)
    else m.cycle

/-- Resets the registers and the step count, so that the program can run
again. -/
def reset (m : Machine) : Dialogue Machine := do
  Dialogue.tell .registersReset
  return { m with core := { m.core with registers := .initial }, steps := 0 }

/-- **Loads a program**, whose first word is its origin, and resets the
registers. The machine stays as it is if the program is refused. -/
def load (m : Machine) (program : List Word) : Dialogue (Except LoadError Unit × Machine) :=
  match program with
  | [] => return (.error .missingOrigin, m)
  | origin :: words =>
    match m.core.memory.load origin words with
    | .error e => return (.error e, m)
    | .ok memory => do
      let m ← reset { m with core := { m.core with memory := memory } }
      Dialogue.tell (.programLoaded words.length origin)
      return (.ok (), m)

/-! ## Steps are counted -/

/-- A count that is not used up goes up by one. -/
theorem toNat_count_add_one {steps : UInt64} (h : steps ≠ maxCount) :
    (steps + 1).toNat = steps.toNat + 1 := by
  have hlt : steps.toNat < UInt64.size := steps.toNat_lt_size
  have hne : steps.toNat ≠ UInt64.size - 1 := fun e => h (UInt64.toNat_inj.1 e)
  rw [UInt64.toNat_add]
  exact Nat.mod_eq_of_lt (show steps.toNat + 1 < UInt64.size by omega)

/-- A step that leaves the machine running was counted. -/
theorem ends_cycle (m : Machine) :
    m.cycle.Ends fun (outcome, m') =>
      outcome = .running → m.steps ≠ maxCount ∧ m'.steps = m.steps + 1 := by
  obtain ⟨core, config, steps, pollFailed⟩ := m
  rw [cycle]
  refine Dialogue.ends_bind.2 (Dialogue.ends_of_forall (fun (w, core) => ?_) _)
  dsimp only
  split
  · exact fun h => by cases h
  next hs =>
    split
    · exact fun h => by cases h
    · refine Dialogue.ends_bind.2 (Dialogue.ends_of_forall (fun _ => ?_) _)
      refine Dialogue.ends_bind.2 (Dialogue.ends_of_forall (fun _ => ?_) _)
      exact fun _ => ⟨hs, rfl⟩

theorem ends_step (m : Machine) :
    m.step.Ends fun (outcome, m') =>
      outcome = .running → m.steps ≠ maxCount ∧ m'.steps = m.steps + 1 := by
  rw [step]
  split
  · refine Dialogue.ends_bind.2 (Dialogue.ends_of_forall (fun _ => ?_) _)
    exact fun h => by cases h
  · refine Dialogue.ends_bind.2 (Dialogue.Ends.imp (P := fun m' => m'.steps = m.steps) ?_ ?_)
    · intro m' hm
      refine Dialogue.ends_bind.2 (Dialogue.ends_of_forall (fun requested => ?_) _)
      split
      · refine Dialogue.ends_bind.2 (Dialogue.ends_of_forall (fun _ => ?_) _)
        exact fun h => by cases h
      · exact hm ▸ m'.ends_cycle
    · rw [pollBetween]
      split
      · refine Dialogue.ends_bind.2 (Dialogue.ends_of_forall (fun answer => ?_) _)
        split
        · rfl
        · refine Dialogue.ends_bind.2 (Dialogue.ends_of_forall (fun _ => ?_) _)
          rfl
      · rfl

end Machine

end LC3
