import LC3.Proofs.Step

/-!
# The work of a cycle

What one cycle of the machine does depends on its memory only through the
words that it reads, and on its devices only through the answers they give.
**Work** is what is left when memory and devices are taken away: a tree that
branches at every word and at every answer, and is otherwise a computation on
registers. It does not poll, nor ask whether shutdown was requested; a step
does that before the cycle.

`Work.on` gives the memory back, and the cycle of every machine is its work on
its memory (`Machine.cycle_eq_on_work`). So what is proved by induction on
work, one case for each constructor, holds of every cycle, whatever program
is executed. The tree says which words are stored, and what becomes of a word
that was read; a list of the acts performed would not say that much.
-/

namespace LC3

/-- **What a cycle does**, apart from what memory and devices make of it. -/
inductive Work (α : Type) where
  /-- Nothing more. -/
  | done (a : α)
  /-- Read a word of memory. -/
  | read (a : Word) (next : Word → Work α)
  /-- Store a word. -/
  | store (a value : Word) (rest : Work α)
  /-- Wait for a character. -/
  | wait (next : Except DeviceError (Option UInt8) → Work α)
  /-- Write a message and make it visible. -/
  | say (message : List UInt8) (next : Except DeviceError Unit → Work α)
  /-- Report an event. -/
  | tell (event : Event) (rest : Work α)

namespace Work

variable {α β : Type}

/-- One piece of work after another. -/
def bind : Work α → (α → Work β) → Work β
  | done a, f => f a
  | read a next, f => read a fun w => (next w).bind f
  | store a value rest, f => store a value (rest.bind f)
  | wait next, f => wait fun answer => (next answer).bind f
  | say message next, f => say message fun answer => (next answer).bind f
  | tell event rest, f => tell event (rest.bind f)

instance : Monad Work where
  pure := done
  bind := bind

/-- **Work on a memory** is a dialogue, which ends with the memory as the work
leaves it. -/
def on : Work α → Memory → Dialogue (α × Memory)
  | done a, m => .done (a, m)
  | read a next, m => do
    let (w, m) ← m.read a
    (next w).on m
  | store a value rest, m => do
    Dialogue.tell (.stored a value)
    rest.on (m.write a value)
  | wait next, m => do
    let answer ← Dialogue.awaitCharacter
    (next answer).on m
  | say message next, m => do
    let answer ← Dialogue.say message
    (next answer).on m
  | tell event rest, m => do
    Dialogue.tell event
    rest.on m

/-- **One piece of work after another** is one dialogue after another. -/
theorem on_bind (x : Work α) (f : α → Work β) (m : Memory) :
    (x >>= f).on m = x.on m >>= fun (a, m) => (f a).on m := by
  show (x.bind f).on m = _
  induction x generalizing m with
  | done a => rfl
  | read a next ih => simp only [bind, on, bind_assoc, ih]
  | store a value rest ih => simp only [bind, on, bind_assoc, ih]
  | wait next ih => simp only [bind, on, bind_assoc, ih]
  | say message next ih => simp only [bind, on, bind_assoc, ih]
  | tell event rest ih => simp only [bind, on, bind_assoc, ih]

end Work

/-! ## Traps

A routine touches the memory only when it prints a string, and then it reads.
Each of the pieces that routines are made of has its work, and is that work on
the memory it is given (`Dialogue.IsWork`). -/

namespace Trap

/-- Reading a string as work. -/
def gatherWork (packing : Packing) : (count : Nat) → (a : Word) → List UInt8 → Work (List UInt8)
  | 0, _, before => .done before.reverse
  | count + 1, a, before => .read a fun w =>
    if w = 0 then .done before.reverse
    else gatherWork packing count (a + 1) ((packing.characters w).reverse ++ before)

/-- Reading a string is its work: the same words are read, and at the same one it stops.
-/
theorem gather_eq_on_work (packing : Packing) (count : Nat) (a : Word) (m : Memory)
    (before : List UInt8) :
    gather packing count a m before = (gatherWork packing count a before).on m := by
  induction count generalizing a m before with
  | zero => rfl
  | succ count ih =>
    rw [gather_succ]
    refine congrArg (m.read a >>= ·) (funext fun (w, m) => ?_)
    by_cases hzero : w = 0
    · dsimp only
      rw [if_pos hzero, if_pos hzero]
      rfl
    · dsimp only
      rw [if_neg hzero, if_neg hzero]
      exact ih _ _ _

/-- Writing a message as work. -/
def printWork (r : Registers) (message : List UInt8) (outcome : Outcome) :
    Work (Outcome × Registers) :=
  .say message fun
    | .ok () => .done (outcome, r)
    | .error e => .done (.fault (.device e), r)

/-- Waiting for a character as work. -/
def receiveWork (r : Registers) (next : UInt8 → Registers → Work (Outcome × Registers)) :
    Work (Outcome × Registers) :=
  .wait fun
    | .ok (some c) => next c (r.set Registers.r0 c.toUInt16)
    | .ok none => .done (.fault .interrupted, r)
    | .error e => .done (.fault (.device e), r)

/-- Writing a string as work. -/
def printStringWork (packing : Packing) (r : Registers) : Work (Outcome × Registers) := do
  let message ← gatherWork packing UInt16.size (r.get Registers.r0) []
  printWork r message .running

/-- **The routine of a trap as work.** -/
def work (config : Config) (r : Registers) : Trap → Work (Outcome × Registers)
  | getC => receiveWork r fun _ r => .done (.running, r)
  | out => printWork r [(r.get Registers.r0).lowByte] .running
  | putS => printStringWork .single r
  | input => .say config.prompt.toUTF8.toList fun
    | .ok () => receiveWork r fun c r => printWork r [c, 0x0A] .running
    | .error e => .done (.fault (.device e), r)
  | putSP => printStringWork .double r
  | halt =>
    if config.haltNotice then printWork r LC3.haltNotice.toUTF8.toList .halted
    else .done (.halted, r)

end Trap

/-- A result of work with the memory that it leaves. -/
def Core.ofWork : (Outcome × Registers) × Memory → Outcome × Core
  | ((outcome, r), m) => (outcome, ⟨r, m⟩)

open LC3.Core (ofWork)

/-- A dialogue is the work given, on the memory given. -/
def Dialogue.IsWork (dialogue : Dialogue (Outcome × Core)) (work : Work (Outcome × Registers))
    (m : Memory) : Prop :=
  dialogue = work.on m >>= fun result => return ofWork result

namespace Trap

/-- Writing a message is its work, which leaves the memory alone. -/
theorem print_isWork (core : Core) (message : List UInt8) (outcome : Outcome) :
    (print core message outcome).IsWork (printWork core.registers message outcome)
      core.memory := by
  unfold Dialogue.IsWork print printWork Work.on
  rw [bind_assoc]
  refine congrArg (Dialogue.say message >>= ·) (funext fun answer => ?_)
  cases answer <;> rfl

/-- Waiting for a character is its work, if what follows the character is. -/
theorem receive_isWork (core : Core) {next : UInt8 → Core → Dialogue (Outcome × Core)}
    {nextWork : UInt8 → Registers → Work (Outcome × Registers)}
    (h : ∀ c core, (next c core).IsWork (nextWork c core.registers) core.memory) :
    (receive core next).IsWork (receiveWork core.registers nextWork) core.memory := by
  unfold Dialogue.IsWork receive receiveWork Work.on
  rw [bind_assoc]
  refine congrArg (Dialogue.awaitCharacter >>= ·) (funext fun answer => ?_)
  match answer with
  | .ok (some c) => exact h c _
  | .ok none => rfl
  | .error e => rfl

/-- Writing a string is its work: the pass and then the message. -/
theorem printString_isWork (packing : Packing) (core : Core) :
    (printString packing core).IsWork (printStringWork packing core.registers) core.memory := by
  obtain ⟨r, m⟩ := core
  unfold Dialogue.IsWork printString printStringWork
  dsimp only
  rw [Work.on_bind, bind_assoc, gather_eq_on_work]
  exact congrArg ((gatherWork _ _ _ _).on m >>= ·) (funext fun (message, m) =>
    print_isWork ⟨r, m⟩ message .running)

/-- **A routine is its work** on the memory. -/
theorem perform_isWork (config : Config) (core : Core) (trap : Trap) :
    (trap.perform config core).IsWork (trap.work config core.registers) core.memory := by
  cases trap with
  | getC => exact @receive_isWork core _ (fun _ r => .done (.running, r)) fun _ _ => rfl
  | out => exact print_isWork core _ _
  | putS => exact printString_isWork .single core
  | putSP => exact printString_isWork .double core
  | input =>
    unfold Dialogue.IsWork perform work Work.on
    rw [bind_assoc]
    refine congrArg (Dialogue.say _ >>= ·) (funext fun answer => ?_)
    cases answer with
    | ok => exact receive_isWork core fun c core => print_isWork core _ _
    | error e => rfl
  | halt =>
    unfold Dialogue.IsWork perform work
    dsimp only
    split
    · exact print_isWork core _ _
    · rfl

end Trap

/-! ## Instructions and cycles

Of an instruction the registers are computed at once, between the words that are
read and those that are stored. So its work is the instruction itself with the
memory taken away, and the comparison is case by case: reads are put before what
follows them (`bind_assoc`), and all else is by definition. -/

namespace Registers

/-- The second operand of an arithmetic instruction. -/
def operand (r : Registers) (i : Instruction) : Word :=
  if i.usesImmediate then i.imm5 else r.get i.sr2

/-- The end of an instruction that leaves the machine running. -/
def goOn (r : Registers) : Work (Outcome × Registers) := .done (.running, r)

end Registers

open Registers (goOn)

/-- **The effect of an instruction as work**, once the program counter has
moved on from its address. -/
def Instruction.work (config : Config) (address : Word) (r : Registers) (i : Instruction) :
    Work (Outcome × Registers) :=
  match i.opcode with
  | .br => if i.signs &&& r.flag.bits = 0 then goOn r else goOn (r.jump (r.pc + i.off9))
  | .add => goOn (r.assign i.dr (r.get i.sr1 + r.operand i))
  | .and => goOn (r.assign i.dr (r.get i.sr1 &&& r.operand i))
  | .not => goOn (r.assign i.dr (~~~ r.get i.sr1))
  | .lea => goOn (r.assign i.dr (r.pc + i.off9))
  | .jmp => goOn (r.jump (r.get i.sr1))
  | .jsr =>
    let r := r.set Registers.r7 r.pc
    goOn (r.jump (if i.usesOffset then r.pc + i.off11 else r.get i.sr1))
  | .ld => .read (r.pc + i.off9) fun value => goOn (r.assign i.dr value)
  | .ldi => .read (r.pc + i.off9) fun a => .read a fun value => goOn (r.assign i.dr value)
  | .ldr => .read (r.get i.sr1 + i.off6) fun value => goOn (r.assign i.dr value)
  | .st => .store (r.pc + i.off9) (r.get i.dr) (goOn r)
  | .sti => .read (r.pc + i.off9) fun a => .store a (r.get i.dr) (goOn r)
  | .str => .store (r.get i.sr1 + i.off6) (r.get i.dr) (goOn r)
  | .rti | .res =>
    .tell (.reservedOpcode i.opcode address)
      (.done (.fault (.reservedOpcode i.code address), r))
  | .trap =>
    match Trap.ofVector? i.vector with
    | some trap => trap.work config r
    | none => .tell (.unknownTrap i.vector) (goOn r)

/-- **An instruction is its work** on the memory. -/
theorem Core.execute_isWork (config : Config) (address : Word) (core : Core) (i : Instruction) :
    (core.execute config address i).IsWork (i.work config address core.registers)
      core.memory := by
  obtain ⟨r, m⟩ := core
  unfold Dialogue.IsWork execute Instruction.work
  cases i.opcode with
  | br =>
    dsimp only
    split <;> rfl
  | add | and | not | lea | jmp | jsr | st | str | rti | res => rfl
  | ld | ldr =>
    show (m.read _ >>= _) >>= _ = (m.read _ >>= _) >>= _
    rw [bind_assoc, bind_assoc]
    rfl
  | sti =>
    show (m.read _ >>= _) >>= _ = (m.read _ >>= _) >>= _
    rw [bind_assoc, bind_assoc]
    rfl
  | ldi =>
    show (m.read _ >>= _) >>= _ = (m.read _ >>= _) >>= _
    rw [bind_assoc, bind_assoc]
    refine congrArg (m.read _ >>= ·) (funext fun (a, m) => ?_)
    show (m.read a >>= _) >>= _ = (m.read a >>= _) >>= _
    rw [bind_assoc, bind_assoc]
    rfl
  | trap =>
    dsimp only
    cases Trap.ofVector? i.vector with
    | some trap => exact Trap.perform_isWork config ⟨r, m⟩ trap
    | none => rfl

namespace Machine

/-- **A cycle as work:** the instruction is fetched, counted and takes effect.
What is left are the outcome, the registers and the count. -/
def work (m : Machine) : Work (Outcome × Registers × UInt64) :=
  let r := m.core.registers
  .read r.pc fun w =>
    if m.steps = maxCount then .done (.crash .arithmetic, r.advance, m.steps)
    else .tell (.executed r.pc (.ofWord w)) do
      let (outcome, r) ← (Instruction.ofWord w).work m.config r.pc r.advance
      return (outcome, r, m.steps + 1)

/-- The machine with the registers, the memory and the count that the work of
a cycle leaves. -/
def worked (m : Machine) : (Outcome × Registers × UInt64) × Memory → Outcome × Machine
  | ((outcome, r, steps), memory) => (outcome, { m with core := ⟨r, memory⟩, steps := steps })

/-- **The cycle of a machine is its work** on its memory. -/
theorem cycle_eq_on_work (m : Machine) :
    m.cycle = m.work.on m.core.memory >>= fun result => return m.worked result := by
  obtain ⟨⟨r, memory⟩, config, steps, pollFailed⟩ := m
  show (memory.read r.pc >>= _) >>= _ = (memory.read r.pc >>= _) >>= _
  rw [bind_assoc, bind_assoc]
  refine congrArg (memory.read r.pc >>= ·) (funext fun (w, memory) => ?_)
  dsimp only
  rw [pure_bind]
  by_cases hfull : steps = maxCount
  · rw [if_pos hfull, if_pos hfull]
    rfl
  · rw [if_neg hfull, if_neg hfull, Instruction.decode_eq_ok]
    rw [Work.on, bind_assoc]
    refine congrArg (Dialogue.tell (.executed r.pc (.ofWord w)) >>= ·) (funext fun _ => ?_)
    rw [Work.on_bind, bind_assoc, Core.execute_isWork config r.pc ⟨r.advance, memory⟩,
      bind_assoc]
    rfl

end Machine

end LC3
