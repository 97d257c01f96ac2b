import LC3.Proofs.CheckedCuts
import LC3.Proofs.RegularSteps

/-!
# A machine with every check

This is the machine as a build runs it that leaves no mistake unnoticed. It
differs from `Machine` in what it checks:

* the **cuts** of an instruction and the step count are computed with checked
  arithmetic (`LC3.Proofs.CheckedCuts`);
* a **cell** of the memory is found by its number, and there may be none of
  that number;
* the **keyboard** is one object that the memory and the traps share. Whoever
  wants to ask it must borrow it first, for looking or for changing, and gives
  it back afterwards. It can be borrowed for changing only while nobody else
  has it, and for looking only while nobody has it for changing.

Whatever fails a check is refused, and the refusal ends the run at once. Sums
of addresses wrap around here too, for that is what they are meant to do.
-/

namespace LC3

/-- **Who has the keyboard.** -/
inductive Loan where
  /-- Nobody. -/
  | free
  /-- Somebody who looks at it, and so many others who do. -/
  | shared (others : Nat)
  /-- Somebody who may change it. -/
  | exclusive
  deriving DecidableEq

/-- **A dialogue that may be refused**, with the keyboard lent or not. -/
abbrev Checked := StateT Loan (ExceptT Refusal Dialogue)

namespace Checked

variable {α β : Type}

/-! ## What is checked -/

/-- Ends the dialogue. -/
def refuse (refusal : Refusal) : Checked α := throw refusal

/-- A computation that may be refused. -/
def certain : Except Refusal α → Checked α
  | .ok a => pure a
  | .error refusal => refuse refusal

/-- A dialogue without a question to the keyboard. -/
def aside (x : Dialogue α) : Checked α := StateT.lift (ExceptT.lift x)

/-- Reports an event. -/
def tell (event : Event) : Checked Unit := aside (Dialogue.tell event)

/-- A question that may change the keyboard. -/
def change (question : Dialogue α) : Checked α := do
  match ← get with
  | .exclusive => aside question
  | _ => refuse .loan

/-- A question that only looks at the keyboard. -/
def look (question : Dialogue α) : Checked α := do
  match ← get with
  | .free => refuse .loan
  | _ => aside question

/-- **Borrows the keyboard for changing.** -/
def borrowed (x : Checked α) : Checked α := do
  match ← get with
  | .free =>
    set Loan.exclusive
    let a ← x
    set Loan.free
    return a
  | _ => refuse .loan

/-- **Borrows the keyboard for looking.** -/
def viewed (x : Checked α) : Checked α := do
  match ← get with
  | .free =>
    set (Loan.shared 0)
    let a ← x
    set Loan.free
    return a
  | .shared others =>
    set (Loan.shared (others + 1))
    let a ← x
    set (Loan.shared others)
    return a
  | .exclusive => refuse .loan

/-! ## The memory -/

/-- The word in the cell of a number. -/
def cell (m : Memory) (i : Nat) : Except Refusal Word :=
  match m.cells[i]? with
  | some w => .ok w
  | none => .error (.noCell i)

/-- Stores a word in the cell of a number. -/
def store (m : Memory) (i : Nat) (value : Word) : Except Refusal Memory :=
  if h : i < UInt16.size then .ok ⟨m.cells.set i value h⟩ else .error (.noCell i)

/-- The word at an address, without any effect. -/
def peek (m : Memory) (a : Word) : Checked Word := certain (cell m a.toNat)

/-- Stores a word. -/
def write (m : Memory) (a value : Word) : Checked Memory := certain (store m a.toNat value)

/-- Holds a character for the program, or none. -/
def hold (m : Memory) : Option UInt8 → Checked Memory
  | some c => do
    let m ← write m Memory.statusAddress Memory.ready
    write m Memory.dataAddress c.toUInt16
  | none => write m Memory.statusAddress 0

/-- A character of the keyboard, if there is one. The keyboard is borrowed for
both questions. -/
def arrival : Checked (Option UInt8) := borrowed do
  match ← change Dialogue.pollKeyboard with
  | .ok true => change Dialogue.takeCharacter
  | .ok false => return none
  | .error e =>
    tell (.statusPollFailed e)
    return none

/-- Reads the keyboard status. -/
def readStatus (m : Memory) : Checked (Word × Memory) := do
  let status ← peek m Memory.statusAddress
  if status == Memory.ready then
    let data ← peek m Memory.dataAddress
    tell (.statusRead true true data)
    return (status, m)
  else
    let character ← arrival
    let m ← hold m character
    let status ← peek m Memory.statusAddress
    let data ← peek m Memory.dataAddress
    tell (.statusRead false (status == Memory.ready) data)
    return (status, m)

/-- Reads the keyboard data. -/
def readData (m : Memory) : Checked (Word × Memory) := do
  let status ← peek m Memory.statusAddress
  let value ← peek m Memory.dataAddress
  tell (.dataRead (status == Memory.ready) value)
  let m ← write m Memory.statusAddress 0
  return (value, m)

/-- **Reads the word at an address.** -/
def read (m : Memory) (a : Word) : Checked (Word × Memory) :=
  match KeyboardRegister.ofAddress? a with
  | some .status => readStatus m
  | some .data => readData m
  | none => do
    let w ← peek m a
    return (w, m)

/-! ## Instructions -/

/-- Reads a word of memory. -/
def load (core : Core) (a : Word) : Checked (Word × Core) := do
  let (w, memory) ← read core.memory a
  return (w, ⟨core.registers, memory⟩)

/-- Stores a register. -/
def save (core : Core) (i : Fin 8) (a : Word) : Checked Core := do
  let value := core.registers.get i
  tell (.stored a value)
  let memory ← write core.memory a value
  return ⟨core.registers, memory⟩

/-- Reads the instruction that the program counter names, and moves on. -/
def fetch (core : Core) : Checked (Word × Core) := do
  let (w, memory) ← read core.memory core.registers.pc
  return (w, ⟨core.registers.advance, memory⟩)

/-- Reads a string of at most `count` words at an address. -/
def gather (packing : Trap.Packing) : (count : Nat) → (a : Word) → Memory → List UInt8 →
    Checked (List UInt8 × Memory)
  | 0, _, m, before => return (before.reverse, m)
  | count + 1, a, m, before => do
    let (w, m) ← read m a
    if w = 0 then return (before.reverse, m)
    else gather packing count (a + 1) m ((packing.characters w).reverse ++ before)

/-- Waits for a character, puts it into R0 and goes on with it. -/
def receive (core : Core) (next : UInt8 → Core → Checked (Outcome × Core)) :
    Checked (Outcome × Core) := do
  match ← change Dialogue.awaitCharacter with
  | .ok (some c) => next c { core with registers := core.registers.set Registers.r0 c.toUInt16 }
  | .ok none => return (.fault .interrupted, core)
  | .error e => return (.fault (.device e), core)

/-- Writes the string at the address in R0. -/
def printString (packing : Trap.Packing) (core : Core) : Checked (Outcome × Core) := do
  let (message, memory) ←
    gather packing UInt16.size (core.registers.get Registers.r0) core.memory []
  aside (Trap.print ⟨core.registers, memory⟩ message .running)

/-- **The routine of a trap.** The keyboard is borrowed for the whole of a
routine that waits for a character, its prompt and its echo included. -/
def perform (config : Config) (core : Core) : Trap → Checked (Outcome × Core)
  | .getC => borrowed (receive core fun _ core => return (.running, core))
  | .out => aside (Trap.print core [(core.registers.get Registers.r0).lowByte] .running)
  | .putS => printString .single core
  | .input => borrowed do
    match ← aside (Dialogue.say config.prompt.toUTF8.toList) with
    | .ok () => receive core fun c core => aside (Trap.print core [c, 0x0A] .running)
    | .error e => return (.fault (.device e), core)
  | .putSP => printString .double core
  | .halt =>
    if config.haltNotice then aside (Trap.print core LC3.haltNotice.toUTF8.toList .halted)
    else return (.halted, core)

/-- **The effect of an instruction** that was fetched from an address. -/
def execute (config : Config) (address : Word) (core : Core) (i : Instruction) :
    Checked (Outcome × Core) :=
  match i.opcode with
  | .ld => do
    let (value, core) ← load core (core.near i.off9)
    return (.running, core.assign i.dr value)
  | .ldi => do
    let (a, core) ← load core (core.near i.off9)
    let (value, core) ← load core a
    return (.running, core.assign i.dr value)
  | .ldr => do
    let (value, core) ← load core (core.beyond i.sr1 i.off6)
    return (.running, core.assign i.dr value)
  | .st => do
    let core ← save core i.dr (core.near i.off9)
    return (.running, core)
  | .sti => do
    let (a, core) ← load core (core.near i.off9)
    let core ← save core i.dr a
    return (.running, core)
  | .str => do
    let core ← save core i.dr (core.beyond i.sr1 i.off6)
    return (.running, core)
  | .trap =>
    match Trap.ofVector? i.vector with
    | some trap => perform config core trap
    | none => do
      tell (.unknownTrap i.vector)
      return (.running, core)
  -- the others work on the registers, whose numbers were checked when they were cut
  | _ => aside (core.execute config address i)

/-! ## Steps -/

/-- Polls the keyboard once in every interval, until a poll fails. -/
def pollBetween (m : Machine) : Checked Machine :=
  if m.steps % Machine.pollInterval = Machine.pollInterval - 1 ∧ m.pollFailed = false then
    borrowed do
      match ← change Dialogue.pollKeyboard with
      | .ok _ => return m
      | .error e =>
        tell (.pollAbandoned e)
        return { m with pollFailed := true }
  else return m

/-- **Fetches and executes one instruction.** The count must have room for
it. -/
def cycle (m : Machine) : Checked (Outcome × Machine) := do
  let address := m.core.registers.pc
  let (w, core) ← fetch m.core
  let steps ← certain (add64 m.steps 1)
  let i ← certain (decode w)
  tell (.executed address i)
  let (outcome, core) ← execute m.config address core i
  return (outcome, ⟨core, m.config, steps, m.pollFailed⟩)

/-- **One step of the machine.** -/
def step (m : Machine) : Checked (Outcome × Machine) :=
  match m.limitReached? with
  | some limit => do
    tell (.limitReached limit)
    return (.fault (.stepLimit limit), m)
  | none => do
    let m ← pollBetween m
    let requested ← viewed (look Dialogue.shutdownRequested)
    if requested then
      tell .interrupted
      return (.fault .interrupted, m)
    else cycle m

/-- **So many steps**, whatever their outcomes, as long as there is room. -/
def stepMany : Nat → Machine → Checked (List Outcome × Machine)
  | 0, m => return ([], m)
  | n + 1, m =>
    if m.HasRoom then do
      let (outcome, m) ← step m
      let (outcomes, m) ← stepMany n m
      return (outcome :: outcomes, m)
    else return ([], m)

end Checked

end LC3
