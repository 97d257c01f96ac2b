import LC3.Outcome
import LC3.Config

/-!
# Trap routines

A trap is how a program reaches the console and the keyboard. There are six
routines: read a character, write one, write a string with one or with two
characters in a word, ask for a character with a prompt and an echo, and
halt. The characters and the address of a string pass through R0; no routine
touches the flag or another register.

A **string** starts at the address in R0 and ends before the first word that
reads as zero. The words are read as the program would read them, keyboard
registers included, and a string without an end stops after every address
was read once. The whole string is written at once.
-/

namespace LC3

/-- **The traps that have a routine.** -/
inductive Trap where
  | getC
  | out
  | putS
  | input
  | putSP
  | halt
  deriving DecidableEq, Repr

namespace Trap

/-- The trap of a vector, if it has a routine. -/
def ofVector? (vector : UInt8) : Option Trap :=
  match vector.toNat with
  | 0x20 => some getC
  | 0x21 => some out
  | 0x22 => some putS
  | 0x23 => some input
  | 0x24 => some putSP
  | 0x25 => some halt
  | _ => none

/-- The name a trap is shown by. -/
def name : Trap → String
  | getC => "GetC"
  | out => "Out"
  | putS => "PutS"
  | input => "In"
  | putSP => "PutSP"
  | halt => "Halt"

/-- **How the words of a string hold its characters.** -/
inductive Packing where
  /-- One character in the low byte. -/
  | single
  /-- One in the low byte and, unless it is zero, one in the high byte. -/
  | double
  deriving DecidableEq, Repr

/-- The characters in a word of a string. -/
def Packing.characters : Packing → Word → List UInt8
  | single, w => [w.lowByte]
  | double, w => if w.highByte = 0 then [w.lowByte] else [w.lowByte, w.highByte]

/-- **Reads a string** of at most `count` words at an address, after the
characters that were read before, the last of them first. A word that reads
without a question to the keyboard is handled at once, so that a long string
needs no stack. -/
def gather (packing : Packing) : (count : Nat) → (a : Word) → Memory → List UInt8 →
    Dialogue (List UInt8 × Memory)
  | 0, _, m, before => .done (before.reverse, m)
  | count + 1, a, m, before =>
    match m.read a with
    | .done (w, m) =>
      if w = 0 then .done (before.reverse, m)
      else gather packing count (a + 1) m ((packing.characters w).reverse ++ before)
    | asking => asking.graft fun (w, m) =>
      if w = 0 then .done (before.reverse, m)
      else gather packing count (a + 1) m ((packing.characters w).reverse ++ before)

/-- Reading a string is reading its first word and then the rest. -/
theorem gather_succ (packing : Packing) (count : Nat) (a : Word) (m : Memory)
    (before : List UInt8) :
    gather packing (count + 1) a m before = (do
      let (w, m) ← m.read a
      if w = 0 then return (before.reverse, m)
      else gather packing count (a + 1) m ((packing.characters w).reverse ++ before)) := by
  rw [gather, Dialogue.bind_eq_graft]
  cases m.read a <;> rfl

/-- Writes a message and ends as given, or in a fault of the console. -/
def print (core : Core) (message : List UInt8) (outcome : Outcome) :
    Dialogue (Outcome × Core) := do
  match ← Dialogue.say message with
  | .ok () => return (outcome, core)
  | .error e => return (.fault (.device e), core)

/-- Waits for a character, puts it into R0 and goes on with it. -/
def receive (core : Core) (next : UInt8 → Core → Dialogue (Outcome × Core)) :
    Dialogue (Outcome × Core) := do
  match ← Dialogue.awaitCharacter with
  | .ok (some c) => next c { core with registers := core.registers.set Registers.r0 c.toUInt16 }
  | .ok none => return (.fault .interrupted, core)
  | .error e => return (.fault (.device e), core)

/-- Writes the string at the address in R0. -/
def printString (packing : Packing) (core : Core) : Dialogue (Outcome × Core) :=
  match core with
  | ⟨registers, memory⟩ => do
    let (message, memory) ← gather packing UInt16.size (registers.get Registers.r0) memory []
    print ⟨registers, memory⟩ message .running

/-- **The routine of a trap.** -/
def perform (config : Config) (core : Core) : Trap → Dialogue (Outcome × Core)
  | getC => receive core fun _ core => return (.running, core)
  | out => print core [(core.registers.get Registers.r0).lowByte] .running
  | putS => printString .single core
  | input => do
    match ← Dialogue.say config.prompt.toUTF8.toList with
    | .ok () => receive core fun c core => print core [c, 0x0A] .running
    | .error e => return (.fault (.device e), core)
  | putSP => printString .double core
  | halt =>
    if config.haltNotice then print core LC3.haltNotice.toUTF8.toList .halted
    else return (.halted, core)

end Trap

end LC3
