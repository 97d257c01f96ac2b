import LC3.Exchange
import LC3.Outcome
import LC3.Text.Number

/-!
# What the user is told

The texts that go with faults, with programs that cannot be loaded, and with
events. A fault is told in one sentence; an event is a line of the log, its
level first, and carries further facts as pairs of a name and a value.
-/

namespace LC3

namespace LoadError

/-- **Why a program cannot be loaded**, in a sentence. -/
def message : LoadError → String
  | missingOrigin => "Program is missing valid .ORIG header"
  | oddBytes count =>
    "Program has an odd number of bytes (" ++ toString count ++ "), expected whole u16 words"
  | tooLong origin actual maximum =>
    "Program too long, got " ++ toString actual ++ " u16 instructions at origin "
      ++ Text.address origin ++ " while limit is " ++ toString maximum
  | unreadable path reason => "Program file " ++ path ++ " could not be read: " ++ reason

end LoadError

namespace Fault

/-- **Why a run ended**, in a sentence. -/
def message : Fault → String
  | reservedOpcode code address =>
    "Reserved opcode " ++ Text.markedBinary 4 code.toNat ++ " executed at address "
      ++ Text.address address
  | interrupted => "Execution interrupted"
  | device error =>
    "Error during reading Stdin or writing program output to Stdout: " ++ error.text
  | stepLimit limit => "Step limit of " ++ toString limit ++ " instructions reached"

end Fault

namespace Instruction

/-- An instruction in a few words: the operation, the register field, and the
offset from the program counter. -/
def summary (i : Instruction) : String :=
  "Op: " ++ i.opcode.name ++ ", DR: " ++ Text.binary 3 i.dr.val ++ ", PC_Off: "
    ++ toString i.off9.signed

end Instruction

namespace Event

/-- The sentence of an event; empty for an event that is not logged. -/
def message : Event → String
  | limitReached limit => "Step limit of " ++ toString limit ++ " instructions reached"
  | pollAbandoned error =>
    "Polling keyboard failed, not checking for CTRL-C anymore: " ++ error.text
  | interrupted => "Execution interrupted"
  | executed address i =>
    "execute pc=" ++ Text.address address ++ " instruction=" ++ i.summary
  | reservedOpcode opcode address =>
    "Reserved opcode " ++ opcode.name ++ " at " ++ Text.address address
      ++ ", stopping execution"
  | unknownTrap vector => "Ignoring unknown trap vector " ++ Text.hex 2 vector.toNat
  | statusPollFailed error => "Polling keyboard failed, treating as no input: " ++ error.text
  | endOfInput => "End of input reached"
  | shutdownRequested => "CTRL-C pressed, requesting shutdown"
  | registersReset => "Registers reset"
  | programLoaded count origin =>
    "Loaded program with " ++ toString count ++ " words at origin " ++ Text.address origin
  | programHalted steps => "Program halted after " ++ toString steps ++ " instructions"
  | streamInput => "Stdin is not a terminal, reading input from it directly"
  | streamMode => "Stdin is not a terminal, not switching to raw mode"
  | stored .. | statusRead .. | dataRead .. => ""

/-- The names of the facts that a log has of an event, in the order of the
alphabet. The sentence is one of them. -/
def facts : Event → List String
  | executed .. => ["instruction", "message", "pc"]
  | _ => ["message"]

/-- **The line of an event in a log** of the events that are wanted, if it
has one. -/
def line? (wanted : Event → Bool) (event : Event) : Option String :=
  if wanted event then event.level?.map fun level => level.name ++ " " ++ event.message
  else none

end Event

/-- Adds the line of an exchange to a log of the events that are wanted. -/
def addLine (wanted : Event → Bool) (lines : Array String) (exchange : Exchange) :
    Array String :=
  match exchange.event?.bind (Event.line? wanted) with
  | some line => lines.push line
  | none => lines

end LC3
