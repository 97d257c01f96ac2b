import LC3.Report
import LC3.Machine
import LC3.Text.Quoted

/-!
# Values described

A description shows a value with the names of its parts, for someone who
looks into a machine from outside. Words of the register file are given in
hexadecimal and in two's complement; of memory only the number of used cells
and the keyboard registers are shown.
-/

namespace LC3

namespace Text

/-- A name with named parts in braces. -/
def record (name : String) (parts : List (String × String)) : String :=
  name ++ " \x7b " ++ ", ".intercalate (parts.map fun (part, value) => part ++ ": " ++ value)
    ++ " \x7d"

/-- A value that may be absent. -/
def optional (value : Option String) : String :=
  match value with
  | some text => "Some(" ++ text ++ ")"
  | none => "None"

end Text

namespace Registers

/-- A word of the register file. -/
def describeWord (w : Word) : String :=
  Text.address w ++ " (" ++ toString w.signed ++ ")"

/-- The register file. -/
def describe (r : Registers) : String :=
  Text.record "Registers" [
    ("general_purpose", "[" ++ ", ".intercalate (r.general.toList.map describeWord) ++ "]"),
    ("pc", describeWord r.pc),
    ("cond", r.flag.name)]

end Registers

namespace Memory

/-- The memory, by how much of it is used. -/
def describe (m : Memory) : String :=
  Text.record "Memory" [
    ("non-zero words", toString m.used),
    ("KBSR", Text.address (m.peek statusAddress)),
    ("KBDR", Text.address (m.peek dataAddress))]

end Memory

namespace Config

/-- The settings. -/
def describe (c : Config) : String :=
  Text.record "EmulatorConfig" [
    ("print_halt_notice", toString c.haltNotice),
    ("in_prompt", Text.quote c.prompt),
    ("max_steps", Text.optional (c.maxSteps.map fun limit => toString limit))]

end Config

namespace Machine

/-- The machine. Its devices are only hinted at. -/
def describe (m : Machine) : String :=
  "Emulator \x7b registers: " ++ m.core.registers.describe
    ++ ", memory: " ++ m.core.memory.describe
    ++ ", config: " ++ m.config.describe
    ++ ", steps: " ++ toString m.steps
    ++ ", keyboard_poll_failed: " ++ toString m.pollFailed ++ ", .. \x7d"

end Machine

namespace LoadError

/-- A reason why a program cannot be loaded. -/
def describe : LoadError → String
  | missingOrigin => "ProgramMissingOrigHeader"
  | oddBytes count => "ProgramOddByteCount(" ++ toString count ++ ")"
  | tooLong origin actual maximum =>
    Text.record "ProgramTooLong" [
      ("origin", toString origin),
      ("actual_instructions", toString actual),
      ("maximum_instructions", toString maximum)]
  | unreadable path reason =>
    Text.record "ProgramNotReadable" [
      ("path", Text.quote path), ("message", Text.quote reason)]

end LoadError

namespace Fault

/-- A reason why a run ended. -/
def describe : Fault → String
  | reservedOpcode code address =>
    Text.record "ReservedOpcode" [
      ("opcode", toString code), ("address", toString address)]
  | interrupted => "Interrupted"
  | device error => "IOInputOutputError(" ++ Text.quote error.text ++ ")"
  | stepLimit limit => "StepLimitReached(" ++ toString limit ++ ")"

end Fault

end LC3
