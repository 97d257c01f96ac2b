/-!
# What can be tuned

Three settings of a run that do not depend on the program: whether a halting
program announces itself, what the machine says before it asks for a
character, and after how many instructions it gives up.
-/

namespace LC3

/-- **The settings of a run.** -/
structure Config where
  /-- Whether the console is told that the program halted. -/
  haltNotice : Bool
  /-- What the console is told before the IN trap waits for a character. -/
  prompt : String
  /-- The number of instructions after which the machine stops, if any. -/
  maxSteps : Option UInt64
  deriving DecidableEq, Repr

namespace Config

/-- A notice, the usual prompt, and no limit. -/
def default : Config := ⟨true, "Enter a character: ", none⟩

end Config

/-- The usual prompt as the console gets it, a line that is not ended. -/
theorem Config.toUTF8_prompt_default :
    Config.default.prompt.toUTF8.toList
      = [0x45, 0x6E, 0x74, 0x65, 0x72, 0x20, 0x61, 0x20, 0x63, 0x68, 0x61, 0x72, 0x61, 0x63,
        0x74, 0x65, 0x72, 0x3A, 0x20] := by
  decide +kernel

/-- What the console is told when a program halts. -/
def haltNotice : String := "\nProgram halted\n"

/-- **The notice as the console gets it:** two words on a line of their own. -/
theorem toUTF8_haltNotice :
    haltNotice.toUTF8.toList
      = [0x0A, 0x50, 0x72, 0x6F, 0x67, 0x72, 0x61, 0x6D, 0x20, 0x68, 0x61, 0x6C, 0x74, 0x65,
        0x64, 0x0A] := by
  decide +kernel

end LC3
