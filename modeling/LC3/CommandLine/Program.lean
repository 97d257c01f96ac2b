import LC3.CommandLine.Arguments
import LC3.CommandLine.LogFilter
import LC3.Keyboard.Stream
import LC3.Console.Collector
import LC3.System

/-!
# The program

The program reads an image, runs it with standard input as its keyboard and
standard output as its console, and exits with a code that says why the run
ended. What goes wrong is told on standard error, where the log goes too.

`Program.report` is the whole of it as a function of what the program is
given. It is for input that is not typed on a terminal; nothing in it depends
on when the bytes of the input arrive.
-/

namespace LC3

namespace Outcome

/-- **The exit code of the program**, by how the run ended. -/
def exitCode : Outcome → UInt8
  | running | halted => 0
  | fault (.reservedOpcode ..) => 3
  | fault (.device _) | fault (.stepLimit _) => 4
  | fault .interrupted => 130
  | crash _ => 101

/-- What standard error is told of how the run ended. -/
def complaint : Outcome → List String
  | fault f => [f.message]
  | running | halted | crash _ => []

end Outcome

namespace Program

/-- **What the program is given.** -/
structure Given where
  /-- The arguments. -/
  arguments : List String
  /-- The filter of the log, if the environment has one. -/
  logFilter : Option String
  /-- The bytes of a file, or why it cannot be read. -/
  file : String → Except String (List UInt8)
  /-- Standard input. -/
  input : List UInt8

/-- **What the program leaves behind.** -/
structure Traces where
  /-- The exit code. -/
  code : UInt8
  /-- Standard output. -/
  output : Array UInt8 := #[]
  /-- The lines on standard error that are not part of the log. -/
  complaints : List String := []
  /-- The lines of the log. -/
  log : List String := []
  deriving DecidableEq, Repr

/-- The settings that the arguments ask for. -/
def settings (a : Arguments) : Config :=
  { Config.default with haltNotice := !a.withoutNotice, maxSteps := a.maxSteps }

/-- What the program does when it cannot load the image. -/
def loadFailure (e : LoadError) : Traces :=
  { code := 1, complaints := ["Failed to load image: " ++ e.message] }

/-- The machine with an image loaded, announced as reading from a stream. -/
def loaded (image : List UInt8) : Dialogue (Except LoadError Unit × Machine) := do
  Dialogue.tell .streamInput
  Machine.initial.loadImage image

/-- Runs an image. -/
def execute (a : Arguments) (filter : LogFilter) (image input : List UInt8) : Traces :=
  let keyboard : Stream := { steps := input.map .byte }
  let console : Collector := {}
  match (loaded image).hold keyboard console with
  | ⟨(.error e, _), _, _, exchanges⟩ =>
    { loadFailure e with log := (exchanges.foldl (addLine filter.admits) #[]).toList }
  | ⟨(.ok (), machine), keyboard, console, exchanges⟩ =>
    let system := System.mk { machine with config := settings a } keyboard console
    let lines := (exchanges ++ [Exchange.reported .streamMode]).foldl (addLine filter.admits) #[]
    let (outcome, system, lines) := system.runWith (addLine filter.admits) lines
    { code := outcome.exitCode
      output := system.console.bytes
      complaints := outcome.complaint
      log := lines.toList }

/-- **All that the program does**, by what it is given. -/
def report (given : Given) : Traces :=
  match Arguments.understand given.arguments with
  | .error .usage | .error .version => { code := 0 }
  | .error .misuse => { code := 2 }
  | .ok (name, a) =>
    match given.file name with
    | .error reason => loadFailure (.unreadable name reason)
    | .ok image =>
      execute a (LogFilter.choose a.verbosity given.logFilter) image given.input

end Program

end LC3
