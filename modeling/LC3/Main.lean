import LC3.CommandLine.Program

/-!
# The command line

The program on actual devices. Dialogues are held with standard input and
standard output as they go: a byte is read when the keyboard needs one, and
what is written is visible as soon as it is flushed. What each question
means, and what the program makes of its arguments, is decided elsewhere.
-/

namespace LC3.CommandLine

/-- The usage of the program. -/
def usage : String :=
  "Usage: lc3-vm [OPTIONS] <IMAGE>\n\n"
    ++ "  <IMAGE>           big-endian words, the first one being the load address\n"
    ++ "  -v, --verbose     log more details to standard error, repeat for more\n"
    ++ "  --no-halt-notice  do not print a notice when the program halts\n"
    ++ "  --max-steps <N>   stop after that many instructions\n"
    ++ "  -h, --help        print this text\n"
    ++ "  -V, --version     print the version"

/-- Turns a failure of the system into an answer of a device, in one line. -/
def attempt {α : Type} (action : IO α) : IO (Except DeviceError α) := do
  try return .ok (← action)
  catch e => return .error ⟨((toString e).splitOn "\n").headD ""⟩

/-- Reads the next byte if the keyboard will need it. -/
def supply (keyboard : Stream) : IO Stream := do
  if keyboard.latch.isSome || keyboard.ended || !keyboard.steps.isEmpty then return keyboard
  match ← attempt ((← IO.getStdin).read 1) with
  | .ok bytes =>
    return { keyboard with
      steps := match bytes.toList with
        | b :: _ => [.byte b]
        | [] => [.finish] }
  | .error e => return { keyboard with steps := [.failure e] }

/-- Logs an event if the filter leaves it in the log. -/
def log (filter : LogFilter) (event : Event) : IO Unit :=
  match event.line? filter.admits with
  | some line => IO.eprintln line
  | none => return ()

/-- Holds a dialogue with standard input and standard output. -/
def converse {α : Type} (filter : LogFilter) : Dialogue α → Stream → IO (α × Stream)
  | .done a, keyboard => return (a, keyboard)
  | .poll next, keyboard => do
    let reply := Stream.poll (← supply keyboard)
    reply.events.forM (log filter)
    converse filter (next reply.answer) reply.keyboard
  | .take next, keyboard =>
    let (answer, keyboard) := Stream.take keyboard
    converse filter (next answer) keyboard
  | .wait next, keyboard => do
    let reply := Stream.wait (← supply keyboard)
    reply.events.forM (log filter)
    converse filter (next reply.answer) reply.keyboard
  | .requested next, keyboard => converse filter (next keyboard.exhausted) keyboard
  | .write bytes next, keyboard => do
    let answer ← attempt ((← IO.getStdout).write ⟨bytes.toArray⟩)
    converse filter (next answer) keyboard
  | .flush next, keyboard => do
    let answer ← attempt (← IO.getStdout).flush
    converse filter (next answer) keyboard
  | .report event rest, keyboard => do
    log filter event
    converse filter rest keyboard

/-- Steps until the machine does not go on. -/
partial def run (filter : LogFilter) (machine : Machine) (keyboard : Stream) :
    IO Outcome := do
  match ← converse filter machine.step keyboard with
  | ((.running, machine), keyboard) => run filter machine keyboard
  | ((.halted, machine), _) =>
    log filter (.programHalted machine.steps)
    return .halted
  | ((outcome, _), _) => return outcome

/-- Loads an image and runs it. -/
def execute (a : Arguments) (filter : LogFilter) (image : List UInt8) : IO UInt32 := do
  match ← converse filter (Program.loaded image) { steps := [] } with
  | ((.error e, _), _) =>
    (Program.loadFailure e).complaints.forM fun line => IO.eprintln line
    return (Program.loadFailure e).code.toUInt32
  | ((.ok (), machine), keyboard) =>
    log filter .streamMode
    let outcome ← run filter { machine with config := Program.settings a } keyboard
    outcome.complaint.forM fun line => IO.eprintln line
    return outcome.exitCode.toUInt32

end LC3.CommandLine

open LC3 CommandLine in
/-- **The program.** -/
def main (arguments : List String) : IO UInt32 := do
  match Arguments.understand arguments with
  | .error .usage =>
    IO.println usage
    return 0
  | .error .version =>
    IO.println "lc3-vm 0.1.0"
    return 0
  | .error .misuse =>
    IO.eprintln usage
    return 2
  | .ok (name, a) =>
    match ← attempt (IO.FS.readBinFile name) with
    | .error e =>
      let failure := Program.loadFailure (.unreadable name e.text)
      failure.complaints.forM fun line => IO.eprintln line
      return failure.code.toUInt32
    | .ok bytes =>
      let filter := LogFilter.choose a.verbosity (← IO.getEnv "LC3_LOG")
      execute a filter bytes.toList
