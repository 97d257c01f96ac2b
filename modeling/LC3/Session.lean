import LC3.System

/-!
# Sessions

Whoever embeds the machine loads programs into it, changes settings, writes
registers and memory, types on the keyboard, and lets it step or run. Each of
these is a **command**; a session is any sequence of them on one system. The
response to a command is all that is told of it, apart from the exchanges
with the devices.
-/

namespace LC3

/-- **What can be asked of a system.** -/
inductive Command where
  /-- Load an image. -/
  | loadImage (image : List UInt8)
  /-- Load a program, its origin first. -/
  | load (program : List Word)
  /-- Change the settings. -/
  | configure (config : Config)
  /-- Reset the registers and the step count. -/
  | reset
  /-- Set the flag. -/
  | setFlag (flag : Flag)
  /-- Set the general register of a number; above seven there is none. -/
  | setRegister (number : UInt8) (value : Word)
  /-- Set the program counter. -/
  | setCounter (value : Word)
  /-- Store a word. -/
  | write (a value : Word)
  /-- Read a word, with the effects of the keyboard registers. -/
  | read (a : Word)
  /-- Type on the keyboard. -/
  | type (characters : List UInt8)
  /-- Execute one instruction. -/
  | step
  /-- Run until the machine does not go on. -/
  | run
  deriving DecidableEq

/-- **What a command is answered with.** -/
inductive Response where
  /-- Nothing is to be told. -/
  | done
  /-- Whether a program was loaded. -/
  | loaded (result : Except LoadError Unit)
  /-- The word that was read. -/
  | word (value : Word)
  /-- How the machine stopped, or that it did not. -/
  | stopped (outcome : Outcome)
  /-- The command asked for what there is not, and nothing was done. -/
  | refused (violation : Violation)

namespace Machine

/-- The machine with other registers. -/
def withRegisters (m : Machine) (f : Registers → Registers) : Machine :=
  match m with
  | ⟨⟨registers, memory⟩, config, steps, pollFailed⟩ =>
    ⟨⟨f registers, memory⟩, config, steps, pollFailed⟩

/-- Stores a word, as a program does. -/
def write (m : Machine) (a value : Word) : Dialogue Machine :=
  match m with
  | ⟨⟨registers, memory⟩, config, steps, pollFailed⟩ => do
    Dialogue.tell (.stored a value)
    return ⟨⟨registers, memory.write a value⟩, config, steps, pollFailed⟩

/-- Reads a word, as a program does. -/
def read (m : Machine) (a : Word) : Dialogue (Word × Machine) :=
  match m with
  | ⟨core, config, steps, pollFailed⟩ => do
    let (value, core) ← core.read a
    return (value, ⟨core, config, steps, pollFailed⟩)

end Machine

namespace System

variable {κ ω σ : Type} [Keyboard κ] [Console ω]

/-- Lets the machine act under an observer, and responds with the value. -/
def respond {α : Type} (observe : σ → Exchange → σ) (seen : σ) (s : System κ ω)
    (response : α → Response) (dialogue : Machine → Dialogue (α × Machine)) :
    Response × System κ ω × σ :=
  match s.act dialogue with
  | (value, s, exchanges) => (response value, s, exchanges.foldl observe seen)

/-- Changes the machine without a word to the devices. -/
def adjust (s : System κ ω) (f : Machine → Machine) : System κ ω :=
  match s with
  | ⟨machine, keyboard, console⟩ => ⟨f machine, keyboard, console⟩

/-- **Obeys a command** under an observer, who is told every exchange in
order. -/
def obeyWith (observe : σ → Exchange → σ) (seen : σ) (s : System κ ω) :
    Command → Response × System κ ω × σ
  | .loadImage image => s.respond observe seen .loaded (Machine.loadImage · image)
  | .load program => s.respond observe seen .loaded (Machine.load · program)
  | .configure config => (.done, s.adjust fun m => { m with config := config }, seen)
  | .reset => s.respond observe seen (fun () => .done) fun m => return ((), ← m.reset)
  | .setFlag flag =>
    (.done, s.adjust (·.withRegisters fun r => { r with flag := flag }), seen)
  | .setRegister number value =>
    match s.machine.core.registers.write number value with
    | .ok registers => (.done, s.adjust (·.withRegisters fun _ => registers), seen)
    | .error violation => (.refused violation, s, seen)
  | .setCounter value => (.done, s.adjust (·.withRegisters (·.jump value)), seen)
  | .write a value =>
    s.respond observe seen (fun () => .done) fun m => return ((), ← m.write a value)
  | .read a => s.respond observe seen .word (Machine.read · a)
  | .type characters =>
    match s with
    | ⟨machine, keyboard, console⟩ =>
      (.done, ⟨machine, Keyboard.type keyboard characters, console⟩, seen)
  | .step => s.respond observe seen .stopped Machine.step
  | .run =>
    match s.runWith observe seen with
    | (outcome, s, seen) => (.stopped outcome, s, seen)

/-- **Obeys a command**, and remembers every exchange. -/
def obey (s : System κ ω) (command : Command) : Response × System κ ω × Array Exchange :=
  s.obeyWith Array.push #[] command

/-- **Obeys commands** one after another: the responses, the system after
them, and all that was exchanged. -/
def obeyAll (s : System κ ω) : List Command → List Response × System κ ω × List Exchange
  | [] => ([], s, [])
  | command :: rest =>
    let (response, s, exchanges) := s.obey command
    let (responses, s, later) := s.obeyAll rest
    (response :: responses, s, exchanges.toList ++ later)

/-- **What an observer sees is what is remembered**, told in order. -/
theorem obeyWith_eq_foldl (observe : σ → Exchange → σ) (seen : σ) (s : System κ ω)
    (command : Command) :
    s.obeyWith observe seen command
      = ((s.obey command).1, (s.obey command).2.1,
        (s.obey command).2.2.foldl observe seen) := by
  cases command with
  | run => simp only [obeyWith, obey, runWith_eq_foldl observe]; rfl
  | configure | setFlag | setCounter | type => simp [obeyWith, obey]
  | setRegister number value =>
    simp only [obeyWith, obey]
    cases s.machine.core.registers.write number value <;> rfl
  | loadImage | load | reset | write | read | step => simp [obeyWith, obey, respond]

end System

end LC3
