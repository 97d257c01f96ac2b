import LC3.Text.Number

/-!
# Arguments of the program

The program takes the name of one image, and options in any place: how much
to log, whether to announce that the program halted, and how many
instructions to execute at most. Arguments are understood from left to
right. The first that asks to be shown the usage or the version decides, and
so does the first that makes no sense; whatever follows is not looked at.

An option of one letter can stand together with others behind one dash. A
value follows its option as the next argument, which then must not look like
an option, or behind an equals sign. Behind a lone double dash every argument
is the name of an image. A dash alone is a name too.
-/

namespace LC3

/-- **What the program is asked to do.** -/
structure Arguments where
  /-- The name of the image. -/
  image : Option String := none
  /-- How often more detail was asked for. -/
  verbosity : Nat := 0
  /-- Whether the notice of a halt is left out. -/
  withoutNotice : Bool := false
  /-- The number of instructions to stop after. -/
  maxSteps : Option UInt64 := none
  deriving DecidableEq, Repr

/-- **Why the program does nothing.** -/
inductive Dismissal where
  /-- The usage was asked for. -/
  | usage
  /-- The version was asked for. -/
  | version
  /-- The arguments make no sense. -/
  | misuse
  deriving DecidableEq, Repr

namespace Arguments

/-- Understands the name of an image. There is one, and it is not empty. -/
def takeImage (a : Arguments) (name : String) : Except Dismissal Arguments :=
  if a.image.isSome || name.isEmpty then .error .misuse
  else .ok { a with image := some name }

/-- Understands options of one letter. -/
def takeLetters (a : Arguments) : List Char → Except Dismissal Arguments
  | [] => .ok a
  | 'v' :: rest => takeLetters { a with verbosity := a.verbosity + 1 } rest
  | 'h' :: _ => .error .usage
  | 'V' :: _ => .error .version
  | _ => .error .misuse

/-- Understands the value of the step limit. It is given once at most. -/
def takeLimit (a : Arguments) (value : List Char) : Except Dismissal Arguments :=
  match a.maxSteps, Text.count? value with
  | none, some limit => .ok { a with maxSteps := some limit }
  | _, _ => .error .misuse

/-- Understands an option that takes no value from the next argument. -/
def takeOption (a : Arguments) (name : List Char) : Except Dismissal Arguments :=
  match name.span (· != '=') with
  | (word, []) =>
    match String.ofList word with
    | "help" => .error .usage
    | "version" => .error .version
    | "verbose" => .ok { a with verbosity := a.verbosity + 1 }
    | "no-halt-notice" =>
      if a.withoutNotice then .error .misuse else .ok { a with withoutNotice := true }
    | _ => .error .misuse
  | (word, _ :: value) =>
    if String.ofList word = "max-steps" then a.takeLimit value else .error .misuse

/-- Understands arguments that are all names of images. -/
def takeImages (a : Arguments) : List String → Except Dismissal Arguments
  | [] => .ok a
  | name :: rest => do takeImages (← a.takeImage name) rest

/-- Understands arguments, after those that were understood before. -/
def takeAll (a : Arguments) : List String → Except Dismissal Arguments
  | [] => .ok a
  | "--" :: rest => a.takeImages rest
  | "--max-steps" :: rest =>
    match rest with
    | [] => .error .misuse
    | value :: rest =>
      match value.toList with
      | '-' :: _ => .error .misuse
      | value => do takeAll (← a.takeLimit value) rest
  | argument :: rest =>
    match argument.toList with
    | '-' :: '-' :: name => do takeAll (← a.takeOption name) rest
    | '-' :: letter :: letters => do takeAll (← a.takeLetters (letter :: letters)) rest
    | _ => do takeAll (← a.takeImage argument) rest

/-- **Understands the arguments:** the name of the image, and the options. -/
def understand (arguments : List String) : Except Dismissal (String × Arguments) := do
  let a ← takeAll {} arguments
  match a.image with
  | some name => return (name, a)
  | none => throw .misuse

end Arguments

end LC3
