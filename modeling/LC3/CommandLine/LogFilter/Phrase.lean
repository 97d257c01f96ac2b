import LC3.CommandLine.LogFilter.Scope
import LC3.Text.Slice

/-!
# How a directive is written

A directive of a log filter consists of a head, of brackets, and of an equals
sign with a word for the detail. Each of them can be missing, though not the
first two at once.

Blanks belong to what they stand beside, and no name that is in use has any.
The head of an indented directive is therefore such a name, with the blanks,
and the directive cannot have a detail.
-/

namespace LC3.LogFilter

/-- **A directive as it is written**, before its words are understood. -/
structure Phrase where
  /-- What stands before brackets and the equals sign. -/
  head : List Char
  /-- What stands in brackets, if there are any. -/
  brackets : Option Brackets
  /-- What stands after the equals sign, if there is one. -/
  detail : Option (List Char)
  deriving DecidableEq, Repr

namespace Phrase

/-- Whether a phrase can begin with a character, brackets apart. -/
def canBegin (c : Char) : Bool :=
  c == '-' || c == ':' || c == '_' || Text.isAlphanumeric c

/-- Reads brackets after the first of them, and what follows. -/
def readBrackets? (head text : List Char) : Option Phrase :=
  match Brackets.read? text with
  | some (b, '=' :: word) => some ⟨head, some b, some word⟩
  | some (b, rest) => if rest.all Text.isBlank then some ⟨head, some b, none⟩ else none
  | none => none

/-- **Reads a phrase** that is not indented. -/
def read? : List Char → Option Phrase
  | [] => none
  | '[' :: rest => readBrackets? [] rest
  | first :: rest =>
    if !canBegin first then none
    else
      match (first :: rest).span fun c => c != '=' && c != '[' with
      | (head, '[' :: rest) => readBrackets? head rest
      | (head, _ :: word) => some ⟨head, none, some word⟩
      | (head, []) => some ⟨head, none, none⟩

/-- What the brackets restrict the directive to. -/
def scope? (p : Phrase) : Option Scope :=
  match p.brackets with
  | some b => b.scope?
  | none => some .everything

/-- **The phrase of an indented directive.** All of it is the name of a part.
What is asked of a fact is found where it would be without the blanks, among
what stands there with them. -/
def indent? (p : Phrase) (blanks : List Char) : Option Phrase :=
  let text := blanks ++ p.head
  match p.detail, p.brackets with
  | some _, _ => none
  | none, none => some { p with head := text }
  | none, some ⟨span, none⟩ => some ⟨text, some ⟨span, none⟩, none⟩
  | none, some ⟨span, some asked⟩ => do
    let text := text ++ '[' :: span ++ '\x7b' :: asked
    let found ← Text.slice? (Text.size p.head + Text.size span + 2) (Text.size asked) text
    some ⟨text, some ⟨span, some found⟩, none⟩

end Phrase

end LC3.LogFilter
