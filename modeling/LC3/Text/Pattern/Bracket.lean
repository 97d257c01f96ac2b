import LC3.Text.Pattern.Atom

/-!
# Brackets of patterns

A bracket lists the characters that can stand in its place: by themselves, as
ranges, by the name of a class between colons, or in brackets of their own.
A caret at the beginning turns it into its opposite. Operators of two equal
characters stand between lists for what is in both, for what is in the first
only, and for what is in one of them.

Where letters of either size are meant, a bracket of characters must be
empty, since those letters are not known. A bracket of bytes has no opposite,
since that would contain parts of longer characters.
-/

namespace LC3.Text.Pattern

/-- **What has been read of a bracket.** -/
structure Members where
  /-- Whether nothing but dashes has been read. -/
  opening : Bool := true
  /-- How many members there are since the last operator. -/
  count : Nat := 0
  /-- How deep the deepest of these is. -/
  deepest : Nat := 0
  /-- How deep what stands before the last operator is, if there is one. -/
  before : Option Nat := none
  /-- Whether there are no members at all. -/
  isEmpty : Bool := true
  deriving DecidableEq, Repr

namespace Members

/-- How deep the members are, all together. -/
def depth (m : Members) : Nat :=
  let list := if m.count ≤ 1 then m.deepest else m.deepest + 1
  match m.before with
  | some before => max before list + 1
  | none => list

/-- Adds a member of a given depth, which may itself be empty. -/
def add (m : Members) (depth : Nat) (isEmpty : Bool) : Members :=
  { m with
    opening := false
    count := m.count + 1
    deepest := max m.deepest depth
    isEmpty := m.isEmpty && isEmpty }

/-- Adds a character. -/
def addPlain (m : Members) : Members := m.add 0 false

/-- Adds an operator. -/
def operate (m : Members) : Members :=
  { opening := false, before := some m.depth, isEmpty := m.isEmpty }

end Members

/-- The names of classes. -/
def classNames : List String :=
  ["alnum", "alpha", "ascii", "blank", "cntrl", "digit", "graph", "lower", "print", "punct",
   "space", "upper", "word", "xdigit"]

/-- Reads a class by its name, after the bracket before the colon, and whether
it is negated. -/
def readClass? : List Char → Option (Bool × List Char)
  | ':' :: text =>
    let (negated, text) := match text with
      | '^' :: text => (true, text)
      | text => (false, text)
    match text.span (· != ':') with
    | (name, ':' :: ']' :: rest) =>
      if classNames.contains (String.ofList name) then some (negated, rest) else none
    | _ => none
  | _ => none

/-- Whether a class can be a member of a bracket. -/
def Mode.admitsClass (mode : Mode) (negated : Bool) : Bool :=
  if mode.characters then !mode.eitherSize else !negated

/-- Whether a bracket is admitted. -/
def Mode.admitsBracket (mode : Mode) (negated isEmpty : Bool) : Bool :=
  if mode.characters then !mode.eitherSize || isEmpty else !negated

/-- The character that comes next, blanks and one number sign apart where the
mode leaves them out. -/
def peek? (mode : Mode) (text : List Char) : Option Char :=
  if mode.spaced then
    let text := text.dropWhile isBlank
    match text with
    | '#' :: rest => (rest.dropWhile isBlank).head?
    | text => text.head?
  else text.head?

/-- Reads an atom of a bracket. -/
def readPlain? (mode : Mode) : List Char → Option (Atom × List Char)
  | [] => none
  | '\\' :: rest => readEscape? mode rest
  | c :: rest => some (.literal c false, rest)

/-- Reads an atom or a range. A dash before the closing bracket or before
another dash stands for itself. -/
def readMember? (mode : Mode) (text : List Char) : Option (List Char) := do
  let (first, rest) ← readPlain? mode text
  let single := if first.isMember mode then some rest else none
  match mode.skip rest with
  | '-' :: rest =>
    match peek? mode rest with
    | some ']' | some '-' => single
    | _ =>
      let (last, rest) ← readPlain? mode (mode.skip rest)
      if first.isMember mode && last.isMember mode && (← first.char?) ≤ (← last.char?) then
        some rest
      else none
  | _ => single

/-- Reads the beginning of a bracket after its opening: whether it is
negated. -/
def readCaret (mode : Mode) (text : List Char) : Bool × List Char :=
  match mode.skip text with
  | '^' :: rest => (true, rest)
  | text => (false, text)

/-- **Reads a bracket** up to its end. Every member takes a character at
least, so that the length of the text is enough fuel. -/
def readMembers? (mode : Mode) : Nat → Members → List Char → Option (Members × List Char)
  | 0, _, _ => none
  | fuel + 1, m, text =>
    let operator := fun (rest : List Char) => readMembers? mode fuel m.operate rest
    match mode.skip text with
    | [] => none
    | ']' :: rest =>
      if m.opening && m.count = 0 then readMembers? mode fuel m.addPlain rest else some (m, rest)
    | '[' :: rest =>
      match readClass? rest with
      | some (negated, rest) =>
        if mode.admitsClass negated then readMembers? mode fuel m.addPlain rest else none
      | none => do
        let (negated, rest) := readCaret mode rest
        let (inner, rest) ← readMembers? mode fuel {} rest
        if mode.admitsBracket negated inner.isEmpty then
          readMembers? mode fuel (m.add (inner.depth + 1) (inner.isEmpty && !negated)) rest
        else none
    | text@('-' :: rest) =>
      if m.opening then readMembers? mode fuel { m.addPlain with opening := true } rest
      else
        match rest with
        | '-' :: rest => operator rest
        | _ => do readMembers? mode fuel m.addPlain (← readMember? mode text)
    | '&' :: '&' :: rest | '~' :: '~' :: rest => operator rest
    | text => do readMembers? mode fuel m.addPlain (← readMember? mode text)

/-- Reads a bracket after its opening, and how deep it is. -/
def readBracket? (mode : Mode) (text : List Char) : Option (Nat × List Char) := do
  let (negated, rest) := readCaret mode text
  let (members, rest) ← readMembers? mode (rest.length + 1) {} rest
  if mode.admitsBracket negated members.isEmpty then some (members.depth + 1, rest) else none

end LC3.Text.Pattern
