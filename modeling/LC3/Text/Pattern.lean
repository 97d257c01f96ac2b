import LC3.Text.Alphanumeric
import LC3.Text.Pattern.Bracket

/-!
# Patterns

A **pattern** describes texts: by the characters in them, by brackets for one
of several characters, by bars between alternatives, by marks for repetition
behind what is repeated, and by groups in parentheses. Here a text is only
asked whether it is a pattern at all; none is ever applied.

Patterns stand in braces and so never contain a closing one. Everything else
that would take braces, such as a count of repetitions, is therefore refused,
and so are groups that look around and references to what a group has found.
-/

namespace LC3.Text.Pattern

/-- **What has been read of an alternative.** -/
structure Sequence where
  /-- How many things it consists of. -/
  count : Nat := 0
  /-- How deep the last of them is, if it can be repeated. -/
  last : Option Nat := none
  /-- How deep the deepest of those before the last is. -/
  deepest : Nat := 0
  deriving DecidableEq, Repr

namespace Sequence

/-- How deep a sequence is. -/
def depth (s : Sequence) : Nat :=
  let deepest := max s.deepest (s.last.getD 0)
  if s.count ≤ 1 then deepest else deepest + 1

/-- Adds something of a depth, or something that cannot be repeated. -/
def add (s : Sequence) (depth : Option Nat) : Sequence :=
  ⟨s.count + 1, depth, max s.deepest (s.last.getD 0)⟩

end Sequence

/-- **What has been read of a group.** -/
structure Group where
  /-- How deep the deepest alternative before the last bar is, if there is a
  bar. -/
  before : Option Nat := none
  /-- The alternative that is being read. -/
  current : Sequence := {}
  deriving DecidableEq, Repr

namespace Group

/-- How deep what a group contains is. -/
def depth (g : Group) : Nat :=
  match g.before with
  | some before => max before g.current.depth + 1
  | none => g.current.depth

/-- Begins another alternative. -/
def bar (g : Group) : Group := { before := some (max (g.before.getD 0) g.current.depth) }

/-- Adds something to the current alternative. -/
def add (g : Group) (depth : Option Nat) : Group := { g with current := g.current.add depth }

end Group

/-- **How far a pattern has been read.** -/
structure Progress where
  /-- How it is read on. -/
  mode : Mode := {}
  /-- The innermost open group, or the pattern itself. -/
  group : Group := {}
  /-- The groups around it, with the modes to which they go back. -/
  around : List (Mode × Group) := []
  /-- The names of groups. -/
  names : List (List Char) := []
  deriving DecidableEq, Repr

namespace Progress

/-- Adds something to the innermost group. -/
def add (p : Progress) (depth : Option Nat) : Progress := { p with group := p.group.add depth }

/-- Opens a group that is read in a mode. -/
def openIn (p : Progress) (mode : Mode) : Progress :=
  { p with mode := mode, group := {}, around := (p.mode, p.group) :: p.around }

/-- Closes the innermost group. -/
def close? (p : Progress) : Option Progress :=
  match p.around with
  | (mode, group) :: around =>
    some { p with mode := mode, group := group.add (some (p.group.depth + 1)), around := around }
  | [] => none

/-- Repeats the last thing that was added. -/
def repeat? (p : Progress) : Option Progress :=
  p.group.current.last.map fun depth =>
    { p with group.current.last := some (depth + 1) }

/-- Gives the group that is opened next a name, which must be a new one. -/
def name? (p : Progress) (name : List Char) : Option Progress :=
  match name with
  | [] => none
  | first :: rest =>
    let canFollow := fun (c : Char) => ['_', '.', '[', ']'].contains c || isAlphanumeric c
    if (first == '_' || isAlphabetic first) && rest.all canFollow && !p.names.contains name then
      some { p with names := name :: p.names }
    else none

/-- Reads a group after its parenthesis: opens it, or changes the mode of the
group around it. -/
def group? (p : Progress) (text : List Char) : Option (Progress × List Char) :=
  let named := fun (text : List Char) =>
    match text.span (· != '>') with
    | (name, _ :: rest) => (p.name? name).map fun p => (p.openIn p.mode, rest)
    | (_, []) => none
  match p.mode.skip text with
  | '?' :: 'P' :: '<' :: text | '?' :: '<' :: text => named text
  | '?' :: text =>
    match text.span fun c => c != ':' && c != ')' with
    | (flags, ':' :: rest) => (p.mode.change? flags).map fun mode => (p.openIn mode, rest)
    | ([], _) => none
    | (flags, _ :: rest) =>
      (p.mode.change? flags).map fun mode => ({ p.add none with mode := mode }, rest)
    | (_, []) => none
  | text => some (p.openIn p.mode, text)

/-- Reads one thing that begins with a character. -/
def next? (p : Progress) (first : Char) (rest : List Char) : Option (Progress × List Char) :=
  let atom := fun (a : Atom) (rest : List Char) =>
    if a.isAdmitted p.mode then some (p.add (some 0), rest) else none
  match first with
  | '(' => p.group? rest
  | ')' => p.close?.map fun p => (p, rest)
  | '|' => some ({ p with group := p.group.bar }, rest)
  | '[' => (readBracket? p.mode rest).map fun (depth, rest) => (p.add (some depth), rest)
  | '?' | '*' | '+' =>
    let rest := match rest with
      | '?' :: rest => rest
      | rest => rest
    p.repeat?.map fun p => (p, rest)
  | '\x7b' => none
  | '\\' => do
    let (a, rest) ← readEscape? p.mode rest
    atom a rest
  | '.' => if p.mode.characters then some (p.add (some 0), rest) else none
  | '^' | '$' => atom .edge rest
  | c => atom (.literal c false) rest

/-- Reads a text to its end. Every step takes a character at least, so that
the length of the text is enough fuel. -/
def read? : Nat → Progress → List Char → Option Progress
  | 0, p, _ => some p
  | fuel + 1, p, text =>
    match p.mode.skip text with
    | [] => some p
    | first :: rest => do
      let (p, rest) ← p.next? first rest
      read? fuel p rest

end Progress

/-- How deep a pattern can be. -/
def deepest : Nat := 250

end Pattern

open Pattern in
/-- **Whether a text without closing braces is a pattern.** -/
def isPattern (text : List Char) : Bool :=
  match Progress.read? (text.length + 1) {} text with
  | some p => p.around.isEmpty && p.group.depth ≤ deepest
  | none => false

end LC3.Text
