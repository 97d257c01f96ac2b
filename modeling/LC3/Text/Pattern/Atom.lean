import LC3.Text.Pattern.Mode

/-!
# Atoms of patterns

An atom is what a backslash introduces, or a single character. Patterns of
characters know nothing of a character but its number: they cannot ask for
digits, blanks, words or other properties, and cannot tell letters of two
sizes. Patterns of bytes can, for the characters of a byte, but must not be
satisfied by a part of a longer character.
-/

namespace LC3.Text.Pattern

/-- **An atom of a pattern.** -/
inductive Atom where
  /-- A character, by itself or by the number of a byte. -/
  | literal (c : Char) (byByte : Bool)
  /-- Digits, blanks or the characters of words, or what is none of them. -/
  | kind (negated : Bool)
  /-- A border of a word, or a place that is none. -/
  | border
  /-- The beginning or the end of the text. -/
  | edge
  deriving DecidableEq, Repr

namespace Atom

/-- The character that an atom stands for. -/
def char? : Atom → Option Char
  | literal c _ => some c
  | _ => none

/-- Whether an atom can stand for itself. -/
def isAdmitted (mode : Mode) : Atom → Bool
  | literal c byByte =>
    if mode.characters then !mode.eitherSize else !byByte || c.toNat < 0x80
  | kind negated => !mode.characters && !negated
  | border => !mode.characters
  | edge => true

/-- Whether an atom can be a member of a bracket. -/
def isMember (mode : Mode) : Atom → Bool
  | literal c _ => mode.characters || c.toNat < 0x80
  | kind negated => !mode.characters && !negated
  | border | edge => false

end Atom

/-- The value of a hexadecimal digit. -/
def hexDigit? (c : Char) : Option Nat :=
  if '0' ≤ c ∧ c ≤ '9' then some (c.toNat - '0'.toNat)
  else if 'a' ≤ c ∧ c ≤ 'f' then some (c.toNat - 'a'.toNat + 10)
  else if 'A' ≤ c ∧ c ≤ 'F' then some (c.toNat - 'A'.toNat + 10)
  else none

/-- Reads hexadecimal digits of a given count, after a number so far. -/
def readHex? (mode : Mode) : Nat → Nat → List Char → Option (Nat × List Char)
  | 0, n, text => some (n, text)
  | count + 1, n, text =>
    match mode.skip text with
    | [] => none
    | c :: rest => do readHex? mode count (n * 16 + (← hexDigit? c)) rest

/-- Reads a character by its number. -/
def readNumber? (mode : Mode) (count : Nat) (text : List Char) : Option (Char × List Char) := do
  let (n, rest) ← readHex? mode count 0 text
  if n < 0xD800 ∨ 0xDFFF < n ∧ n < 0x110000 then some (Char.ofNat n, rest) else none

/-- **Reads an atom after its backslash.** Punctuation, and any other
character of a byte that is no letter or digit, stands for itself. -/
def readEscape? (mode : Mode) : List Char → Option (Atom × List Char)
  | [] => none
  | c :: rest =>
    let number := fun (count : Nat) (byByte : Bool) =>
      (readNumber? mode count rest).map fun (c, rest) => (Atom.literal c byByte, rest)
    match c with
    | 'x' => number 2 true
    | 'u' => number 4 false
    | 'U' => number 8 false
    | 'd' | 's' | 'w' => some (.kind false, rest)
    | 'D' | 'S' | 'W' => some (.kind true, rest)
    | 'b' | 'B' | '<' | '>' => some (.border, rest)
    | 'A' | 'z' => some (.edge, rest)
    | 'a' => some (.literal '\x07' false, rest)
    | 'f' => some (.literal '\x0c' false, rest)
    | 'n' => some (.literal '\n' false, rest)
    | 'r' => some (.literal '\r' false, rest)
    | 't' => some (.literal '\t' false, rest)
    | 'v' => some (.literal '\x0b' false, rest)
    | c => if c.toNat < 0x80 && !c.isAlphanum then some (.literal c false, rest) else none

end LC3.Text.Pattern
