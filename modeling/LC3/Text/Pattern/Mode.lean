import LC3.Text.Blank

/-!
# How a pattern is read

The mode of a pattern can change within it. Flags change it: letters behind a
question mark at the beginning of a group, those after a dash being taken
back.
-/

namespace LC3.Text.Pattern

/-- **How a pattern is read** from some place on. -/
structure Mode where
  /-- Whether letters of either size are meant. -/
  eitherSize : Bool := false
  /-- Whether the pattern speaks of characters, and not of bytes. -/
  characters : Bool := true
  /-- Whether blanks and remarks are left out. -/
  spaced : Bool := false
  deriving DecidableEq, Repr

/-- Leaves out blanks and remarks. A remark goes from a number sign to the end
of the line. -/
def skipBlanks (inRemark : Bool) : List Char → List Char
  | [] => []
  | c :: rest =>
    if inRemark then skipBlanks (c != '\n') rest
    else if isBlank c then skipBlanks false rest
    else if c == '#' then skipBlanks true rest
    else c :: rest

namespace Mode

/-- Leaves out what the mode leaves out. -/
def skip (mode : Mode) (text : List Char) : List Char :=
  if mode.spaced then skipBlanks false text else text

/-- All flags. The ones for lines, for the dot and for greed change what a
pattern means, and not whether it has a meaning. -/
def flags : List Char := ['i', 'm', 's', 'U', 'u', 'R', 'x']

/-- Sets or takes back a flag. -/
def set (on : Bool) (mode : Mode) : Char → Mode
  | 'i' => { mode with eitherSize := on }
  | 'u' => { mode with characters := on }
  | 'x' => { mode with spaced := on }
  | _ => mode

/-- **Changes a mode by flags.** No flag is given twice, and a dash takes back
at least one. -/
def change? (mode : Mode) (text : List Char) : Option Mode :=
  let (on, rest) := text.span (· != '-')
  let off := rest.drop 1
  let given := on ++ off
  if (!rest.isEmpty && off.isEmpty) || !given.all flags.contains || !given.Nodup then none
  else some (off.foldl (set false) (on.foldl (set true) mode))

end Mode

end LC3.Text.Pattern
