import LC3.Text.Range

/-!
# Blanks

A blank sets words apart and shows nothing itself: the space, the tabulator,
the ends of lines, and the spaces of other widths. The ranges are those of
the property of white space in version 17 of the Unicode character database.
-/

namespace LC3.Text

/-- **Blanks**, as ranges with both ends included. -/
def blankRanges : List (Nat × Nat) :=
  [(0x9, 0xD), (0x20, 0x20), (0x85, 0x85), (0xA0, 0xA0), (0x1680, 0x1680), (0x2000, 0x200A),
   (0x2028, 0x2029), (0x202F, 0x202F), (0x205F, 0x205F), (0x3000, 0x3000)]

/-- Whether a character is a blank. -/
def isBlank (c : Char) : Bool := within blankRanges c.toNat

end LC3.Text
