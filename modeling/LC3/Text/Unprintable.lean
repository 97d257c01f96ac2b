import LC3.Text.Mark
import LC3.Text.Range
import LC3.Text.Unassigned

/-!
# Characters without a face of their own

Some code points leave no mark of their own when they are shown: control and
format characters, separators, code points for private use or without a
character, characters that are made to be ignored, and marks that join the
character before them. The ranges follow the general categories and
properties of version 17 of the Unicode character database. The space is the
one separator that counts as a character to be shown.
-/

namespace LC3.Text

/-- **Control and format characters, separators and private use**, as ranges
with both ends included. -/
def formatRanges : List (Nat × Nat) :=
  [(0x0, 0x20), (0x7F, 0xA0), (0xAD, 0xAD), (0x600, 0x605), (0x61C, 0x61C), (0x6DD, 0x6DD),
   (0x70F, 0x70F), (0x890, 0x891), (0x8E2, 0x8E2), (0x1680, 0x1680), (0x180E, 0x180E),
   (0x2000, 0x200F), (0x2028, 0x202F), (0x205F, 0x2064), (0x2066, 0x206F),
   (0x3000, 0x3000), (0xE000, 0xF8FF), (0xFEFF, 0xFEFF), (0xFFF9, 0xFFFB),
   (0x110BD, 0x110BD), (0x110CD, 0x110CD), (0x13430, 0x1343F), (0x1BCA0, 0x1BCA3),
   (0x1D173, 0x1D17A), (0xE0001, 0xE0001), (0xE0020, 0xE007F), (0xF0000, 0xFFFFD),
   (0x100000, 0x10FFFD)]

/-- **Code points to be ignored where they are not supported**, the fillers
and selectors among them, as ranges with both ends included. -/
def ignorableRanges : List (Nat × Nat) :=
  [(0xAD, 0xAD), (0x34F, 0x34F), (0x61C, 0x61C), (0x115F, 0x1160), (0x17B4, 0x17B5),
   (0x180B, 0x180F), (0x200B, 0x200F), (0x202A, 0x202E), (0x2060, 0x206F),
   (0x3164, 0x3164), (0xFE00, 0xFE0F), (0xFEFF, 0xFEFF), (0xFFA0, 0xFFA0),
   (0xFFF0, 0xFFF8), (0x1BCA0, 0x1BCA3), (0x1D173, 0x1D17A), (0xE0000, 0xE0FFF)]

/-- Whether a character has no face of its own. -/
def isUnprintable (c : Char) : Bool :=
  c != ' ' && (within formatRanges c.toNat || within ignorableRanges c.toNat
    || within markRanges c.toNat || within unassignedRanges c.toNat)

end LC3.Text
