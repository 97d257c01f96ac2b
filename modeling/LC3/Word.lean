import LC3.Violation

/-!
# Words and their fields

Everything the machine stores or computes is a **word** of 16 bits, read as
an unsigned number or in two's complement as the operation demands. This
module cuts words into fields and widens a field to a whole word by its sign.

Bits are numbered from zero at the low end, and a field is named by its two
ends, both included: the operation code of an instruction is the field 12 to
15. Every cut checks its ends first and is refused with a `Violation` if they
do not name a field.
-/

namespace LC3

/-- Sixteen bits. Sums and differences wrap around. -/
abbrev Word := UInt16

namespace Word

/-- A word with ones in its `width` lowest bits, all ones from width 16 on. -/
def mask (width : UInt8) : Word :=
  if width ≥ 16 then 0xFFFF else (1 <<< width.toUInt16) - 1

/-- **The field from `low` to `high`**, both included, moved down to bit zero.
The direction is checked before the index. -/
def field (w : Word) (low high : UInt8) : Except Violation Word :=
  if high < low then .error (.reversedField low high)
  else if high > 15 then .error (.bitIndex high)
  else .ok ((w >>> low.toUInt16) &&& mask (high - low + 1))

/-- A field of at most eight bits, as a byte. The width is found by
subtracting the ends as bytes, so ends in the wrong order leave the range of
a byte before anything else is checked. -/
def field8 (w : Word) (low high : UInt8) : Except Violation UInt8 :=
  if high < low then .error .arithmetic
  else if high - low ≥ 8 then .error (.wideField low high)
  else (w.field low high).map UInt16.toUInt8

/-- One bit of a word. -/
def bit (w : Word) (index : UInt8) : Except Violation Bool :=
  (w.field index index).map (· != 0)

/-- **Sign extension.** The low `width` bits of `w` as a number in two's
complement, written with sixteen bits. Bits above the field are ignored, and
from width 16 on the word is its own extension. -/
def signExtend (w : Word) (width : UInt8) : Except Violation Word :=
  if width = 0 then .error .emptyField
  else if width ≥ 16 then .ok w
  else
    let kept := w &&& mask width
    if kept >>> (width - 1).toUInt16 = 1 then .ok (kept ||| (0xFFFF <<< width.toUInt16))
    else .ok kept

/-- **The signed offset in the low `width` bits.** Added to an address with
wrap-around it moves the address up or down. -/
def offset (w : Word) (width : UInt8) : Except Violation Word :=
  if width = 0 then .error .arithmetic
  else do
    let bits ← w.field 0 (width - 1)
    bits.signExtend width

/-- A word read in two's complement. -/
def signed (w : Word) : Int := w.toInt16.toInt

/-- The low byte. -/
def lowByte (w : Word) : UInt8 := w.toUInt8

/-- The high byte. -/
def highByte (w : Word) : UInt8 := (w >>> 8).toUInt8

/-- The word whose high and low bytes are given. -/
def ofBytes (high low : UInt8) : Word := (high.toUInt16 <<< 8) ||| low.toUInt16

end Word

end LC3
