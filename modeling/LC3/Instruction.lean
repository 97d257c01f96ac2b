import LC3.Registers

/-!
# Instructions

An instruction is a word whose top four bits select one of sixteen
operations; the rest is cut into fields in a way that depends on the
operation. Decoding cuts every field that some operation uses, so that an
`Instruction` can be read without asking for bits again:

    15  12 11   9 8   6   5   4  3 2   0
    [code][  dr ][ sr1 ][i][  imm5     ]
                 [base ][     off6     ]
                 [         off9        ]
          [1][            off11        ]
                   [      vector       ]

Offsets and immediates are widened by their sign here. Each cut is checked,
and so is each register number; `decode` is refused if one of them does not
name a field.
-/

namespace LC3

/-- **The sixteen operations**, in the order of their codes. -/
inductive Opcode where
  | br
  | add
  | ld
  | st
  | jsr
  | and
  | ldr
  | str
  | rti
  | not
  | ldi
  | sti
  | jmp
  | res
  | lea
  | trap
  deriving DecidableEq, Repr

namespace Opcode

/-- The operation of a code, if there is one. -/
def ofCode? (code : UInt8) : Option Opcode :=
  match code.toNat with
  | 0 => some br
  | 1 => some add
  | 2 => some ld
  | 3 => some st
  | 4 => some jsr
  | 5 => some and
  | 6 => some ldr
  | 7 => some str
  | 8 => some rti
  | 9 => some not
  | 10 => some ldi
  | 11 => some sti
  | 12 => some jmp
  | 13 => some res
  | 14 => some lea
  | 15 => some trap
  | _ => none

/-- The name an operation is shown by. -/
def name : Opcode → String
  | br => "Br"
  | add => "Add"
  | ld => "Ld"
  | st => "St"
  | jsr => "Jsr"
  | and => "And"
  | ldr => "Ldr"
  | str => "Str"
  | rti => "Rti"
  | not => "Not"
  | ldi => "Ldi"
  | sti => "Sti"
  | jmp => "Jmp"
  | res => "Res"
  | lea => "Lea"
  | trap => "Trap"

end Opcode

/-- **A word cut into the fields of an instruction.** -/
structure Instruction where
  /-- The four bits that select the operation. -/
  code : UInt8
  /-- The operation they select. -/
  opcode : Opcode
  /-- The register that receives the result, or the one that is stored. -/
  dr : Fin 8
  /-- The first operand, or the base of an address. -/
  sr1 : Fin 8
  /-- The second operand. -/
  sr2 : Fin 8
  /-- Whether the second operand is the immediate. -/
  usesImmediate : Bool
  /-- The immediate. -/
  imm5 : Word
  /-- The offset from a base register. -/
  off6 : Word
  /-- The offset from the program counter. -/
  off9 : Word
  /-- The offset of a subroutine from the program counter. -/
  off11 : Word
  /-- Whether a subroutine is named by its offset. -/
  usesOffset : Bool
  /-- The signs on which a branch is taken, one bit for each. -/
  signs : Word
  /-- The number of a trap. -/
  vector : UInt8
  deriving DecidableEq

namespace Instruction

/-- **Cuts a word into the fields of an instruction.** -/
def decode (w : Word) : Except Violation Instruction := do
  let code ← w.field8 12 15
  let dr ← w.field8 9 11 >>= Registers.named .registerWrite
  let sr1 ← w.field8 6 8 >>= Registers.named .registerRead
  let sr2 ← w.field8 0 2 >>= Registers.named .registerRead
  let usesImmediate ← w.bit 5
  let imm5 ← w.field 0 4 >>= (Word.signExtend · 5)
  let off6 ← w.offset 6
  let off9 ← w.offset 9
  let off11 ← w.offset 11
  let usesOffset ← w.bit 11
  let signs ← w.field 9 11
  let vector ← w.field8 0 7
  return {
    code, opcode := (Opcode.ofCode? code).getD .res, dr, sr1, sr2, usesImmediate, imm5,
    off6, off9, off11, usesOffset, signs, vector }

end Instruction

end LC3
