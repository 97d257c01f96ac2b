import LC3.Instruction
import LC3.Proofs.Field

/-!
# Every word is an instruction

Decoding cuts thirteen fields out of a word, and each cut is checked. None of
the checks ever fails: the ends of the fields are in order and inside the
word, and three bits name one of eight registers. So decoding is a total
function, `ofWord`, whose fields are the quotients and remainders of
`LC3.Proofs.Field`, and no program can bring about a violation by the words
it executes.
-/

namespace LC3

/-- The register that three bits of a word name. -/
def Word.register (w : Word) (low : Nat) : Fin 8 := ⟨w.bits low 3, w.bits_lt low 3⟩

/-- A number below eight names a register, and nothing is refused. -/
theorem Registers.named_ofNat (refusal : Violation) {n : Nat} (h : n < 8) :
    named refusal (UInt8.ofNat n) = .ok ⟨n, h⟩ := by
  have hn : (UInt8.ofNat n).toNat = n := UInt8.toNat_ofNat_of_lt (by
    show n < 256
    omega)
  unfold named
  rw [dif_pos (hn.symm ▸ h)]
  exact congrArg Except.ok (Fin.ext hn)

namespace Instruction

/-- **The instruction in a word**, its fields given as numbers. -/
def ofWord (w : Word) : Instruction where
  code := UInt8.ofNat (w.bits 12 4)
  opcode := (Opcode.ofCode? (UInt8.ofNat (w.bits 12 4))).getD .res
  dr := w.register 9
  sr1 := w.register 6
  sr2 := w.register 0
  usesImmediate := w.toNat.testBit 5
  imm5 := .wrap (w.signedBits 5)
  off6 := .wrap (w.signedBits 6)
  off9 := .wrap (w.signedBits 9)
  off11 := .wrap (w.signedBits 11)
  usesOffset := w.toNat.testBit 11
  signs := .wrap (w.bits 9 3)
  vector := UInt8.ofNat (w.bits 0 8)

/-- What was not refused is passed on. -/
theorem ok_bind {ε α β : Type} (a : α) (f : α → Except ε β) : (Except.ok a >>= f) = f a := rfl

/-- A register number is a field of three bits, which is never refused. -/
theorem field8_bind_named (w : Word) (refusal : Violation) (low high : UInt8)
    (h : low ≤ high) (h15 : high ≤ 15) (h3 : high.toNat = low.toNat + 2) :
    (w.field8 low high >>= Registers.named refusal) = .ok (w.register low.toNat) := by
  rw [Word.field8_eq_ok w h h15 (by omega), ok_bind,
    show high.toNat - low.toNat + 1 = 3 by omega,
    Registers.named_ofNat refusal (w.bits_lt low.toNat 3)]
  rfl

/-- The immediate is an offset of five bits under another name. -/
theorem field_bind_signExtend (w : Word) :
    (w.field 0 4 >>= (Word.signExtend · 5)) = .ok (.wrap (w.signedBits 5)) := by
  rw [Word.field_eq_ok w (by decide) (by decide), ok_bind,
    Word.signExtend_eq_ok _ (by decide) (by decide)]
  exact congrArg (Except.ok ∘ Word.wrap) (w.signedBits_wrap_bits 5 (by decide))

/-- **Decoding never refuses a word.** -/
theorem decode_eq_ok (w : Word) : decode w = .ok (ofWord w) := by
  have hcode : w.field8 12 15 = .ok (UInt8.ofNat (w.bits 12 4)) :=
    w.field8_eq_ok (by decide) (by decide) (by decide)
  have hdr := field8_bind_named w .registerWrite 9 11 (by decide) (by decide) rfl
  have hsr1 := field8_bind_named w .registerRead 6 8 (by decide) (by decide) rfl
  have hsr2 := field8_bind_named w .registerRead 0 2 (by decide) (by decide) rfl
  have hsigns : w.field 9 11 = .ok (.wrap (w.bits 9 3)) :=
    w.field_eq_ok (by decide) (by decide)
  have hvector : w.field8 0 7 = .ok (UInt8.ofNat (w.bits 0 8)) :=
    w.field8_eq_ok (by decide) (by decide) (by decide)
  unfold decode
  rw [hcode, ok_bind, hdr, ok_bind, hsr1, ok_bind, hsr2, ok_bind,
    w.bit_eq_ok 5 (by decide), ok_bind, field_bind_signExtend, ok_bind,
    w.offset_eq_ok 6 (by decide) (by decide), ok_bind,
    w.offset_eq_ok 9 (by decide) (by decide), ok_bind,
    w.offset_eq_ok 11 (by decide) (by decide), ok_bind,
    w.bit_eq_ok 11 (by decide), ok_bind, hsigns, ok_bind, hvector, ok_bind]
  rfl

end Instruction

end LC3
