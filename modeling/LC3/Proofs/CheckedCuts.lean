import LC3.Proofs.Decoding

/-!
# Cuts with all their arithmetic checked

The cuts of `LC3.Word` check their ends, and then compute with numbers that
wrap around. A build that checks its arithmetic does not wrap around: a
difference below zero, a sum past the end of its type, and a shift by the
width of a word or more are refused. This module has the cuts as such a build
computes them, each sum, difference and shift with its check. They refuse
what the cuts refuse and nothing else (`Checked.field_eq` and so on, for all
ends and widths): once the ends were found in order, no number leaves its
type. Decoding is therefore not refused any word here either
(`Checked.decode_eq`).
-/

namespace LC3

/-- **Why something is refused.** -/
inductive Refusal where
  /-- A part of the machine was asked for what it does not have. -/
  | violation (violation : Violation)
  /-- A sum, a difference or a shift leaves its type. -/
  | overflow
  /-- There is no cell of this number. -/
  | noCell (index : Nat)
  /-- The keyboard is lent to somebody else, or to nobody. -/
  | loan
  deriving DecidableEq

namespace Refusal

/-- A violation as a refusal. The one that stands for arithmetic is an
overflow. -/
def ofViolation : Violation → Refusal
  | .arithmetic => overflow
  | v => violation v

end Refusal

namespace Checked

open Instruction (ok_bind)

/-! ## Arithmetic

Every operation says when it leaves its type, in terms of the numbers and not of
the result: a sum that wrapped around could not be told from one that did not. -/

/-- Refuses unless a condition holds. -/
def require (condition : Prop) [Decidable condition] (refusal : Refusal) : Except Refusal Unit :=
  if condition then .ok () else .error refusal

/-- A sum of bytes. -/
def add8 (a b : UInt8) : Except Refusal UInt8 :=
  if a.toNat + b.toNat < UInt8.size then .ok (a + b) else .error .overflow

/-- A difference of bytes. -/
def sub8 (a b : UInt8) : Except Refusal UInt8 :=
  if b ≤ a then .ok (a - b) else .error .overflow

/-- A difference of words. -/
def sub16 (a b : Word) : Except Refusal Word :=
  if b ≤ a then .ok (a - b) else .error .overflow

/-- A shift upwards. -/
def shl16 (w : Word) (distance : UInt8) : Except Refusal Word :=
  if distance < 16 then .ok (w <<< distance.toUInt16) else .error .overflow

/-- A shift downwards. -/
def shr16 (w : Word) (distance : UInt8) : Except Refusal Word :=
  if distance < 16 then .ok (w >>> distance.toUInt16) else .error .overflow

/-- A sum of counts. -/
def add64 (a b : UInt64) : Except Refusal UInt64 :=
  if a.toNat + b.toNat < UInt64.size then .ok (a + b) else .error .overflow

/-! ## Cuts

The order of the checks is part of what is compared. A byte field looks at the
distance of its ends before the field looks at their order, so it is refused for
another reason than the field would be. -/

/-- A word with ones in its `width` lowest bits. -/
def mask (width : UInt8) : Except Refusal Word := do
  let one ← shl16 1 width
  sub16 one 1

/-- **The field from `low` to `high`**, both included. -/
def field (w : Word) (low high : UInt8) : Except Refusal Word := do
  require (low ≤ high) (.violation (.reversedField low high))
  require (high ≤ 15) (.violation (.bitIndex high))
  let distance ← sub8 high low
  let width ← add8 distance 1
  if width ≥ 16 then return w
  else
    let moved ← shr16 w low
    let ones ← mask width
    return moved &&& ones

/-- A field of at most eight bits. -/
def field8 (w : Word) (low high : UInt8) : Except Refusal UInt8 := do
  let distance ← sub8 high low
  require (distance < 8) (.violation (.wideField low high))
  let bits ← field w low high
  return bits.toUInt8

/-- One bit. -/
def bit (w : Word) (index : UInt8) : Except Refusal Bool := do
  let bits ← field w index index
  return bits &&& 1 != 0

/-- **Sign extension.** -/
def signExtend (w : Word) (width : UInt8) : Except Refusal Word := do
  require (0 < width) (.violation .emptyField)
  if width ≥ 16 then return w
  else
    let ones ← mask width
    let kept := w &&& ones
    let last ← sub8 width 1
    let sign ← shr16 kept last
    if sign = 1 then
      let above ← shl16 0xFFFF width
      return kept ||| above
    else return kept

/-- The signed offset in the low `width` bits. -/
def offset (w : Word) (width : UInt8) : Except Refusal Word := do
  let last ← sub8 width 1
  let bits ← field w 0 last
  signExtend bits width

/-- The general register that a number names. -/
def named (violation : Violation) (number : UInt8) : Except Refusal (Fin 8) :=
  (Registers.named violation number).mapError .ofViolation

/-- **Cuts a word into the fields of an instruction.** -/
def decode (w : Word) : Except Refusal Instruction := do
  let code ← field8 w 12 15
  let dr ← field8 w 9 11 >>= named .registerWrite
  let sr1 ← field8 w 6 8 >>= named .registerRead
  let sr2 ← field8 w 0 2 >>= named .registerRead
  let usesImmediate ← bit w 5
  let imm5 ← field w 0 4 >>= (signExtend · 5)
  let off6 ← offset w 6
  let off9 ← offset w 9
  let off11 ← offset w 11
  let usesOffset ← bit w 11
  let signs ← field w 9 11
  let vector ← field8 w 0 7
  return {
    code, opcode := (Opcode.ofCode? code).getD .res, dr, sr1, sr2, usesImmediate, imm5,
    off6, off9, off11, usesOffset, signs, vector }

/-! ## What is not refused

These are the checks that pass, each with the condition under which it does. -/

/-- A condition that holds is no obstacle, -/
theorem require_of {condition : Prop} [Decidable condition] (h : condition) (refusal : Refusal) :
    require condition refusal = .ok () := if_pos h

/-- and one that does not hold is refused for its own reason. -/
theorem require_of_not {condition : Prop} [Decidable condition] (h : ¬ condition)
    (refusal : Refusal) : require condition refusal = .error refusal := if_neg h

/-- A difference is taken from the larger number. -/
theorem sub8_of_le {a b : UInt8} (h : b ≤ a) : sub8 a b = .ok (a - b) := if_pos h

/-- A word can be shifted by less than its width, -/
theorem shl16_of_lt (w : Word) {distance : UInt8} (h : distance < 16) :
    shl16 w distance = .ok (w <<< distance.toUInt16) := if_pos h

/-- in both directions. -/
theorem shr16_of_lt (w : Word) {distance : UInt8} (h : distance < 16) :
    shr16 w distance = .ok (w >>> distance.toUInt16) := if_pos h

/-- Below the width of a word a mask is computed without an overflow. -/
theorem mask_of_lt {width : UInt8} (h : width < 16) : mask width = .ok (Word.mask width) := by
  have hmask : Word.mask width = (1 <<< width.toUInt16) - 1 := if_neg (UInt8.not_le.2 h)
  unfold mask
  rw [shl16_of_lt 1 h, hmask]
  exact if_pos (Word.one_le_one_shiftLeft (UInt8.lt_iff_toNat_lt.1 h))

/-- One more than a distance within a word is a byte. -/
theorem add8_one_of_le {distance : UInt8} (h : distance ≤ 15) :
    add8 distance 1 = .ok (distance + 1) := by
  have hle : distance.toNat ≤ 15 := UInt8.le_iff_toNat_le.1 h
  refine if_pos ?_
  show distance.toNat + 1 < 256
  omega

/-! ## What the cuts refuse

The reasons are compared, too: a refusal is the violation of the cut under
another name, where an overflow stands for the violation of arithmetic. -/

/-- Giving refusals another name may be done part by part. -/
theorem mapError_bind {α β : Type} (x : Except Violation α) (f : α → Except Violation β) :
    (x >>= f).mapError Refusal.ofViolation
      = x.mapError .ofViolation >>= fun a => (f a).mapError .ofViolation := by
  cases x <;> rfl

/-- **A field is refused for its ends** and for nothing else. Once these are in order,
the width is at most sixteen, and both the shift and the mask are within the word. -/
theorem field_eq (w : Word) (low high : UInt8) :
    field w low high = (w.field low high).mapError .ofViolation := by
  unfold field Word.field
  by_cases hreversed : high < low
  · rw [require_of_not (UInt8.not_le.2 hreversed), if_pos hreversed]
    rfl
  · have hle : low ≤ high := UInt8.not_lt.1 hreversed
    rw [require_of hle, if_neg hreversed]
    by_cases hindex : high > 15
    · rw [require_of_not (UInt8.not_le.2 hindex), if_pos hindex]
      rfl
    · have h15 : high ≤ 15 := UInt8.not_lt.1 hindex
      have hlow : low.toNat ≤ high.toNat := UInt8.le_iff_toNat_le.1 hle
      have hhigh : high.toNat ≤ 15 := UInt8.le_iff_toNat_le.1 h15
      have hdistance : (high - low).toNat = high.toNat - low.toNat :=
        UInt8.toNat_sub_of_le _ _ hle
      have hwidth : (high - low + 1).toNat = high.toNat - low.toNat + 1 := by
        rw [UInt8.toNat_add, hdistance]
        show (high.toNat - low.toNat + 1) % 256 = _
        omega
      have hadd : add8 (high - low) 1 = .ok (high - low + 1) := by
        refine add8_one_of_le (UInt8.le_iff_toNat_le.2 ?_)
        rw [hdistance]
        exact (Nat.sub_le _ _).trans hhigh
      rw [ok_bind, require_of h15, ok_bind, if_neg hindex, sub8_of_le hle, ok_bind, hadd, ok_bind]
      split
      next hall =>
        -- the field is the whole word
        have hall' : 16 ≤ (high - low + 1).toNat := UInt8.le_iff_toNat_le.1 hall
        have hzero : low = 0 := UInt8.toNat_inj.1 (show low.toNat = 0 by omega)
        have hkeep : w &&& Word.mask (high - low + 1) = w := by
          have hall'' : (high - low + 1).toNat = 16 := by omega
          rw [← UInt16.toNat_inj, Word.toNat_and_mask w hall''.le, hall'']
          exact Nat.mod_eq_of_lt w.toNat_lt
        rw [hzero] at hkeep ⊢
        exact congrArg Except.ok ((congrArg (· &&& _) UInt16.shiftRight_zero).trans hkeep).symm
      next hpart =>
        have hpart' : high - low + 1 < 16 := UInt8.not_le.1 hpart
        have hshift : low < 16 := UInt8.lt_iff_toNat_lt.2 (show low.toNat < 16 by omega)
        rw [shr16_of_lt w hshift, ok_bind, mask_of_lt hpart']
        rfl

/-- **A byte field** is refused for an overflow if its ends are in the wrong order,
since their distance is computed first. -/
theorem field8_eq (w : Word) (low high : UInt8) :
    field8 w low high = (w.field8 low high).mapError .ofViolation := by
  unfold field8 Word.field8
  by_cases hreversed : high < low
  · have hborrows : sub8 high low = .error .overflow := if_neg (UInt8.not_le.2 hreversed)
    rw [if_pos hreversed, hborrows]
    rfl
  · rw [if_neg hreversed, sub8_of_le (UInt8.not_lt.1 hreversed), ok_bind]
    by_cases hwide : high - low ≥ 8
    · rw [if_pos hwide, require_of_not (UInt8.not_lt.2 hwide)]
      rfl
    · rw [if_neg hwide, require_of (UInt8.not_le.1 hwide), ok_bind, field_eq]
      cases w.field low high <;> rfl

/-- From a width that is not zero one may be taken. -/
theorem one_le_of_ne_zero {width : UInt8} (h : width ≠ 0) : 1 ≤ width :=
  UInt8.le_iff_toNat_le.2 (UInt8.lt_iff_toNat_lt.1 (UInt8.pos_iff_ne_zero.2 h))

/-- **Sign extension** is refused for a field without bits. -/
theorem signExtend_eq (w : Word) (width : UInt8) :
    signExtend w width = (w.signExtend width).mapError .ofViolation := by
  unfold signExtend Word.signExtend
  by_cases hempty : width = 0
  · rw [if_pos hempty, require_of_not (by rw [hempty]; decide)]
    rfl
  · have hpos : 0 < width := UInt8.pos_iff_ne_zero.2 hempty
    rw [if_neg hempty, require_of hpos, ok_bind]
    by_cases hall : width ≥ 16
    · rw [if_pos hall, if_pos hall]
      rfl
    · have hpart : width < 16 := UInt8.not_le.1 hall
      have hlast : width - 1 < 16 := by
        rw [UInt8.lt_iff_toNat_lt, UInt8.toNat_sub_of_le _ _ (one_le_of_ne_zero hempty)]
        have hlt : width.toNat < 16 := UInt8.lt_iff_toNat_lt.1 hpart
        exact (Nat.sub_le _ _).trans_lt hlt
      rw [if_neg hall, if_neg hall, mask_of_lt hpart, ok_bind,
        sub8_of_le (one_le_of_ne_zero hempty), ok_bind, shr16_of_lt _ hlast, ok_bind]
      dsimp only
      split
      · rw [shl16_of_lt _ hpart]
        rfl
      · rfl

/-- **An offset** without bits overflows when its last bit is to be found. -/
theorem offset_eq (w : Word) (width : UInt8) :
    offset w width = (w.offset width).mapError .ofViolation := by
  unfold offset Word.offset
  by_cases hempty : width = 0
  · rw [if_pos hempty, hempty]
    rfl
  · have hle : 1 ≤ width := one_le_of_ne_zero hempty
    rw [if_neg hempty, mapError_bind, sub8_of_le hle, ok_bind, field_eq]
    exact congrArg _ (funext fun bits => signExtend_eq bits width)

example : offset 0 0 = .error .overflow := rfl

/-- **One bit** is the field from it to itself. Nothing is left above the bit, so to
look at the lowest alone changes nothing. -/
theorem bit_eq (w : Word) (index : UInt8) :
    bit w index = (w.bit index).mapError .ofViolation := by
  unfold bit Word.bit
  rw [field_eq]
  cases hfield : w.field index index with
  | error violation => rfl
  | ok bits =>
    have hone : bits &&& 1 = bits := by
      unfold Word.field at hfield
      rw [if_neg (UInt8.lt_irrefl index)] at hfield
      split at hfield
      · cases hfield
      · cases hfield
        rw [UInt8.sub_self, UInt16.and_assoc]
        rfl
    show Except.ok (bits &&& 1 != 0) = Except.ok (bits != 0)
    rw [hone]

/-- **Decoding refuses no word**, with all its arithmetic checked. -/
theorem decode_eq (w : Word) : decode w = .ok (.ofWord w) := by
  have hdecode : decode w = (Instruction.decode w).mapError .ofViolation := by
    unfold decode Instruction.decode
    simp only [mapError_bind, field_eq, field8_eq, signExtend_eq, offset_eq, bit_eq]
    rfl
  rw [hdecode, Instruction.decode_eq_ok]
  rfl

end Checked

end LC3
