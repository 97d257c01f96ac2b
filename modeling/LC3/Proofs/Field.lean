import LC3.Word
import Mathlib.Data.Int.DivMod
import Mathlib.Data.Nat.Bitwise

/-!
# Fields are numbers

`LC3.Word` cuts words with shifts and masks, as a machine does. What the
cuts mean is said with numbers: a field is a quotient by one power of two
and a remainder by another (`bits`), and a field read in two's complement is
the balanced remainder (`signedBits`), the one of its residues that lies
nearest to zero. This module proves that the cuts compute these numbers and
are refused exactly where the ends do not name a field.

Going back, `wrap` is the word that an exact number stands for. It turns
sums of numbers into sums of words, which is why an address may be computed
with exact numbers first and cut to a word at the end.
-/

namespace LC3

namespace Word

/-- **The number in `width` bits of a word**, from bit `low` on. -/
def bits (w : Word) (low width : Nat) : Nat := w.toNat / 2 ^ low % 2 ^ width

/-- **The number in the low `width` bits of a word**, read in two's
complement. -/
def signedBits (w : Word) (width : Nat) : Int := (w.toNat : Int).bmod (2 ^ width)

/-- **The word an exact number stands for**, modulo `2 ^ 16`. -/
def wrap (n : Int) : Word := UInt16.ofInt n

/-- A field is less than the power of two for its width. -/
theorem bits_lt (w : Word) (low width : Nat) : w.bits low width < 2 ^ width :=
  Nat.mod_lt _ (Nat.two_pow_pos width)

/-! ## The word of a number

`wrap` cuts a number to sixteen bits. It undoes taking the number of a word, and
it may be applied before or after an addition, which is all that the later
modules need of it. -/

/-- The number of a word stands for that word. -/
@[simp] theorem wrap_toNat (w : Word) : wrap (w.toNat : Int) = w := by
  have hlt : (w.toNat : Int) < 2 ^ 16 := by exact_mod_cast w.toNat_lt
  have hmod : (w.toNat : Int) % 2 ^ 16 = w.toNat := Int.emod_eq_of_lt (by omega) hlt
  rw [wrap, UInt16.ofInt, hmod, Int.toNat_natCast]
  exact UInt16.ofNat_toNat

/-- A sum of exact numbers is a sum of words that wraps around. -/
theorem wrap_add (a b : Int) : wrap (a + b) = wrap a + wrap b := UInt16.ofInt_add a b

/-- Numbers that differ by full turns stand for one word. -/
theorem wrap_congr {a b : Int} (h : a % 2 ^ 16 = b % 2 ^ 16) : wrap a = wrap b := by
  rw [wrap, wrap, UInt16.ofInt, UInt16.ofInt, h]

/-- For a natural number it is the word that the number is made into. -/
theorem wrap_natCast (n : Nat) : wrap (n : Int) = UInt16.ofNat n := by
  have hmod : ((n : Int) % 2 ^ 16).toNat = n % 2 ^ 16 := by omega
  rw [wrap, UInt16.ofInt, hmod]
  exact UInt16.ofNat_mod_size

/-- Nothing is lost of a number that fits. -/
theorem toNat_wrap_natCast {n : Nat} (h : n < 2 ^ 16) : (wrap (n : Int)).toNat = n := by
  rw [wrap_natCast]
  exact UInt16.toNat_ofNat_of_lt h

/-! ## Masks

A mask is a power of two less one, made by a shift. The width 16 has a case of
its own, since a word that is shifted by its own width would not be shifted at
all. -/

/-- A one that is not shifted out is a power of two. -/
theorem toNat_one_shiftLeft {width : UInt8} (h : width.toNat < 16) :
    ((1 : Word) <<< width.toUInt16).toNat = 2 ^ width.toNat := by
  have hpow : 2 ^ width.toNat < 2 ^ 16 := Nat.pow_lt_pow_right (by decide) h
  rw [UInt16.toNat_shiftLeft, UInt8.toNat_toUInt16, Nat.mod_eq_of_lt h]
  show 1 <<< width.toNat % 2 ^ 16 = _
  rw [Nat.one_shiftLeft, Nat.mod_eq_of_lt hpow]

/-- It can be made one less. -/
theorem one_le_one_shiftLeft {width : UInt8} (h : width.toNat < 16) :
    (1 : Word) ≤ 1 <<< width.toUInt16 := by
  rw [UInt16.le_iff_toNat_le, toNat_one_shiftLeft h]
  exact Nat.one_le_two_pow

/-- **A mask has as many ones as it is wide**, also if it is as wide as a word. -/
theorem toNat_mask {width : UInt8} (h : width.toNat ≤ 16) :
    (mask width).toNat = 2 ^ width.toNat - 1 := by
  unfold mask
  split
  next h16 =>
    have hle : (16 : UInt8).toNat ≤ width.toNat := UInt8.le_iff_toNat_le.1 h16
    have heq : width.toNat = 16 := Nat.le_antisymm h hle
    rw [heq]
    rfl
  next h16 =>
    have hlt : width.toNat < 16 := by
      have hn : ¬ (16 : UInt8).toNat ≤ width.toNat := fun hle => h16 (UInt8.le_iff_toNat_le.2 hle)
      exact Nat.lt_of_not_le hn
    rw [UInt16.toNat_sub_of_le _ _ (one_le_one_shiftLeft hlt), toNat_one_shiftLeft hlt]
    rfl

/-- A mask keeps the remainder by a power of two. -/
theorem toNat_and_mask (w : Word) {width : UInt8} (h : width.toNat ≤ 16) :
    (w &&& mask width).toNat = w.toNat % 2 ^ width.toNat := by
  rw [UInt16.toNat_and, toNat_mask h, Nat.and_two_pow_sub_one_eq_mod]

/-! ## Fields

A field is shifted down and masked. The shift is the quotient, and the mask the
remainder, as long as the ends are in order and inside the word; then the width
fits too. -/

/-- **A field is a quotient and a remainder.** -/
theorem field_eq_ok (w : Word) {low high : UInt8} (h : low ≤ high) (h15 : high ≤ 15) :
    w.field low high = .ok (wrap (w.bits low.toNat (high.toNat - low.toNat + 1))) := by
  have hle : low.toNat ≤ high.toNat := UInt8.le_iff_toNat_le.1 h
  have h15' : high.toNat ≤ 15 := UInt8.le_iff_toNat_le.1 h15
  have hwidth : (high - low + 1).toNat = high.toNat - low.toNat + 1 := by
    rw [UInt8.toNat_add, UInt8.toNat_sub_of_le _ _ h]
    show (high.toNat - low.toNat + 1) % 256 = _
    exact Nat.mod_eq_of_lt (by omega)
  unfold field
  rw [if_neg (UInt8.not_lt.2 h), if_neg (UInt8.not_lt.2 h15)]
  congr 1
  rw [← UInt16.toNat_inj, toNat_and_mask _ (by omega), hwidth, UInt16.toNat_shiftRight,
    UInt8.toNat_toUInt16, Nat.mod_eq_of_lt (show low.toNat < 16 by omega), Nat.shiftRight_eq_div_pow,
    toNat_wrap_natCast]
  · rfl
  · refine (Nat.mod_lt _ (Nat.two_pow_pos _)).trans_le ?_
    exact Nat.pow_le_pow_right (by decide) (by omega)

/-- A field of at most eight bits is a byte without loss. -/
theorem field8_eq_ok (w : Word) {low high : UInt8} (h : low ≤ high) (h15 : high ≤ 15)
    (h8 : high.toNat - low.toNat < 8) :
    w.field8 low high = .ok (UInt8.ofNat (w.bits low.toNat (high.toNat - low.toNat + 1))) := by
  have hlt : high - low < 8 := by
    rw [UInt8.lt_iff_toNat_lt, UInt8.toNat_sub_of_le _ _ h]
    exact h8
  unfold field8
  rw [if_neg (UInt8.not_lt.2 h), if_neg (UInt8.not_le.2 hlt), field_eq_ok w h h15, wrap_natCast]
  show Except.ok (UInt16.ofNat _).toUInt8 = _
  rw [UInt16.toUInt8_ofNat']

/-- **A bit** is a field of width one, and tells whether the bit of the number is set.
-/
theorem bit_eq_ok (w : Word) (index : UInt8) (h : index ≤ 15) :
    w.bit index = .ok (w.toNat.testBit index.toNat) := by
  unfold bit
  rw [field_eq_ok w (UInt8.le_refl index) h, Nat.sub_self, wrap_natCast]
  show Except.ok _ = Except.ok _
  congr 1
  rw [Nat.testBit_eq_decide_div_mod_eq]
  rcases Nat.mod_two_eq_zero_or_one (w.toNat / 2 ^ index.toNat) with h0 | h1
  · simp [bits, h0]
  · simp [bits, h1]

/-! ## Sign extension

The sign of a field is its highest bit, so the two ways of reading a field
of `width` bits part at `2 ^ (width - 1)`: below it the number is the
remainder itself, from there on it is a full turn of the field less. -/

/-- One turn of a field is twice the number at its highest bit. -/
theorem two_pow_eq_two_mul {width : Nat} (h : 0 < width) :
    2 ^ width = 2 * 2 ^ (width - 1) := by
  rw [← Nat.pow_succ']
  exact congrArg (2 ^ ·) (Nat.sub_add_cancel h).symm

/-- With the highest bit clear the number is the field itself, -/
theorem signedBits_of_lt (w : Word) {width : Nat} (h0 : 0 < width)
    (h : w.bits 0 width < 2 ^ (width - 1)) : w.signedBits width = w.bits 0 width := by
  have htwo := two_pow_eq_two_mul h0
  have hbits : w.bits 0 width = w.toNat % 2 ^ width := by rw [bits, Nat.pow_zero, Nat.div_one]
  have hmod : (w.toNat : Int) % (2 ^ width : Nat) = w.bits 0 width := by
    rw [hbits]
    exact (Int.natCast_emod _ _).symm
  rw [signedBits, Int.bmod_def, hmod, if_pos (by omega)]

/-- and with the bit set it is a full turn of the field less. -/
theorem signedBits_of_le (w : Word) {width : Nat} (h0 : 0 < width)
    (h : 2 ^ (width - 1) ≤ w.bits 0 width) :
    w.signedBits width = w.bits 0 width - (2 ^ width : Nat) := by
  have htwo := two_pow_eq_two_mul h0
  have hbits : w.bits 0 width = w.toNat % 2 ^ width := by rw [bits, Nat.pow_zero, Nat.div_one]
  have hmod : (w.toNat : Int) % (2 ^ width : Nat) = w.bits 0 width := by
    rw [hbits]
    exact (Int.natCast_emod _ _).symm
  rw [signedBits, Int.bmod_def, hmod, if_neg (by omega)]

/-- The bit that sign extension tests is the highest of the field. -/
theorem and_mask_shiftRight_eq_one_iff (w : Word) {width : UInt8} (h0 : 0 < width.toNat)
    (h : width.toNat < 16) :
    (w &&& mask width) >>> (width - 1).toUInt16 = 1
      ↔ 2 ^ (width.toNat - 1) ≤ w.bits 0 width.toNat := by
  have htwo := two_pow_eq_two_mul h0
  have hlt := w.bits_lt 0 width.toNat
  have hlast : (width - 1).toNat = width.toNat - 1 :=
    UInt8.toNat_sub_of_le _ _ (UInt8.le_iff_toNat_le.2 h0)
  have hshift : ((w &&& mask width) >>> (width - 1).toUInt16).toNat
      = w.bits 0 width.toNat / 2 ^ (width.toNat - 1) := by
    rw [UInt16.toNat_shiftRight, UInt8.toNat_toUInt16, hlast, toNat_and_mask w h.le,
      Nat.mod_eq_of_lt (show width.toNat - 1 < 16 by omega), Nat.shiftRight_eq_div_pow, bits,
      Nat.pow_zero, Nat.div_one]
  rw [← UInt16.toNat_inj, hshift]
  show _ = 1 ↔ _
  rw [Nat.div_eq_iff (Nat.two_pow_pos _)]
  omega

/-- The ones above a field, which a negative field is filled up with. -/
theorem toNat_ones_shiftLeft {width : UInt8} (h : width.toNat < 16) :
    ((0xFFFF : Word) <<< width.toUInt16).toNat
      = (2 ^ (16 - width.toNat) - 1) <<< width.toNat := by
  have hle : 2 ^ width.toNat ≤ 2 ^ 16 := Nat.pow_le_pow_right (by decide) h.le
  have hpow : 2 ^ (16 - width.toNat) * 2 ^ width.toNat = 2 ^ 16 := by
    rw [← Nat.pow_add, Nat.sub_add_cancel h.le]
  have hone : 1 ≤ 2 ^ width.toNat := Nat.one_le_two_pow
  -- shifting all ones by the width loses full turns of the word and nothing else
  have hturn : (2 ^ 16 - 1) * 2 ^ width.toNat
      = (2 ^ 16 - 2 ^ width.toNat) + (2 ^ width.toNat - 1) * 2 ^ 16 := by omega
  rw [UInt16.toNat_shiftLeft, UInt8.toNat_toUInt16, Nat.mod_eq_of_lt h, Nat.shiftLeft_eq,
    Nat.shiftLeft_eq, Nat.sub_mul, hpow, Nat.one_mul]
  show (2 ^ 16 - 1) * 2 ^ width.toNat % 2 ^ 16 = _
  rw [hturn, Nat.add_mul_mod_self_right]
  exact Nat.mod_eq_of_lt (by omega)

/-- **Sign extension is the balanced remainder.** The bits above the field
play no part in it, and from width 16 on it is the word itself. -/
theorem signExtend_eq_ok (w : Word) {width : UInt8} (h0 : 0 < width.toNat)
    (h16 : width.toNat ≤ 16) : w.signExtend width = .ok (wrap (w.signedBits width.toNat)) := by
  have hne : width ≠ 0 := fun h => absurd h0 (by rw [h]; decide)
  have hbits : w.bits 0 width.toNat = w.toNat % 2 ^ width.toNat := by
    rw [bits, Nat.pow_zero, Nat.div_one]
  unfold signExtend
  rw [if_neg hne]
  rcases Nat.eq_or_lt_of_le h16 with heq | hlt
  · rw [if_pos (show width ≥ 16 from UInt8.le_iff_toNat_le.2 heq.ge), signedBits, heq]
    refine congrArg Except.ok ((wrap_toNat w).symm.trans (wrap_congr ?_))
    exact Int.bmod_emod.symm
  have hge : ¬ width ≥ 16 := fun h => absurd (UInt8.le_iff_toNat_le.1 h) (Nat.not_le.2 hlt)
  have hfield := w.bits_lt 0 width.toNat
  have hle : 2 ^ width.toNat ≤ 2 ^ 16 := Nat.pow_le_pow_right (by decide) h16
  rw [if_neg hge]
  dsimp only
  split
  next hneg =>
    have hones : 2 ^ (16 - width.toNat) * 2 ^ width.toNat = 2 ^ 16 := by
      rw [← Nat.pow_add, Nat.sub_add_cancel h16]
    have hshift : (2 ^ (16 - width.toNat) - 1) <<< width.toNat = 2 ^ 16 - 2 ^ width.toNat := by
      rw [Nat.shiftLeft_eq, Nat.sub_mul, hones, Nat.one_mul]
    have hsigned := w.signedBits_of_le h0 ((and_mask_shiftRight_eq_one_iff w h0 hlt).1 hneg)
    -- a full turn of the field less is, for the word, all ones above the field more
    have hwrap : wrap (w.signedBits width.toNat)
        = wrap (((2 ^ (16 - width.toNat) - 1) <<< width.toNat + w.bits 0 width.toNat : Nat)
          : Int) := by
      refine wrap_congr ?_
      rw [hsigned, hshift]
      omega
    rw [hwrap]
    refine congrArg Except.ok ?_
    rw [← UInt16.toNat_inj, UInt16.toNat_or, toNat_and_mask w h16, toNat_ones_shiftLeft hlt,
      Nat.or_comm, toNat_wrap_natCast (by omega), Nat.shiftLeft_add_eq_or_of_lt hfield, hbits]
  next hneg =>
    have hsigned := w.signedBits_of_lt h0
      (Nat.lt_of_not_le fun h => hneg ((and_mask_shiftRight_eq_one_iff w h0 hlt).2 h))
    rw [hsigned]
    refine congrArg Except.ok ?_
    rw [← UInt16.toNat_inj, toNat_and_mask w h16, toNat_wrap_natCast (by omega), hbits]

/-- Reading a field of a field that starts at bit zero reads the word. -/
theorem signedBits_wrap_bits (w : Word) (width : Nat) (h : width ≤ 16) :
    (wrap (w.bits 0 width)).signedBits width = w.signedBits width := by
  have hlt : w.bits 0 width < 2 ^ 16 :=
    (w.bits_lt 0 width).trans_le (Nat.pow_le_pow_right (by decide) h)
  rw [signedBits, toNat_wrap_natCast hlt, bits, Nat.pow_zero, Nat.div_one, signedBits,
    Int.natCast_emod]
  exact Int.emod_bmod _ _

/-- **An offset is the signed number in the low bits**, cut to a word. -/
theorem offset_eq_ok (w : Word) (width : UInt8) (h0 : 0 < width.toNat)
    (h16 : width.toNat ≤ 16) :
    w.offset width = .ok (wrap (w.signedBits width.toNat)) := by
  have hne : width ≠ 0 := fun h => absurd h0 (by rw [h]; decide)
  have hlast : (width - 1).toNat = width.toNat - 1 :=
    UInt8.toNat_sub_of_le _ _ (UInt8.le_iff_toNat_le.2 h0)
  have h15 : width - 1 ≤ 15 := by
    rw [UInt8.le_iff_toNat_le, hlast]
    exact Nat.sub_le_of_le_add h16
  unfold offset
  rw [if_neg hne, field_eq_ok w (UInt8.zero_le) h15, hlast]
  show (wrap (w.bits 0 (width.toNat - 1 - 0 + 1))).signExtend width = _
  rw [Nat.sub_zero, Nat.sub_add_cancel h0, signExtend_eq_ok _ h0 h16,
    signedBits_wrap_bits w _ h16]

end Word

end LC3
