import LC3.Proofs.CheckedCuts
import Mathlib.Data.Int.ModEq

/-!
# Cuts are exact

Decoding uses a handful of the cuts of `LC3.Word`, at fixed ends and widths. The
cuts themselves take any byte for an end or a width, and this module says what
they do with each: which they refuse, and which number they find otherwise.

The numbers are those of a reader who knows no shift and no mask. A field is a
quotient and a remainder, and two fields that lie side by side make up the field
over both (`Word.bits_add`). What a field says in two's complement is fixed by two
conditions (`Word.ReadsAs`): its remainder is that of the word, and it lies in the
range of its width. There is always one such number and never a second
(`Word.readsAs_iff`), so it is the one that sign extension must find, and the
distance that an offset must move an address by.

Each cut comes twice, as it stands and with all of its arithmetic checked. The
conditions on a cut do not look at why it refuses, so the second kind inherits
them from the first (`ExactField.mapError` and so on): within the ends and widths
that are taken, no sum, difference or shift leaves its type.
-/

namespace LC3

namespace Word

/-! ## Fields side by side -/

/-- **A field over two fields**, one on top of the other. -/
theorem bits_add (w : Word) (low lower upper : Nat) :
    w.bits low (lower + upper) = w.bits (low + lower) upper * 2 ^ lower + w.bits low lower := by
  unfold bits
  rw [Nat.pow_add, Nat.mod_mul, Nat.div_div_eq_div_mul, ← Nat.pow_add, Nat.add_comm,
    Nat.mul_comm]

/-! ## What a field says in two's complement -/

/-- **The low `width` bits of a word read as a number** in two's complement: it has
the remainder of the word, and lies in the range of `width` bits. -/
structure ReadsAs (w : Word) (width : Nat) (n : Int) : Prop where
  /-- The bits above the field play no part. -/
  congruent : n ≡ w.toNat [ZMOD 2 ^ width]
  /-- It is at least the lowest number that fits. -/
  lower : -2 ^ (width - 1) ≤ n
  /-- It is below the first that does not. -/
  upper : n < 2 ^ (width - 1)

/-- **Exactly one number is read from a field**, the balanced remainder. -/
theorem readsAs_iff {w : Word} {width : Nat} {n : Int} (h0 : 0 < width) :
    w.ReadsAs width n ↔ w.signedBits width = n := by
  have hturn : ((2 ^ width : Nat) : Int) = 2 ^ width := Nat.cast_pow 2 width
  -- half of the range is below zero, and half of it is not
  have htwo : (2 : Int) ^ width = 2 * 2 ^ (width - 1) := by
    exact_mod_cast two_pow_eq_two_mul h0
  constructor
  · rintro ⟨hcongruent, hlower, hupper⟩
    have hmod : (w.toNat : Int) % (2 ^ width : Nat) = n % (2 ^ width : Nat) := by
      rw [hturn]
      exact hcongruent.symm
    calc
      w.signedBits width
        = ((w.toNat : Int) % (2 ^ width : Nat)).bmod (2 ^ width) := (Int.emod_bmod _ _).symm
      _ = (n % (2 ^ width : Nat)).bmod (2 ^ width) := by rw [hmod]
      _ = n.bmod (2 ^ width) := Int.emod_bmod _ _
      _ = n := Int.bmod_eq_of_le_mul_two (by omega) (by omega)
  · rintro rfl
    have hlower := Int.le_bmod (x := w.toNat) (Nat.two_pow_pos width)
    have hupper := Int.bmod_lt (x := w.toNat) (Nat.two_pow_pos width)
    rw [hturn, htwo] at hlower hupper
    refine ⟨?_, ?_, ?_⟩
    · show (w.toNat : Int).bmod (2 ^ width) % 2 ^ width = w.toNat % 2 ^ width
      rw [← hturn]
      exact Int.bmod_emod
    · show _ ≤ (w.toNat : Int).bmod (2 ^ width)
      omega
    · show (w.toNat : Int).bmod (2 ^ width) < _
      omega

/-- The whole word is read so. -/
theorem signed_eq_signedBits (w : Word) : w.signed = w.signedBits 16 :=
  BitVec.toInt_eq_toNat_bmod w.toBitVec

/-- What is read depends on the bits of the field alone. -/
theorem signedBits_congr {v v' : Word} {width : Nat}
    (h : v.toNat % 2 ^ width = v'.toNat % 2 ^ width) :
    v.signedBits width = v'.signedBits width := by
  have hmod : (v.toNat : Int) % (2 ^ width : Nat) = v'.toNat % (2 ^ width : Nat) := by
    exact_mod_cast h
  unfold signedBits
  rw [← Int.emod_bmod, hmod, Int.emod_bmod]

/-! ## The word of a number, read back

A word is given the remainder of a number, and read as signed it gives back the
balanced remainder. For a number in the range of sixteen bits this is the number
itself. -/

/-- The word of a number is its remainder. -/
theorem toNat_wrap (n : Int) : ((wrap n).toNat : Int) = n % 2 ^ 16 := by
  have hmod : n % 2 ^ 16 % 2 ^ 16 = n % 2 ^ 16 := Int.emod_emod n (2 ^ 16)
  have hcast : ((n % 2 ^ 16).toNat : Int) = n % 2 ^ 16 := by omega
  rw [← wrap_congr hmod, ← hcast, toNat_wrap_natCast (by omega)]

/-- **A number of at most sixteen bits is read back** from its word. -/
theorem ReadsAs.signed_wrap {w : Word} {width : Nat} {n : Int} (h : w.ReadsAs width n)
    (h16 : width ≤ 16) : (wrap n).signed = n := by
  have hrange : (2 : Int) ^ (width - 1) ≤ 2 ^ (16 - 1) := by
    exact_mod_cast Nat.pow_le_pow_right (show 0 < 2 by decide) (Nat.sub_le_sub_right h16 1)
  rw [signed_eq_signedBits, ← readsAs_iff (by decide)]
  refine ⟨?_, (Int.neg_le_neg hrange).trans h.lower, h.upper.trans_le hrange⟩
  rw [toNat_wrap]
  exact (Int.mod_modEq n (2 ^ 16)).symm

end Word

/-! ## What is asked of a cut -/

section

variable {ε ε' α : Type}

/-- **Fields are exact:** refused are the ends that name no field and no others, and
any field is a quotient and a remainder. Hence it is made up of its two parts,
wherever it is parted. -/
structure ExactField (field : Word → UInt8 → UInt8 → Except ε Word) : Prop where
  refused : ∀ (w : Word) (low high : UInt8),
    (∃ e, field w low high = .error e) ↔ high < low ∨ 15 < high
  value : ∀ (w : Word) (low high : UInt8), low ≤ high → high ≤ 15 →
    ∃ bits, field w low high = .ok bits
      ∧ bits.toNat = w.toNat / 2 ^ low.toNat % 2 ^ (high.toNat - low.toNat + 1)
  parts : ∀ (w : Word) (low mid high : UInt8), low ≤ mid → mid < high → high ≤ 15 →
    ∃ whole upper lower, field w low high = .ok whole
      ∧ field w (mid + 1) high = .ok upper
      ∧ field w low mid = .ok lower
      ∧ whole.toNat = upper.toNat * 2 ^ (mid.toNat - low.toNat + 1) + lower.toNat

/-- **Byte fields are exact:** refused are the ends that name no field and the fields
of more than eight bits, and any byte is the field without a loss. -/
structure ExactByte (field : Word → UInt8 → UInt8 → Except ε Word)
    (field8 : Word → UInt8 → UInt8 → Except ε UInt8) : Prop where
  refused : ∀ (w : Word) (low high : UInt8),
    (∃ e, field8 w low high = .error e)
      ↔ high < low ∨ 15 < high ∨ 8 ≤ high.toNat - low.toNat
  value : ∀ (w : Word) (low high byte : UInt8),
    field8 w low high = .ok byte → field w low high = .ok byte.toUInt16

/-- **Sign extension is exact:** refused is the field without bits alone. Up to
sixteen bits the word that is found says what the field says and no other number, a
wider field is the word itself, and in no case do the bits above the field matter. -/
structure ExactExtension (signExtend : Word → UInt8 → Except ε Word) : Prop where
  refused : ∀ (v : Word) (width : UInt8), (∃ e, signExtend v width = .error e) ↔ width = 0
  value : ∀ (v : Word) (width : UInt8), 1 ≤ width → width ≤ 16 →
    ∃ extended, signExtend v width = .ok extended
      ∧ ∀ n : Int, extended.signed = n ↔ v.ReadsAs width.toNat n
  wide : ∀ (v : Word) (width : UInt8), 16 < width → signExtend v width = .ok v
  congr : ∀ (v v' : Word) (width : UInt8),
    v.toNat % 2 ^ width.toNat = v'.toNat % 2 ^ width.toNat →
      signExtend v width = signExtend v' width

/-- **Offsets are exact:** refused are the widths that name no field, and added to
any address an offset moves it by the number in the low bits, with wrap-around. -/
structure ExactOffset (offset : Word → UInt8 → Except ε Word) : Prop where
  refused : ∀ (w : Word) (width : UInt8),
    (∃ e, offset w width = .error e) ↔ width = 0 ∨ 16 < width
  value : ∀ (w : Word) (width : UInt8), 1 ≤ width → width ≤ 16 →
    ∃ distance n, offset w width = .ok distance
      ∧ w.ReadsAs width.toNat n
      ∧ ∀ x : Word, ((x + distance).toNat : Int) = (x.toNat + n) % 2 ^ 16

/-! ## Refusals under other names

None of the conditions looks at the reason of a refusal. -/

/-- What gives a value is not refused. -/
theorem not_exists_error {x : Except ε α} {a : α} (h : x = .ok a) : ¬ ∃ e, x = .error e := by
  rintro ⟨e, he⟩
  exact nomatch h.symm.trans he

/-- A value is the same under other names of refusals, -/
theorem mapError_eq_ok_iff {f : ε → ε'} {x : Except ε α} {a : α} :
    x.mapError f = .ok a ↔ x = .ok a := by
  cases x <;> simp [Except.mapError]

/-- and there is a refusal if there was one. -/
theorem exists_mapError_eq_error_iff {f : ε → ε'} {x : Except ε α} :
    (∃ e, x.mapError f = .error e) ↔ ∃ e, x = .error e := by
  cases x <;> simp [Except.mapError]

variable {field : Word → UInt8 → UInt8 → Except ε Word}
  {field8 : Word → UInt8 → UInt8 → Except ε UInt8}
  {signExtend offset : Word → UInt8 → Except ε Word}

/-- So are the conditions on a field, -/
theorem ExactField.mapError (h : ExactField field) (f : ε → ε') :
    ExactField fun w low high => (field w low high).mapError f := by
  refine ⟨?_, ?_, ?_⟩
  all_goals simp only [mapError_eq_ok_iff, exists_mapError_eq_error_iff]
  exacts [h.refused, h.value, h.parts]

/-- on a byte field, -/
theorem ExactByte.mapError (h : ExactByte field field8) (f : ε → ε') :
    ExactByte (fun w low high => (field w low high).mapError f)
      fun w low high => (field8 w low high).mapError f := by
  refine ⟨?_, ?_⟩
  all_goals simp only [mapError_eq_ok_iff, exists_mapError_eq_error_iff]
  exacts [h.refused, h.value]

/-- on sign extension, -/
theorem ExactExtension.mapError (h : ExactExtension signExtend) (f : ε → ε') :
    ExactExtension fun v width => (signExtend v width).mapError f := by
  refine ⟨?_, ?_, ?_, fun v v' width hv => congrArg _ (h.congr v v' width hv)⟩
  all_goals simp only [mapError_eq_ok_iff, exists_mapError_eq_error_iff]
  exacts [h.refused, h.value, h.wide]

/-- and on an offset. -/
theorem ExactOffset.mapError (h : ExactOffset offset) (f : ε → ε') :
    ExactOffset fun w width => (offset w width).mapError f := by
  refine ⟨?_, ?_⟩
  all_goals simp only [mapError_eq_ok_iff, exists_mapError_eq_error_iff]
  exacts [h.refused, h.value]

end

/-! ## The cuts as they stand

What each cut finds is known from `LC3.Proofs.Field` within the widths of a
word. What is left is which arguments it refuses, and what it does with those
that it takes although they are wider than a word. -/

namespace Word

/-- The two checks are all that refuses a field. -/
theorem exists_field_eq_error_iff (w : Word) (low high : UInt8) :
    (∃ e, w.field low high = .error e) ↔ high < low ∨ 15 < high := by
  unfold field
  split
  next hreversed => exact iff_of_true ⟨_, rfl⟩ (.inl hreversed)
  next hreversed =>
    split
    next hindex => exact iff_of_true ⟨_, rfl⟩ (.inr hindex)
    next hindex => exact iff_of_false (not_exists_error rfl) (·.elim hreversed hindex)

/-- Any other field is found. -/
theorem exists_field_eq_ok (w : Word) {low high : UInt8} (h : low ≤ high) (h15 : high ≤ 15) :
    ∃ bits, w.field low high = .ok bits
      ∧ bits.toNat = w.bits low.toNat (high.toNat - low.toNat + 1) := by
  have h15' : high.toNat ≤ 15 := UInt8.le_iff_toNat_le.1 h15
  refine ⟨_, w.field_eq_ok h h15, toNat_wrap_natCast ?_⟩
  exact (w.bits_lt _ _).trans_le (Nat.pow_le_pow_right (by decide) (by omega))

/-- The bit above a bit that is not the last. -/
theorem toNat_add_one_of_lt {mid high : UInt8} (h : mid < high) :
    (mid + 1).toNat = mid.toNat + 1 := by
  have hlt : mid.toNat < high.toNat := UInt8.lt_iff_toNat_lt.1 h
  have hhigh : high.toNat < 256 := high.toNat_lt
  rw [UInt8.toNat_add]
  show (mid.toNat + 1) % 256 = _
  exact Nat.mod_eq_of_lt (by omega)

/-- **Fields are exact.** The two parts of a field have the widths that add up to its
own, and this is where the bounds on the ends are used. -/
theorem exactField : ExactField Word.field where
  refused := exists_field_eq_error_iff
  value w _ _ h h15 := w.exists_field_eq_ok h h15
  parts w low mid high hlow hmid h15 := by
    have hlow' : low.toNat ≤ mid.toNat := UInt8.le_iff_toNat_le.1 hlow
    have hmid' : mid.toNat < high.toNat := UInt8.lt_iff_toNat_lt.1 hmid
    have hnext := toNat_add_one_of_lt hmid
    have habove : mid + 1 ≤ high := UInt8.le_iff_toNat_le.2 (by omega)
    have hbelow : mid ≤ high := UInt8.le_of_lt hmid
    obtain ⟨whole, hwhole, hw⟩ := w.exists_field_eq_ok (UInt8.le_trans hlow hbelow) h15
    obtain ⟨upper, hupper, hu⟩ := w.exists_field_eq_ok habove h15
    obtain ⟨lower, hlower, hl⟩ := w.exists_field_eq_ok hlow (UInt8.le_trans hbelow h15)
    have hwidth : high.toNat - low.toNat + 1
        = (mid.toNat - low.toNat + 1) + (high.toNat - (mid + 1).toNat + 1) := by omega
    have hplace : (mid + 1).toNat = low.toNat + (mid.toNat - low.toNat + 1) := by omega
    refine ⟨whole, upper, lower, hwhole, hupper, hlower, ?_⟩
    rw [hw, hu, hl, hwidth, bits_add, ← hplace]

/-- A byte field is refused for its width as well. That is looked at in between, so what
the field itself refuses is refused either before or after it. -/
theorem exists_field8_eq_error_iff (w : Word) (low high : UInt8) :
    (∃ e, w.field8 low high = .error e)
      ↔ high < low ∨ 15 < high ∨ 8 ≤ high.toNat - low.toNat := by
  unfold field8
  split
  next hreversed => exact iff_of_true ⟨_, rfl⟩ (.inl hreversed)
  next hreversed =>
    have hwidth : high - low ≥ 8 ↔ 8 ≤ high.toNat - low.toNat := by
      rw [ge_iff_le, UInt8.le_iff_toNat_le, UInt8.toNat_sub_of_le _ _ (UInt8.not_lt.1 hreversed)]
      rfl
    split
    next hwide => exact iff_of_true ⟨_, rfl⟩ (.inr (.inr (hwidth.1 hwide)))
    next hwide =>
      -- what is left to refuse is refused by the field
      have hfield : (∃ e, (w.field low high).map UInt16.toUInt8 = .error e)
          ↔ ∃ e, w.field low high = .error e := by
        cases w.field low high <;> simp [Except.map]
      rw [hfield, exists_field_eq_error_iff]
      exact or_congr_right (or_iff_left (mt hwidth.2 hwide)).symm

/-- **Byte fields are exact**, since eight bits fit a byte. -/
theorem exactByte : ExactByte Word.field Word.field8 where
  refused := exists_field8_eq_error_iff
  value w low high byte hbyte := by
    have htaken := not_exists_error hbyte
    rw [exists_field8_eq_error_iff, not_or, not_or] at htaken
    obtain ⟨hreversed, hindex, hwide⟩ := htaken
    have h : low ≤ high := UInt8.not_lt.1 hreversed
    have h15 : high ≤ 15 := UInt8.not_lt.1 hindex
    have h8 : high.toNat - low.toNat < 8 := Nat.lt_of_not_le hwide
    have hlt : w.bits low.toNat (high.toNat - low.toNat + 1) < UInt8.size :=
      (w.bits_lt _ _).trans_le (Nat.pow_le_pow_right (by decide) h8)
    rw [w.field8_eq_ok h h15 h8] at hbyte
    cases hbyte
    rw [w.field_eq_ok h h15, wrap_natCast, UInt8.toUInt16_ofNat' hlt]

/-- A width is none, one of sixteen, or wider than a word. -/
theorem width_cases (width : UInt8) :
    width = 0 ∨ (0 < width.toNat ∧ width.toNat ≤ 16) ∨ 16 < width := by
  rw [← UInt8.toNat_inj, UInt8.lt_iff_toNat_lt]
  show width.toNat = 0 ∨ _ ∨ 16 < width.toNat
  omega

/-- A width with bits is not zero. -/
theorem ne_zero_of_toNat_pos {width : UInt8} (h : 0 < width.toNat) : width ≠ 0 := by
  rintro rfl
  exact absurd h (by decide)

/-- Nor is one that is wider than a word. -/
theorem ne_zero_of_wide {width : UInt8} (h : 16 < width) : width ≠ 0 :=
  ne_zero_of_toNat_pos (Nat.zero_lt_of_lt (UInt8.lt_iff_toNat_lt.1 h))

/-- A field wider than a word has the word with nothing to extend. -/
theorem signExtend_of_wide (v : Word) {width : UInt8} (h : 16 < width) :
    v.signExtend width = .ok v := by
  unfold signExtend
  rw [if_neg (ne_zero_of_wide h), if_pos (UInt8.le_of_lt h)]

/-- **Sign extension is exact.** The three kinds of width are the three cases of every
field. -/
theorem exactExtension : ExactExtension Word.signExtend where
  refused v width := by
    rcases width_cases width with rfl | ⟨h0, h16⟩ | hwide
    · exact iff_of_true ⟨_, rfl⟩ rfl
    · have hok := v.signExtend_eq_ok h0 h16
      exact iff_of_false (not_exists_error hok) (ne_zero_of_toNat_pos h0)
    · have hok := v.signExtend_of_wide hwide
      exact iff_of_false (not_exists_error hok) (ne_zero_of_wide hwide)
  value v width h1 h16 := by
    have h0 : 0 < width.toNat := UInt8.le_iff_toNat_le.1 h1
    have hle : width.toNat ≤ 16 := UInt8.le_iff_toNat_le.1 h16
    have hreads : v.ReadsAs width.toNat (v.signedBits width.toNat) := (readsAs_iff h0).2 rfl
    refine ⟨_, v.signExtend_eq_ok h0 hle, fun n => ?_⟩
    rw [hreads.signed_wrap hle, readsAs_iff h0]
  wide v _ h := v.signExtend_of_wide h
  congr v v' width h := by
    rcases width_cases width with rfl | ⟨h0, h16⟩ | hwide
    · rfl
    · rw [v.signExtend_eq_ok h0 h16, v'.signExtend_eq_ok h0 h16, signedBits_congr h]
    · -- a field of more than sixteen bits leaves no bits above it
      have hle : 2 ^ 16 ≤ 2 ^ width.toNat :=
        Nat.pow_le_pow_right (by decide) (UInt8.lt_iff_toNat_lt.1 hwide).le
      rw [Nat.mod_eq_of_lt (v.toNat_lt.trans_le hle), Nat.mod_eq_of_lt (v'.toNat_lt.trans_le hle),
        UInt16.toNat_inj] at h
      rw [h]

/-- An offset wider than a word asks for a bit that no word has. -/
theorem offset_of_wide (w : Word) {width : UInt8} (h : 16 < width) :
    w.offset width = .error (.bitIndex (width - 1)) := by
  have hne := ne_zero_of_wide h
  have hlt : 16 < width.toNat := UInt8.lt_iff_toNat_lt.1 h
  have hindex : 15 < width - 1 := by
    rw [UInt8.lt_iff_toNat_lt, UInt8.toNat_sub_of_le _ _ (Checked.one_le_of_ne_zero hne)]
    show 15 < width.toNat - 1
    omega
  unfold offset field
  rw [if_neg hne, if_neg (UInt8.not_lt.2 UInt8.zero_le), if_pos hindex]
  rfl

/-- **Offsets are exact.** An address plus the word of a number is the word of their
sum, so nothing has to be said of where it wraps around. -/
theorem exactOffset : ExactOffset Word.offset where
  refused w width := by
    rcases width_cases width with rfl | ⟨h0, h16⟩ | hwide
    · exact iff_of_true ⟨_, rfl⟩ (.inl rfl)
    · have hok := w.offset_eq_ok width h0 h16
      have hle : width ≤ 16 := UInt8.le_iff_toNat_le.2 h16
      exact iff_of_false (not_exists_error hok)
        (·.elim (ne_zero_of_toNat_pos h0) (UInt8.not_lt.2 hle))
    · exact iff_of_true ⟨_, w.offset_of_wide hwide⟩ (.inr hwide)
  value w width h1 h16 := by
    have h0 : 0 < width.toNat := UInt8.le_iff_toNat_le.1 h1
    have hle : width.toNat ≤ 16 := UInt8.le_iff_toNat_le.1 h16
    refine ⟨_, _, w.offset_eq_ok width h0 hle, (readsAs_iff h0).2 rfl, fun x => ?_⟩
    rw [← toNat_wrap, wrap_add, wrap_toNat]

end Word

/-! ## The cuts with all arithmetic checked

Each of them is the cut above with its refusals under other names
(`Checked.field_eq` and so on), and the conditions do not depend on the names. -/

namespace Checked

/-- A checked cut is the cut with its refusals under other names. -/
theorem exactField : ExactField field := by
  have h := Word.exactField.mapError Refusal.ofViolation
  simp only [← field_eq] at h
  exact h

/-- So is the cut of a byte, which is a field under another bound. -/
theorem exactByte : ExactByte field field8 := by
  have h := Word.exactByte.mapError Refusal.ofViolation
  simp only [← field_eq, ← field8_eq] at h
  exact h

/-- So is the extension of a sign. -/
theorem exactExtension : ExactExtension signExtend := by
  have h := Word.exactExtension.mapError Refusal.ofViolation
  simp only [← signExtend_eq] at h
  exact h

/-- And so is the cut of an offset, which is made of the two. -/
theorem exactOffset : ExactOffset offset := by
  have h := Word.exactOffset.mapError Refusal.ofViolation
  simp only [← offset_eq] at h
  exact h

end Checked

namespace Word

/-- **The cuts are exact for all arguments**, and they are so with all of their
arithmetic checked. A field is refused exactly if its ends are in the wrong order or
past the end of the word, is a quotient and a remainder otherwise, and is made up of
its parts; a byte field is the same number. Sign extension finds the one number that
a field says in two's complement, whatever the bits above the field, and an offset
moves every address by that number, modulo `2 ^ 16`. -/
theorem cuts_are_exact :
    (ExactField Word.field
        ∧ ExactByte Word.field Word.field8
        ∧ ExactExtension Word.signExtend
        ∧ ExactOffset Word.offset)
      ∧ ExactField Checked.field
        ∧ ExactByte Checked.field Checked.field8
        ∧ ExactExtension Checked.signExtend
        ∧ ExactOffset Checked.offset :=
  ⟨⟨exactField, exactByte, exactExtension, exactOffset⟩,
    Checked.exactField, Checked.exactByte, Checked.exactExtension, Checked.exactOffset⟩

/-- Nine bits that say minus three, whatever stands above them, move an address back
across zero; and a whole word is made up of these nine and the seven above. -/
theorem cuts_are_exact_backwards :
    (∃ extended, Checked.signExtend 0x0FFD 9 = .ok extended ∧ extended.signed = -3)
      ∧ (∃ distance, Checked.offset 0x0FFD 9 = .ok distance
        ∧ ((0x0002 : Word) + distance).toNat = 0xFFFF)
      ∧ ∃ whole upper lower, Checked.field 0x0FFD 0 15 = .ok whole
        ∧ Checked.field 0x0FFD 9 15 = .ok upper
        ∧ Checked.field 0x0FFD 0 8 = .ok lower
        ∧ whole.toNat = upper.toNat * 2 ^ 9 + lower.toNat := by
  have hreads : ReadsAs 0x0FFD 9 (-3) := ⟨by decide, by decide, by decide⟩
  obtain ⟨hfield, -, hextension, hoffset⟩ := cuts_are_exact.2
  obtain ⟨extended, hextended, hunique⟩ := hextension.value 0x0FFD 9 (by decide) (by decide)
  obtain ⟨distance, n, hdistance, hn, hmoves⟩ := hoffset.value 0x0FFD 9 (by decide) (by decide)
  have hnine : 0 < 9 := by decide
  have heq : n = -3 := ((readsAs_iff hnine).1 hn).symm.trans ((readsAs_iff hnine).1 hreads)
  have hmoved : (((0x0002 : Word) + distance).toNat : Int) = 0xFFFF := by
    rw [hmoves 0x0002, heq]
    rfl
  refine ⟨⟨extended, hextended, (hunique (-3)).2 hreads⟩,
    ⟨distance, hdistance, by exact_mod_cast hmoved⟩, ?_⟩
  exact hfield.parts 0x0FFD 0 8 15 (by decide) (by decide) (by decide)

end Word

end LC3
