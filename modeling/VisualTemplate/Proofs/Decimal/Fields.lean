import VisualTemplate.Proofs.Decimal.Layout
import VisualTemplate.Proofs.Decimal.Single
/-!
The fields of a number's bits.

Texts are made from the fraction of a number, and arithmetic works with the unpacked number. Both
are read off the same fields of its bits, so that a finite number is known from its fraction, and the
value of a fraction is that of the number.
-/

namespace VisualTemplate.Decimal

open Float.Model Float.Model.UnpackedFloat

lemma toNat_unpackMantissa (b : BitVec 32) :
    (@unpackMantissa .binary32 b).toNat = b.toNat % 2 ^ 23 := by
  simp [unpackMantissa, Format.binary32]

lemma toNat_unpackExponent (b : BitVec 32) :
    (@unpackExponent .binary32 b).toNat = b.toNat / 2 ^ 23 % 2 ^ 8 := by
  simp [unpackExponent, Format.binary32, Nat.shiftRight_eq_div_pow]

lemma toNat_unpackSign (b : BitVec 32) :
    (@unpackSign .binary32 b).toNat = b.toNat / 2 ^ 31 % 2 := by
  simp [unpackSign, Format.binary32, Nat.shiftRight_eq_div_pow]

lemma ofBitVec_beq (v : BitVec 1) : (Sign.ofBitVec v == .negative) = (v.toNat == 1) := by
  obtain rfl | rfl : v = 0#1 ∨ v = 1#1 := by
    have hv := v.isLt
    rw [← BitVec.toNat_inj, ← BitVec.toNat_inj]
    simp
    omega
  all_goals rfl

/-- The fraction of an unpacked number. -/
def Binary.ofUnpacked : UnpackedFloat → Binary
  | .notANumber => .nan
  | .infinity s => .infinite (s == .negative)
  | .zero s => .finite (s == .negative) 0 Width.single.least
  | .finite s m e _ => .finite (s == .negative) m e

lemma ofBits_single (n : ℕ) : Binary.ofBits .single n =
    if n / 2 ^ 23 % 2 ^ 8 = 2 ^ 8 - 1 then
      if n % 2 ^ 23 = 0 then .infinite (n / 2 ^ 31 % 2 == 1) else .nan
    else if n / 2 ^ 23 % 2 ^ 8 = 0 then .finite (n / 2 ^ 31 % 2 == 1) (n % 2 ^ 23) (-149)
    else .finite (n / 2 ^ 31 % 2 == 1) (n % 2 ^ 23 + 2 ^ 23)
      (-149 + ((n / 2 ^ 23 % 2 ^ 8 : ℕ) - 1)) := rfl

/-- The fields of the bits are read in the same way. -/
lemma ofBits_toNat (b : BitVec 32) :
    Binary.ofBits .single b.toNat = .ofUnpacked (UnpackedFloat.unpack .binary32 b) := by
  have hlast : @unpackExponent .binary32 b = -1#8 ↔ b.toNat / 2 ^ 23 % 2 ^ 8 = 2 ^ 8 - 1 := by
    rw [← toNat_unpackExponent, ← BitVec.toNat_inj]
    rfl
  have hfirst : @unpackExponent .binary32 b = 0#8 ↔ b.toNat / 2 ^ 23 % 2 ^ 8 = 0 := by
    rw [← toNat_unpackExponent, ← BitVec.toNat_inj]
    rfl
  have hnone : @unpackMantissa .binary32 b = 0#23 ↔ b.toNat % 2 ^ 23 = 0 := by
    rw [← toNat_unpackMantissa, ← BitVec.toNat_inj]
    rfl
  have hsign : (Sign.ofBitVec (@unpackSign .binary32 b) == .negative) =
      (b.toNat / 2 ^ 31 % 2 == 1) := by
    rw [ofBitVec_beq, toNat_unpackSign]
  rw [ofBits_single, UnpackedFloat.unpack]
  simp only [hlast, hfirst, hnone]
  by_cases hinfinite : b.toNat / 2 ^ 23 % 2 ^ 8 = 2 ^ 8 - 1
  · rw [if_pos hinfinite, if_pos hinfinite]
    split
    · rw [Binary.ofUnpacked, hsign]
    · rw [Binary.ofUnpacked]
  rw [if_neg hinfinite, if_neg hinfinite]
  by_cases hsmall : b.toNat / 2 ^ 23 % 2 ^ 8 = 0
  · rw [if_pos hsmall, if_pos hsmall]
    split
    · next hzero => rw [Binary.ofUnpacked, hsign, hzero, least_single]
    · rw [Binary.ofUnpacked, hsign, toNat_unpackMantissa, toNat_unpackExponent, hsmall]
      rfl
  · have hexponent : (-149 : ℤ) + ((b.toNat / 2 ^ 23 % 2 ^ 8 : ℕ) - 1) =
        (b.toNat / 2 ^ 23 % 2 ^ 8 : ℕ) - (127 + 23) := by ring
    rw [if_neg hsmall, if_neg hsmall, Binary.ofUnpacked, hsign, toNat_one_append,
      toNat_unpackMantissa, toNat_unpackExponent, add_comm, hexponent]
    rfl

end VisualTemplate.Decimal

namespace Float32

open VisualTemplate.Decimal
open Float.Model Float.Model.UnpackedFloat

variable {x y : Float32} {n : Bool} {m : ℕ} {e : ℤ} {v : ℚ}

/-! ### Numbers and their fractions -/

lemma binary_eq (x : Float32) : x.binary = .ofUnpacked x.toModel.unpack :=
  ofBits_toNat x.toModel.toBits.toBitVec

/-- A finite number is unpacked as a zero or with the significand of its fraction. -/
lemma unpack_of_binary (hx : x.binary = .finite n m e) :
    (∃ s, x.toModel.unpack = .zero s ∧ n = (s == .negative) ∧ m = 0 ∧ e = -149) ∨
      ∃ s hm, x.toModel.unpack = .finite s m e hm ∧ n = (s == .negative) := by
  rw [binary_eq] at hx
  cases hu : x.toModel.unpack with
  | notANumber => rw [hu] at hx; cases hx
  | infinity s => rw [hu] at hx; cases hx
  | zero s =>
    rw [hu] at hx
    obtain ⟨rfl, rfl, rfl⟩ := Binary.finite.inj hx
    exact .inl ⟨s, rfl, rfl, rfl, least_single⟩
  | finite s m' e' hm =>
    rw [hu] at hx
    obtain ⟨rfl, rfl, rfl⟩ := Binary.finite.inj hx
    exact .inr ⟨s, hm, rfl, rfl⟩

/-- A finite number is known from its fraction. -/
lemma eq_of_binary (hx : x.binary = .finite n m e) (hy : y.binary = .finite n m e) : x = y := by
  have hbound (z : Float32) :
      z.toBits.toNat < 2 ^ (Width.single.fraction + Width.single.exponent + 1) := z.toBits.toNat_lt
  exact Float32.toBits_inj.1 (UInt32.toNat_inj.1 (ofBits_inj (hbound x) (hbound y) hx hy))

lemma is_of_binary (hx : x.binary = .finite false m e) : x.Is (m * 2 ^ e) := by
  obtain ⟨s, hu, -, rfl, -⟩ | ⟨s, hm, hu, hs⟩ := unpack_of_binary hx
  · rw [Is, hu, Nat.cast_zero, zero_mul]
    exact .zero s
  · cases s with
    | negative => cases hs
    | positive => exact is_of_unpack m e hm hu rfl

/-- The fraction of a number is known from its value, unless that is zero. -/
lemma Is.binary (hx : x.Is (m * 2 ^ e)) (hm : 0 < m) (hc : Canonical .single m e) :
    x.binary = .finite false m e := by
  rw [binary_eq]
  unfold Is at hx
  generalize x.toModel.unpack = u at hx
  generalize hv : (m : ℚ) * 2 ^ e = v at hx
  cases hx with
  | zero s =>
    have hpos : (0 : ℚ) < m * 2 ^ e := by positivity
    exact absurd hv hpos.ne'
  | finite hm' hc' =>
    obtain ⟨rfl, rfl⟩ := eq_of_value_eq hc hc' hm hm' hv
    rfl

lemma Is.exists_binary (hx : x.Is v) : ∃ n m e, x.binary = .finite n m e := by
  rw [binary_eq]
  unfold Is at hx
  generalize x.toModel.unpack = u at hx
  cases hx with
  | zero s => exact ⟨_, _, _, rfl⟩
  | finite hm hc => exact ⟨_, _, _, rfl⟩

lemma binary_neg (hx : x.binary = .finite n m e) : (-x).binary = .finite (!n) m e := by
  have hneg : (-x).toModel = .pack x.toModel.unpack.neg := rfl
  rw [binary_eq, hneg]
  obtain ⟨s, hu, rfl, rfl, rfl⟩ | ⟨s, hm, hu, rfl⟩ := unpack_of_binary hx
  · rw [hu, UnpackedFloat.neg, unpack_pack_zero]
    cases s <;> rfl
  · rw [hu, UnpackedFloat.neg, unpack_pack_finite hm (canonical_unpack hu) (le_of_unpack hu)]
    cases s <;> rfl

/-- Finite numbers are not too large. -/
lemma lt_of_binary (hx : x.binary = .finite n m e) : (m : ℚ) * 2 ^ e < 2 ^ 128 := by
  obtain ⟨s, hu, rfl, rfl, rfl⟩ | ⟨s, hm, hu, rfl⟩ := unpack_of_binary hx
  · norm_num
  · exact lt_of_exponent_le (canonical_unpack hu) (le_of_unpack hu)

end Float32
