import Mathlib
import VisualTemplate.Proofs.Decimal.Rounding
/-!
Single-precision arithmetic on numbers that are not negative, over the rationals.

Sums, differences, products and quotients are the rounded exact ones, comparisons are those of the
values, and a value is cut off or brought to the nearest whole number as its fraction says. So each
of these operations keeps the order of numbers.
-/

namespace VisualTemplate.Decimal

open Float.Model Float.Model.UnpackedFloat

/-! ### Values of unpacked numbers -/

namespace Has

variable {u v : UnpackedFloat} {x y : ℚ}

lemma nonneg (h : Has u x) : 0 ≤ x := by
  cases h with
  | zero s => exact le_rfl
  | finite hm hc => positivity

/-- A value needs no rounding. -/
lemma rounded_eq (h : Has u x) : rounded x = x := by
  cases h with
  | zero s => exact rounded_zero
  | finite hm hc => exact rounded_canonical hc

lemma lt_of_exponent_lt {m m' : ℕ} {e e' : ℤ} (hm : 0 < m) (hm' : 0 < m')
    (hc : Canonical .single m e) (hc' : Canonical .single m' e') (h : e < e') :
    (m : ℚ) * 2 ^ e < m' * 2 ^ e' := by
  by_contra hle
  have hplace := lastPlace_mono (by positivity) (not_lt.1 hle)
  rw [lastPlace_canonical hm hc, lastPlace_canonical hm' hc'] at hplace
  omega

/-- Exponents and then significands are compared like the values. -/
lemma compare_finite {m m' : ℕ} {e e' : ℤ} (hm : 0 < m) (hm' : 0 < m')
    (hc : Canonical .single m e) (hc' : Canonical .single m' e') :
    (compare e e').then (compare m m') = compare ((m : ℚ) * 2 ^ e) (m' * 2 ^ e') := by
  rcases lt_trichotomy e e' with hlt | rfl | hgt
  · rw [compare_lt_iff_lt.2 hlt, compare_lt_iff_lt.2 (lt_of_exponent_lt hm hm' hc hc' hlt)]
    rfl
  · rw [compare_eq_iff_eq.2 rfl]
    have hpos : (0 : ℚ) < 2 ^ e := by positivity
    rcases lt_trichotomy m m' with hlt | rfl | hgt
    · rw [compare_lt_iff_lt.2 hlt, compare_lt_iff_lt.2 (by gcongr)]
      rfl
    · rw [compare_eq_iff_eq.2 rfl, compare_eq_iff_eq.2 rfl]
      rfl
    · rw [compare_gt_iff_gt.2 hgt, compare_gt_iff_gt.2 (by gcongr)]
      rfl
  · rw [compare_gt_iff_gt.2 hgt, compare_gt_iff_gt.2 (lt_of_exponent_lt hm' hm hc' hc hgt)]
    rfl

lemma compare_eq (hu : Has u x) (hv : Has v y) : u.compare v = some (compare x y) := by
  cases hu with
  | zero s =>
    cases hv with
    | zero s' =>
      rw [compare_eq_iff_eq.2 rfl]
      rfl
    | finite hm' hc' =>
      rw [compare_lt_iff_lt.2 (by positivity)]
      rfl
  | finite hm hc =>
    cases hv with
    | zero s' =>
      rw [compare_gt_iff_gt.2 (by positivity)]
      rfl
    | finite hm' hc' => exact congrArg some (compare_finite hm hm' hc hc')

/-- Twice a number is one digit further up, or has one digit more. -/
lemma rounded_add_self (h : Has u x) : rounded (x + x) = x + x := by
  cases h with
  | zero s => rw [add_zero, rounded_zero]
  | @finite m e hm hc =>
    have hlt : m < 2 ^ 24 := hc.lt
    have hleast : -149 ≤ e := least_single.symm.trans_le hc.least_le
    by_cases hfull : 2 ^ 23 ≤ m
    · have htwice : (m : ℚ) * 2 ^ e + m * 2 ^ e = m * 2 ^ (e + 1) := by
        rw [zpow_add_one₀ (by norm_num)]
        ring
      rw [htwice]
      exact rounded_canonical (canonical_single hlt (by omega) fun _ => hfull)
    · have hsmall : ¬ -149 < e := fun h => hfull (hc.le_of_least_lt (least_single ▸ h))
      have htwice : (m : ℚ) * 2 ^ e + m * 2 ^ e = (2 * m : ℕ) * 2 ^ e := by
        push_cast
        ring
      rw [htwice]
      exact rounded_canonical (canonical_single (by omega) hleast fun h => absurd h hsmall)

/-- Half of a number that is not too small is one digit further down. -/
lemma rounded_half (h : Has u x) (hx : 2 ^ (-125 : ℤ) ≤ x) : rounded (x / 2) = x / 2 := by
  cases h with
  | zero s => exact absurd hx (not_le.2 (by positivity))
  | @finite m e hm hc =>
    have hlt : m < 2 ^ 24 := hc.lt
    have hexponent : -149 < e := by
      by_contra hle
      have hvalue : (m : ℚ) * 2 ^ e < 2 ^ (-125 : ℤ) := by
        calc (m : ℚ) * 2 ^ e < (2 ^ 24 : ℕ) * 2 ^ e := by
              gcongr
          _ ≤ (2 ^ 24 : ℕ) * 2 ^ (-149 : ℤ) := by
              gcongr
              · norm_num
              · omega
          _ = 2 ^ (-125 : ℤ) := by norm_num
      exact absurd hx (not_le.2 hvalue)
    have hfull : 2 ^ 23 ≤ m := hc.le_of_least_lt (least_single ▸ hexponent)
    have hhalf : (m : ℚ) * 2 ^ e / 2 = m * 2 ^ (e - 1) := by
      rw [zpow_sub_one₀ (by norm_num)]
      ring
    rw [hhalf]
    exact rounded_canonical (canonical_single hlt (by omega) fun _ => hfull)

/-! ### Arithmetic -/

lemma decreaseExponent_of_le {m : ℕ} {e t : ℤ} (h : t ≤ e) :
    ((decreaseExponent m e t).1 : ℚ) * 2 ^ t = m * 2 ^ e := by
  have hexponent : (decreaseExponent m e t).2 = t := by
    simp only [decreaseExponent]
    omega
  have hvalue := decreaseExponent_value m e t
  rwa [hexponent] at hvalue

lemma add (hu : Has u x) (hv : Has v y) :
    Has (UnpackedFloat.add .binary32 u v) (rounded (x + y)) := by
  cases hu with
  | zero s =>
    rw [zero_add, hv.rounded_eq]
    cases hv with
    | zero s' =>
      simp only [UnpackedFloat.add]
      split <;> exact .zero _
    | finite hm' hc' => exact .finite hm' hc'
  | @finite m e hm hc =>
    cases hv with
    | zero s' =>
      rw [add_zero, rounded_canonical hc]
      exact .finite hm hc
    | @finite m' e' hm' hc' =>
      have hsum := has_normalize (e := min e e')
        (n := (decreaseExponent m e (min e e')).1 + (decreaseExponent m' e' (min e e')).1)
        (by positivity)
      push_cast at hsum
      rw [add_mul, decreaseExponent_of_le (min_le_left e e'),
        decreaseExponent_of_le (min_le_right e e')] at hsum
      exact hsum

lemma sub (hu : Has u x) (hv : Has v y) (h : y ≤ x) :
    Has (UnpackedFloat.sub .binary32 u v) (rounded (x - y)) := by
  cases hv with
  | zero s' =>
    rw [sub_zero, hu.rounded_eq]
    cases hu with
    | zero s =>
      simp only [UnpackedFloat.sub]
      split <;> exact .zero _
    | finite hm hc => exact .finite hm hc
  | @finite m' e' hm' hc' =>
    cases hu with
    | zero s => exact absurd h (not_le.2 (by positivity))
    | @finite m e hm hc =>
      have hleft := decreaseExponent_of_le (m := m) (min_le_left e e')
      have hright := decreaseExponent_of_le (m := m') (min_le_right e e')
      have hdifference := has_normalize (e := min e e')
        (n := (decreaseExponent m e (min e e')).1 - (decreaseExponent m' e' (min e e')).1)
        (by
          rw [← hleft, ← hright] at h
          have hplace : (0 : ℚ) < 2 ^ min e e' := by positivity
          have hle := le_of_mul_le_mul_right h hplace
          exact sub_nonneg.2 (mod_cast hle))
      push_cast at hdifference
      rw [sub_mul, hleft, hright] at hdifference
      exact hdifference

lemma le_lastPlace {e : ℤ} (hx : 0 < x) (h : 2 ^ (23 + e) ≤ x) : e ≤ lastPlace x := by
  have hlog : 23 + e ≤ Int.log 2 x := by
    rw [← Int.zpow_le_iff_le_log (by norm_num) hx]
    exact mod_cast h
  unfold lastPlace
  omega

/-- A product of significands goes to the last place: one of them has all its digits, or both
numbers are below the smallest last place. -/
lemma le_lastPlace_mul {m m' : ℕ} {e e' : ℤ} (hm : 0 < m) (hm' : 0 < m')
    (hc : Canonical .single m e) (hc' : Canonical .single m' e') :
    e + e' ≤ lastPlace ((m * 2 ^ e : ℚ) * (m' * 2 ^ e')) := by
  by_cases hfull : 2 ^ 23 ≤ m * m'
  · refine le_lastPlace (by positivity) ?_
    calc (2 : ℚ) ^ (23 + (e + e')) = (2 ^ 23 : ℕ) * (2 ^ e * 2 ^ e') := by
          rw [zpow_add₀ (by norm_num), zpow_add₀ (by norm_num)]
          norm_num
      _ ≤ (m * m' : ℕ) * (2 ^ e * 2 ^ e') := by gcongr
      _ = (m * 2 ^ e : ℚ) * (m' * 2 ^ e') := by
          push_cast
          ring
  · have hleft : ¬ 2 ^ 23 ≤ m := fun h => hfull (h.trans (Nat.le_mul_of_pos_right m hm'))
    have hright : ¬ 2 ^ 23 ≤ m' := fun h => hfull (h.trans (Nat.le_mul_of_pos_left m' hm))
    have he := mt hc.le_of_least_lt hleft
    have he' := mt hc'.le_of_least_lt hright
    rw [least_single] at he he'
    unfold lastPlace
    omega

lemma mul_finite {m m' : ℕ} {e e' : ℤ} (hm : 0 < m) (hm' : 0 < m')
    (h : e + e' ≤ lastPlace ((m * 2 ^ e : ℚ) * (m' * 2 ^ e'))) :
    Has (UnpackedFloat.mul .binary32 (.finite .positive m e hm) (.finite .positive m' e' hm'))
      (rounded ((m * 2 ^ e : ℚ) * (m' * 2 ^ e'))) := by
  have hvalue : (m * m' : ℕ) * 2 ^ (e + e') = (m * 2 ^ e : ℚ) * (m' * 2 ^ e') := by
    rw [zpow_add₀ (by norm_num)]
    push_cast
    ring
  refine has_roundWithAccuracy (by positivity) ?_ h
  rw [← hvalue, mul_div_cancel_right₀ _ (by positivity)]
  exact .exact _

lemma mul (hu : Has u x) (hv : Has v y) :
    Has (UnpackedFloat.mul .binary32 u v) (rounded (x * y)) := by
  cases hu with
  | zero s =>
    rw [zero_mul, rounded_zero]
    cases hv <;> exact .zero _
  | finite hm hc =>
    cases hv with
    | zero s' =>
      rw [mul_zero, rounded_zero]
      exact .zero _
    | finite hm' hc' => exact mul_finite hm hm' (le_lastPlace_mul hm hm' hc hc')

/-- A quotient is computed at least to its last place. -/
lemma le_lastPlace_div {m m' : ℕ} {e e' : ℤ} (hm : 0 < m) (hm' : 0 < m') :
    Format.binary32.targetExponent (totalExponent m e - totalExponent m' e') ≤
      lastPlace ((m * 2 ^ e : ℚ) / (m' * 2 ^ e')) := by
  have hupper : (m' : ℚ) * 2 ^ e' ≤ 2 ^ (m'.log2 + 1 + e') := by
    rw [zpow_add₀ (by norm_num)]
    gcongr
    exact mod_cast Nat.lt_log2_self.le
  have hlower : (2 : ℚ) ^ (m.log2 + e) ≤ m * 2 ^ e := by
    rw [zpow_add₀ (by norm_num), zpow_natCast]
    gcongr
    exact mod_cast Nat.log2_self_le hm.ne'
  have hlog : (m.log2 + e) - (m'.log2 + 1 + e') ≤ Int.log 2 ((m * 2 ^ e : ℚ) / (m' * 2 ^ e')) := by
    rw [← Int.zpow_le_iff_le_log (by norm_num) (by positivity)]
    push_cast
    rw [zpow_sub₀ (by norm_num)]
    gcongr
  simp only [Format.targetExponent, totalExponent, Format.mantissaBits, Format.minExponent,
    lastPlace]
  norm_num at hlog ⊢
  omega

lemma div_finite {m m' : ℕ} {e e' : ℤ} (hm : 0 < m) (hm' : 0 < m') :
    Has (UnpackedFloat.div .binary32 (.finite .positive m e hm) (.finite .positive m' e' hm'))
      (rounded ((m * 2 ^ e) / (m' * 2 ^ e'))) := by
  set t := min (e - e')
    (Format.binary32.targetExponent (totalExponent m e - totalExponent m' e')) with ht
  have hvalue : ((m <<< (e - e' - t).toNat : ℕ) : ℚ) / m' =
      (m * 2 ^ e) / (m' * 2 ^ e') / 2 ^ t := by
    have hshift : (((e - e' - t).toNat : ℕ) : ℤ) = e - e' - t := by omega
    rw [Nat.shiftLeft_eq]
    push_cast
    rw [← zpow_natCast, hshift, zpow_sub₀ (by norm_num), zpow_sub₀ (by norm_num)]
    field_simp
  refine has_roundWithAccuracy (by positivity) ?_ ?_
  · rw [← ht, ← hvalue]
    exact .quotient _ m' hm'
  · exact (min_le_right _ _).trans (le_lastPlace_div hm hm')

lemma div (hu : Has u x) (hv : Has v y) (h : 0 < y) :
    Has (UnpackedFloat.div .binary32 u v) (rounded (x / y)) := by
  cases hv with
  | zero s' => exact absurd h (lt_irrefl 0)
  | finite hm' hc' =>
    cases hu with
    | zero s =>
      rw [zero_div, rounded_zero]
      exact .zero _
    | finite hm hc => exact div_finite hm hm'

end Has

/-- What stands behind the point is shifted out. -/
lemma roundToInt_eq {m : ℕ} {e : ℤ} : roundToInt .positive m e = ⌊(m : ℚ) * 2 ^ e⌋₊ := by
  have hexponent : (decreaseExponent m e 0).2 = -((0 - (decreaseExponent m e 0).2).toNat : ℤ) := by
    simp only [decreaseExponent]
    omega
  have hread := (Reads.exact (decreaseExponent m e 0).1).shiftRight
    (0 - (decreaseExponent m e 0).2).toNat
  rw [div_eq_mul_inv, ← zpow_natCast, ← zpow_neg, ← hexponent, decreaseExponent_value] at hread
  rw [hread.floor_eq]
  rfl

/-! ### Packing -/

lemma exponent_le {m : ℕ} {e : ℤ} (hm : 0 < m) (hc : Canonical .single m e)
    (hlt : (m : ℚ) * 2 ^ e < 2 ^ 128) : e ≤ 104 := by
  by_contra hgt
  have hfull : 2 ^ 23 ≤ m := hc.le_of_least_lt (by rw [least_single]; omega)
  have hle : (2 : ℚ) ^ 128 ≤ m * 2 ^ e := by
    calc (2 : ℚ) ^ 128 = (2 ^ 23 : ℕ) * 2 ^ (105 : ℤ) := by norm_num
      _ ≤ m * 2 ^ e := by
        gcongr
        · norm_num
        · omega
  linarith

lemma lt_of_exponent_le {m : ℕ} {e : ℤ} (hc : Canonical .single m e) (he : e ≤ 104) :
    (m : ℚ) * 2 ^ e < 2 ^ 128 := by
  have hlt : m < 2 ^ 24 := hc.lt
  calc (m : ℚ) * 2 ^ e < (2 ^ 24 : ℕ) * 2 ^ e := by gcongr
    _ ≤ (2 ^ 24 : ℕ) * 2 ^ (104 : ℤ) := by
      gcongr
      norm_num
    _ = 2 ^ 128 := by norm_num

lemma toNat_one_append (b : BitVec 23) : (1#1 ++ b).toNat = 2 ^ 23 + b.toNat := by
  rw [BitVec.toNat_append, ← Nat.shiftLeft_add_eq_or_of_lt b.isLt]
  simp [Nat.shiftLeft_eq]

/-- What is unpacked has all its digits, or is below the smallest last place. -/
lemma canonical_unpack {b : BitVec 32} {s : Sign} {m : ℕ} {e : ℤ} {hm : 0 < m}
    (h : UnpackedFloat.unpack .binary32 b = .finite s m e hm) : Canonical .single m e := by
  have hmantissa : (@unpackMantissa .binary32 b).toNat < 2 ^ 23 := BitVec.isLt _
  unfold UnpackedFloat.unpack at h
  simp only [Format.exponentBias] at h
  split at h
  · split at h <;> cases h
  · split at h
    · next hfirst =>
      split at h
      · cases h
      · simp only [UnpackedFloat.finite.injEq] at h
        obtain ⟨-, rfl, rfl⟩ := h
        rw [hfirst]
        exact canonical_single (by omega) (by simp) (by simp)
    · next hfirst =>
      have hpos : (@unpackExponent .binary32 b).toNat ≠ 0 := by
        rwa [← BitVec.toNat_inj] at hfirst
      simp only [UnpackedFloat.finite.injEq, toNat_one_append] at h
      obtain ⟨-, rfl, rfl⟩ := h
      exact canonical_single (by omega) (by omega) (by omega)

/-- What is unpacked is not too large. -/
lemma le_of_unpack {b : BitVec 32} {s : Sign} {m : ℕ} {e : ℤ} {hm : 0 < m}
    (h : UnpackedFloat.unpack .binary32 b = .finite s m e hm) : e ≤ 104 := by
  have hexponent : (@unpackExponent .binary32 b).toNat < 2 ^ 8 := BitVec.isLt _
  unfold UnpackedFloat.unpack at h
  simp only [Format.exponentBias] at h
  split at h
  · split at h <;> cases h
  · next hlast =>
    split at h
    · next hfirst =>
      split at h
      · cases h
      · simp only [UnpackedFloat.finite.injEq] at h
        obtain ⟨-, -, rfl⟩ := h
        rw [hfirst]
        norm_num
    · have hlast : (@unpackExponent .binary32 b).toNat ≠ 2 ^ 8 - 1 := by
        intro heq
        refine hlast (BitVec.eq_of_toNat_eq ?_)
        rw [heq]
        rfl
      simp only [UnpackedFloat.finite.injEq] at h
      obtain ⟨-, -, rfl⟩ := h
      omega

lemma unpack_lt {b : BitVec 32} {x : ℚ} (h : Has (UnpackedFloat.unpack .binary32 b) x) :
    x < 2 ^ 128 := by
  generalize hu : UnpackedFloat.unpack .binary32 b = u at h
  cases h with
  | zero s => norm_num
  | @finite m e hm hc => exact lt_of_exponent_le hc (le_of_unpack hu)

/-- Packing loses nothing of a number that is not too large. -/
lemma unpack_pack_finite {s : Sign} {m : ℕ} {e : ℤ} (hm : 0 < m) (hc : Canonical .single m e)
    (hmost : e ≤ 104) : (Float32.Model.pack (.finite s m e hm)).unpack = .finite s m e hm := by
  show UnpackedFloat.unpack .binary32 (UnpackedFloat.pack .binary32 (.finite s m e hm)) = _
  have hlt : m < 2 ^ 24 := hc.lt
  have hleast : -149 ≤ e := least_single.symm.trans_le hc.least_le
  obtain ⟨b, hb⟩ : ∃ b : ℕ, e + 150 = b := ⟨(e + 150).toNat, by omega⟩
  have hbias : (e + Format.binary32.exponentBias +
      Format.binary32.mantissaBitsWithoutImplicit).toNat = b := by
    simp only [Format.exponentBias]
    omega
  have hfits : ¬ 2 ^ Format.binary32.exponentBits ≤ b + 1 := by
    simp only [not_le]
    omega
  rw [UnpackedFloat.pack]
  simp only [hbias, if_neg hfits]
  by_cases hfull : 2 ^ 23 ≤ m
  · -- the leading digit is not written
    have hlog : m.log2 + 1 = Format.binary32.mantissaBits := by
      have hlower := (Nat.le_log2 hm.ne').2 hfull
      have hupper := (Nat.log2_lt hm.ne').2 hlt
      simp only [Format.mantissaBits]
      omega
    have hexponent : (BitVec.ofNat 8 b).toNat = b := by
      rw [BitVec.toNat_ofNat, Nat.mod_eq_of_lt (by omega)]
    have hmantissa : (1#1 ++ BitVec.ofNat 23 m).toNat = m := by
      rw [toNat_one_append, BitVec.toNat_ofNat]
      omega
    have hnotlast : BitVec.ofNat 8 b ≠ -1#8 := by
      rw [Ne, ← BitVec.toNat_inj, hexponent]
      simp
      omega
    have hnotfirst : BitVec.ofNat 8 b ≠ 0#8 := by
      rw [Ne, ← BitVec.toNat_inj, hexponent]
      simp
      omega
    rw [if_pos hlog, UnpackedFloat.unpack]
    simp only [unpackMantissa_packComponents, unpackExponent_packComponents,
      unpackSign_packComponents, Sign.ofBitVec_toBitVec, hnotlast, hnotfirst, if_false, hmantissa,
      hexponent]
    congr 1
    simp only [Format.exponentBias]
    omega
  · have he : e = -149 := by
      have hsmall := mt hc.le_of_least_lt hfull
      rw [least_single] at hsmall
      omega
    have hlog : m.log2 + 1 ≠ Format.binary32.mantissaBits := by
      have hupper := (Nat.log2_lt hm.ne').2 (not_le.1 hfull)
      simp only [Format.mantissaBits]
      omega
    have hmantissa : (BitVec.ofNat 23 m).toNat = m := by
      rw [BitVec.toNat_ofNat, Nat.mod_eq_of_lt (by omega)]
    have hnotzero : BitVec.ofNat 23 m ≠ 0#23 := by
      rw [Ne, ← BitVec.toNat_inj, hmantissa]
      simp
      omega
    have hnotlast : (0#8) ≠ -1#8 := by decide
    rw [if_neg hlog, UnpackedFloat.unpack]
    simp only [unpackMantissa_packComponents, unpackExponent_packComponents,
      unpackSign_packComponents, Sign.ofBitVec_toBitVec, hnotlast, hnotzero, if_false, dif_neg,
      not_false_eq_true, if_true, hmantissa]
    congr 1
    rw [he]
    rfl

lemma unpack_pack_zero (s : Sign) : (Float32.Model.pack (.zero s)).unpack = .zero s :=
  unpack_packedZero

lemma unpack_pack {u : UnpackedFloat} {x : ℚ} (h : Has u x) (hx : x < 2 ^ 128) :
    (Float32.Model.pack u).unpack = u := by
  cases h with
  | zero s => exact unpack_pack_zero s
  | finite hm hc => exact unpack_pack_finite hm hc (exponent_le hm hc hx)

end VisualTemplate.Decimal

namespace Float32

open VisualTemplate.Decimal
open Float.Model Float.Model.UnpackedFloat

/-- The number has this value, which is not negative. -/
def Is (a : Float32) (x : ℚ) : Prop := Has a.toModel.unpack x

variable {a b : Float32} {x y : ℚ}

lemma is_pack {u : UnpackedFloat} (h : Has u x) (hx : x < 2 ^ 128) : Is ⟨.pack u⟩ x := by
  rw [Is, unpack_pack h hx]
  exact h

lemma is_of_unpack (m : ℕ) (e : ℤ) (hm : 0 < m)
    (hunpack : a.toModel.unpack = .finite .positive m e hm) (hx : (m : ℚ) * 2 ^ e = x) :
    a.Is x := by
  rw [Is, hunpack, ← hx]
  exact .finite hm (canonical_unpack hunpack)

namespace Is

lemma lt_two_pow (ha : a.Is x) : x < 2 ^ 128 := unpack_lt ha

lemma add (ha : a.Is x) (hb : b.Is y) (h : rounded (x + y) < 2 ^ 128) :
    (a + b).Is (rounded (x + y)) := is_pack (Has.add ha hb) h

lemma sub (ha : a.Is x) (hb : b.Is y) (hle : y ≤ x) (h : rounded (x - y) < 2 ^ 128) :
    (a - b).Is (rounded (x - y)) := is_pack (Has.sub ha hb hle) h

lemma mul (ha : a.Is x) (hb : b.Is y) (h : rounded (x * y) < 2 ^ 128) :
    (a * b).Is (rounded (x * y)) := is_pack (Has.mul ha hb) h

lemma div (ha : a.Is x) (hb : b.Is y) (hpos : 0 < y) (h : rounded (x / y) < 2 ^ 128) :
    (a / b).Is (rounded (x / y)) := is_pack (Has.div ha hb hpos) h

lemma lt_iff (ha : a.Is x) (hb : b.Is y) : a < b ↔ x < y := by
  show decide (UnpackedFloat.lt a.toModel.unpack b.toModel.unpack = true) = true ↔ _
  rw [decide_eq_true_iff, UnpackedFloat.lt, Has.compare_eq ha hb, beq_iff_eq, Option.some.injEq,
    compare_lt_iff_lt]

lemma le_iff (ha : a.Is x) (hb : b.Is y) : a ≤ b ↔ x ≤ y := by
  show decide (UnpackedFloat.le a.toModel.unpack b.toModel.unpack = true) = true ↔ _
  rw [decide_eq_true_iff, UnpackedFloat.le, Has.compare_eq ha hb, Option.any_some,
    Ordering.isLE_iff_ne_gt, ← not_lt, ← compare_gt_iff_gt]

/-- A whole number is rounded like any other. -/
lemma toFloat32 (n : UInt32) (h : rounded n.toNat < 2 ^ 128) :
    n.toFloat32.Is (rounded n.toNat) := by
  have hnormal := has_normalize (e := 0) (n := n.toNat) (by positivity)
  rw [zpow_zero, mul_one] at hnormal
  exact is_pack hnormal h

lemma byte (n : UInt8) : n.toFloat32.Is n.toNat := by
  have hn := n.toNat_lt
  have hnormal := has_normalize (e := 0) (n := n.toNat) (by positivity)
  rw [zpow_zero, mul_one, Int.cast_natCast, rounded_natCast (by omega)] at hnormal
  refine is_pack hnormal ?_
  exact mod_cast hn.trans (by norm_num)

lemma toUInt32 (ha : a.Is x) (h : x < 2 ^ 32) : a.toUInt32.toNat = ⌊x⌋₊ := by
  have hfloor : ⌊x⌋₊ < UInt32.size := by
    rw [Nat.floor_lt ha.nonneg]
    exact mod_cast h
  have hint : (toInt 0 (UInt32.size - 1) a.toModel.unpack).toNat = ⌊x⌋₊ := by
    have ha' : Has a.toModel.unpack x := ha
    generalize a.toModel.unpack = u at ha'
    cases ha' with
    | zero s => rw [Nat.floor_zero]; rfl
    | finite hm hc => rw [toInt, roundToInt_eq, Int.toNat_natCast]
  show (UInt32.ofNatClamp (toInt 0 (UInt32.size - 1) a.toModel.unpack).toNat).toNat = ⌊x⌋₊
  rw [hint, UInt32.ofNatClamp, dif_pos hfloor]
  exact UInt32.toNat_ofNatLT ..

end Is

/-! ### Whole numbers -/

/-- The whole number that is nearest to a number, a half going up; the fraction counts as it is
computed. -/
def nearestWhole (x : ℚ) : ℕ := if 1 / 2 ≤ rounded (x - ⌊x⌋₊) then ⌊x⌋₊ + 1 else ⌊x⌋₊

@[simp] lemma nearestWhole_natCast (n : ℕ) : nearestWhole n = n := by
  simp [nearestWhole]

lemma nearestWhole_le (x : ℚ) : nearestWhole x ≤ ⌊x⌋₊ + 1 := by
  unfold nearestWhole
  split_ifs <;> omega

/-- The nearest whole number keeps the order, since the fractions above one whole number do. -/
lemma nearestWhole_mono (hx : 0 ≤ x) (h : x ≤ y) : nearestWhole x ≤ nearestWhole y := by
  unfold nearestWhole
  rcases (Nat.floor_mono h).lt_or_eq with hlt | heq
  · split_ifs <;> omega
  · have hfraction : rounded (x - ⌊x⌋₊) ≤ rounded (y - ⌊y⌋₊) := by
      rw [← heq]
      exact rounded_mono (sub_nonneg.2 (Nat.floor_le hx)) (by linarith)
    rw [heq] at hfraction ⊢
    split_ifs <;> first | omega | linarith

lemma nearestWhole_le_natCast {n : ℕ} (hx : 0 ≤ x) (h : x ≤ n) : nearestWhole x ≤ n :=
  (nearestWhole_mono hx h).trans_eq (nearestWhole_natCast n)

lemma abs_nearestWhole_sub_le (hx : 0 ≤ x) : |nearestWhole x - x| ≤ 1 := by
  have hlow := Nat.floor_le hx
  have hhigh := Nat.lt_floor_add_one x
  rw [abs_le, nearestWhole]
  split_ifs
  · push_cast
    constructor <;> linarith
  · constructor <;> linarith

/-- What is well within one half of a whole number is brought to it. -/
lemma nearestWhole_eq {n : ℕ} (hx : 0 ≤ x) (h : |x - n| ≤ 3 / 8) : nearestWhole x = n := by
  rw [abs_le] at h
  have hfraction : x - ⌊x⌋₊ < 2 ^ (24 + -24 : ℤ) := by
    norm_num
    linarith [Nat.lt_floor_add_one x]
  have hnear := abs_rounded_sub_le (by norm_num) (sub_nonneg.2 (Nat.floor_le hx)) hfraction
  rw [abs_le] at hnear
  norm_num at hnear
  rcases le_or_gt (n : ℚ) x with hle | hlt
  · have hfloor : ⌊x⌋₊ = n := (Nat.floor_eq_iff hx).2 ⟨hle, by linarith⟩
    rw [hfloor] at hnear
    rw [nearestWhole, hfloor, if_neg (by linarith)]
  · cases n with
    | zero => exact absurd hlt (not_lt.2 (by simpa using hx))
    | succ k =>
      push_cast at h hlt
      have hfloor : ⌊x⌋₊ = k := (Nat.floor_eq_iff hx).2 ⟨by linarith, hlt⟩
      rw [hfloor] at hnear
      rw [nearestWhole, hfloor, if_pos (by linarith)]

lemma is_half : (0.5 : Float32).Is (1 / 2) :=
  is_of_unpack (2 ^ 23) (-24) (by norm_num) rfl (by norm_num)

lemma toNat_nearestWord (ha : a.Is x) (h : x < 2 ^ 24) : a.nearestWord.toNat = nearestWhole x := by
  have hx := Has.nonneg ha
  have hfloor : ⌊x⌋₊ < 2 ^ 24 := by
    rw [Nat.floor_lt hx]
    exact mod_cast h
  have hwhole := ha.toUInt32 (h.trans (by norm_num))
  have hfloat : a.toUInt32.toFloat32.Is ⌊x⌋₊ := by
    have hexact := rounded_natCast hfloor
    have hrounded := Is.toFloat32 a.toUInt32
    rw [hwhole, hexact] at hrounded
    exact hrounded (mod_cast hfloor.trans (by norm_num))
  have hfraction : (a - a.toUInt32.toFloat32).Is (rounded (x - ⌊x⌋₊)) := by
    refine ha.sub hfloat (Nat.floor_le hx) ?_
    have hone : rounded (x - ⌊x⌋₊) ≤ 2 ^ 0 :=
      rounded_le_two_pow (sub_nonneg.2 (Nat.floor_le hx)) (by linarith [Nat.lt_floor_add_one x])
    exact hone.trans_lt (by norm_num)
  have hlargest : a.toUInt32 ≠ 0xffffffff := by
    rw [Ne, ← UInt32.toNat_inj, hwhole]
    simp
    omega
  have hup : a - a.toUInt32.toFloat32 ≥ 0.5 ↔ 1 / 2 ≤ rounded (x - ⌊x⌋₊) := is_half.le_iff hfraction
  rw [nearestWord]
  simp only [hlargest, if_false, hup, nearestWhole]
  split
  · rw [UInt32.toNat_add, hwhole]
    simp
    omega
  · exact hwhole

/-! ### Bounds -/

/-- A number below zero, be it infinite. -/
def IsBelow (a : Float32) : Prop :=
  a.toModel.unpack = .infinity .negative ∨ ∃ m e hm, a.toModel.unpack = .finite .negative m e hm

/-- The largest of all. -/
def IsTop (a : Float32) : Prop := a.toModel.unpack = .infinity .positive

/-- What is a number at all lies below zero, or has a value, or is infinite. -/
lemma kinds (h : a.toModel.unpack ≠ .notANumber) : a.IsBelow ∨ (∃ x, a.Is x) ∨ a.IsTop := by
  unfold IsBelow Is IsTop
  cases hu : a.toModel.unpack with
  | notANumber => exact absurd hu h
  | infinity s => cases s <;> simp
  | zero s => exact .inr (.inl ⟨0, .zero s⟩)
  | finite s m e hm =>
    cases s with
    | negative => exact .inl (.inr ⟨m, e, hm, rfl⟩)
    | positive => exact .inr (.inl ⟨_, .finite hm (canonical_unpack hu)⟩)

lemma compare_of_isBelow {u : UnpackedFloat} (ha : a.IsBelow) (hu : Has u x) :
    a.toModel.unpack.compare u = some .lt ∧ u.compare a.toModel.unpack = some .gt := by
  rcases ha with ha | ⟨m, e, hm, ha⟩ <;> rw [ha] <;> cases hu <;> exact ⟨rfl, rfl⟩

lemma compare_of_isTop {u : UnpackedFloat} (ha : a.IsTop) (hu : Has u x) :
    a.toModel.unpack.compare u = some .gt ∧ u.compare a.toModel.unpack = some .lt := by
  rw [ha]
  cases hu <;> exact ⟨rfl, rfl⟩

lemma lt_iff_compare : a < b ↔ a.toModel.unpack.compare b.toModel.unpack = some .lt := by
  show decide (UnpackedFloat.lt a.toModel.unpack b.toModel.unpack = true) = true ↔ _
  rw [decide_eq_true_iff, UnpackedFloat.lt, beq_iff_eq]

variable {low high : Float32} {l h : ℚ}

lemma clamped_of_isBelow (hlow : low.Is l) (ha : a.IsBelow) : (a.clamped low high).Is l := by
  have hunder : a < low := lt_iff_compare.2 (compare_of_isBelow ha hlow).1
  rw [clamped, if_pos hunder]
  exact hlow

lemma clamped_of_isTop (hlow : low.Is l) (hhigh : high.Is h) (ha : a.IsTop) :
    (a.clamped low high).Is h := by
  have hnot : ¬ a < low := by
    rw [lt_iff_compare, (compare_of_isTop ha hlow).1]
    simp
  have hover : a > high := lt_iff_compare.2 (compare_of_isTop ha hhigh).2
  rw [clamped, if_neg hnot, if_pos hover]
  exact hhigh

lemma clamped_of_is (hlow : low.Is l) (hhigh : high.Is h) (hle : l ≤ h) (ha : a.Is x) :
    (a.clamped low high).Is (max l (min x h)) := by
  unfold clamped
  split
  · next hlt =>
    have hxl := (ha.lt_iff hlow).1 hlt
    rwa [min_eq_left (hxl.le.trans hle), max_eq_left hxl.le]
  · next hlt =>
    have hlx := not_lt.1 (mt (ha.lt_iff hlow).2 hlt)
    split
    · next hgt =>
      have hhx := (hhigh.lt_iff ha).1 hgt
      rwa [min_eq_right hhx.le, max_eq_right hle]
    · next hgt =>
      have hxh := not_lt.1 (mt (hhigh.lt_iff ha).2 hgt)
      rwa [min_eq_left hxh, max_eq_right hlx]

lemma unpack_ne_of_isNaN (ha : a.isNaN = false) : a.toModel.unpack ≠ .notANumber := by
  intro hu
  have hyes : a.toModel.unpack.isNaN = true := by
    rw [hu]
    rfl
  rw [isNaN, Float32.Model.isNaN, hyes] at ha
  cases ha

lemma exists_clamped (hlow : low.Is l) (hhigh : high.Is h) (hle : l ≤ h)
    (ha : a.toModel.unpack ≠ .notANumber) : ∃ x, (a.clamped low high).Is x ∧ l ≤ x ∧ x ≤ h := by
  rcases kinds ha with ha | ⟨x, ha⟩ | ha
  · exact ⟨l, clamped_of_isBelow hlow ha, le_rfl, hle⟩
  · exact ⟨_, clamped_of_is hlow hhigh hle ha, le_max_left .., max_le hle (min_le_right ..)⟩
  · exact ⟨h, clamped_of_isTop hlow hhigh ha, hle, le_rfl⟩

/-- Bringing numbers between two bounds keeps their order. -/
lemma clamped_mono (hlow : low.Is l) (hhigh : high.Is h) (hle : l ≤ h) (hab : a ≤ b) :
    ∃ x y, (a.clamped low high).Is x ∧ (b.clamped low high).Is y ∧ l ≤ x ∧ x ≤ y ∧ y ≤ h := by
  have hcompare : (a.toModel.unpack.compare b.toModel.unpack).any (·.isLE) = true :=
    decide_eq_true_iff.1 hab
  have hanan : a.toModel.unpack ≠ .notANumber := fun ha => by
    rw [ha] at hcompare
    cases hcompare
  have hbnan : b.toModel.unpack ≠ .notANumber := fun hb => by
    rw [hb] at hcompare
    cases hu : a.toModel.unpack <;> rw [hu] at hcompare <;> cases hcompare
  obtain ⟨x, hx, hlx, hxh⟩ := exists_clamped hlow hhigh hle hanan
  obtain ⟨y, hy, hly, hyh⟩ := exists_clamped hlow hhigh hle hbnan
  rcases kinds hanan with ha | ⟨z, ha⟩ | ha
  · exact ⟨l, y, clamped_of_isBelow hlow ha, hy, le_rfl, hly, hyh⟩
  · rcases kinds hbnan with hb | ⟨w, hb⟩ | hb
    · rw [(compare_of_isBelow hb ha).2] at hcompare
      cases hcompare
    · refine ⟨_, _, clamped_of_is hlow hhigh hle ha, clamped_of_is hlow hhigh hle hb,
        le_max_left .., ?_, max_le hle (min_le_right ..)⟩
      have hzw := (ha.le_iff hb).1 hab
      gcongr
    · exact ⟨x, h, hx, clamped_of_isTop hlow hhigh hb, hlx, hxh, le_rfl⟩
  · rcases kinds hbnan with hb | ⟨w, hb⟩ | hb
    · rw [ha] at hcompare
      rcases hb with hb | ⟨m, e, hm, hb⟩ <;> rw [hb] at hcompare <;> cases hcompare
    · rw [(compare_of_isTop ha hb).1] at hcompare
      cases hcompare
    · exact ⟨x, h, hx, clamped_of_isTop hlow hhigh hb, hlx, hxh, le_rfl⟩

end Float32
