import Mathlib
import VisualTemplate.Proofs.Decimal.Shortest
/-!
Rounding to single precision, over the rationals.

A number that is not negative is rounded on the grid of its last place: it keeps 24 binary digits,
and none behind the last place of the smallest number. Rounding keeps the order of numbers. A
computed significand, with a bit for the half and a bit for what is left, is shifted and rounded so
that the result is just the rounded number.
-/

namespace VisualTemplate.Decimal

/-! ### The nearest whole number -/

/-- The nearest whole number; where two are equally near, the even one. -/
def nearestEven (x : ℚ) : ℕ :=
  if x - ⌊x⌋₊ < 1 / 2 then ⌊x⌋₊
  else if x - ⌊x⌋₊ = 1 / 2 then ⌊x⌋₊ + ⌊x⌋₊ % 2
  else ⌊x⌋₊ + 1

lemma floor_le_nearestEven (x : ℚ) : ⌊x⌋₊ ≤ nearestEven x := by
  unfold nearestEven
  split_ifs <;> omega

lemma nearestEven_le_floor_add_one (x : ℚ) : nearestEven x ≤ ⌊x⌋₊ + 1 := by
  unfold nearestEven
  split_ifs <;> omega

@[simp] lemma nearestEven_natCast (n : ℕ) : nearestEven n = n := by
  simp [nearestEven]

lemma nearestEven_mono {x y : ℚ} (h : x ≤ y) : nearestEven x ≤ nearestEven y := by
  rcases (Nat.floor_mono h).lt_or_eq with hlt | heq
  · calc nearestEven x ≤ ⌊x⌋₊ + 1 := nearestEven_le_floor_add_one x
      _ ≤ ⌊y⌋₊ := hlt
      _ ≤ nearestEven y := floor_le_nearestEven y
  · unfold nearestEven
    rw [← heq]
    split_ifs <;> grind

/-- What is within one half of a whole number is brought to it, from the halves only if it is
even. -/
lemma nearestEven_eq {x : ℚ} {n : ℕ} (hlow : n - 1 / 2 ≤ x) (hhigh : x ≤ n + 1 / 2)
    (hodd : n % 2 ≠ 0 → n - 1 / 2 < x ∧ x < n + 1 / 2) : nearestEven x = n := by
  rcases le_or_gt (n : ℚ) x with hle | hlt
  · have hfloor : ⌊x⌋₊ = n := (Nat.floor_eq_iff ((Nat.cast_nonneg n).trans hle)).2
      ⟨hle, by linarith⟩
    rw [nearestEven, hfloor]
    rcases hhigh.lt_or_eq with hless | htie
    · rw [if_pos (by linarith)]
    · have heven : n % 2 = 0 := by
        by_contra hne
        exact (hodd hne).2.ne htie
      rw [if_neg (by linarith), if_pos (by linarith), heven, add_zero]
  · cases n with
    | zero =>
      rw [Nat.cast_zero] at hlt
      rw [nearestEven, Nat.floor_of_nonpos hlt.le, if_pos (by push_cast; linarith)]
    | succ k =>
      push_cast at hlow hlt hodd
      have hk : (0 : ℚ) ≤ k := Nat.cast_nonneg k
      have hfloor : ⌊x⌋₊ = k := (Nat.floor_eq_iff (by linarith)).2 ⟨by linarith, hlt⟩
      rw [nearestEven, hfloor, if_neg (by linarith)]
      rcases hlow.lt_or_eq with hmore | htie
      · rw [if_neg (by linarith)]
      · have heven : (k + 1) % 2 = 0 := by
          by_contra hne
          exact (hodd hne).1.ne htie
        rw [if_pos (by linarith)]
        omega

lemma abs_nearestEven_sub_le {x : ℚ} (hx : 0 ≤ x) : |nearestEven x - x| ≤ 1 / 2 := by
  have hlow := Nat.floor_le hx
  have hhigh := Nat.lt_floor_add_one x
  rw [abs_le, nearestEven]
  split_ifs with hless hsame
  · constructor <;> linarith
  · have hodd : ((⌊x⌋₊ % 2 : ℕ) : ℚ) ≤ 1 := mod_cast Nat.le_of_lt_succ (Nat.mod_lt _ two_pos)
    have heven : (0 : ℚ) ≤ (⌊x⌋₊ % 2 : ℕ) := Nat.cast_nonneg _
    push_cast at hodd heven ⊢
    constructor <;> linarith
  · push_cast
    constructor <;> linarith

/-! ### Rounding -/

/-- The exponent of the last place that a number keeps. -/
def lastPlace (x : ℚ) : ℤ := max (Int.log 2 x - 23) (-149)

/-- The number of single precision that is nearest to a number that is not negative, as long as it
is not too large for one. -/
def rounded (x : ℚ) : ℚ := nearestEven (x / 2 ^ lastPlace x) * 2 ^ lastPlace x

lemma least_single : Width.single.least = -149 := by decide

lemma canonical_single {m : ℕ} {e : ℤ} (hm : m < 2 ^ 24) (he : -149 ≤ e)
    (hfull : -149 < e → 2 ^ 23 ≤ m) : Canonical .single m e where
  lt := by simpa [Width.single] using hm
  least_le := least_single.trans_le he
  le_of_least_lt h := hfull (least_single ▸ h)

section

variable {x y : ℚ}

lemma lastPlace_mono (hx : 0 < x) (h : x ≤ y) : lastPlace x ≤ lastPlace y := by
  have hlog := Int.log_mono_right (b := 2) hx h
  unfold lastPlace
  omega

lemma lt_two_zpow_lastPlace (x : ℚ) : x < 2 ^ 24 * 2 ^ lastPlace x := by
  have hlog : x < 2 ^ (Int.log 2 x + 1) := Int.lt_zpow_succ_log_self (by norm_num) x
  calc x < 2 ^ (Int.log 2 x + 1) := hlog
    _ ≤ (2 : ℚ) ^ (24 + lastPlace x) :=
      zpow_le_zpow_right₀ (by norm_num) (by unfold lastPlace; omega)
    _ = 2 ^ 24 * 2 ^ lastPlace x := by rw [zpow_add₀ (by norm_num)]; norm_num

lemma two_zpow_lastPlace_le (hx : 0 < x) (h : -149 < lastPlace x) :
    2 ^ 23 * 2 ^ lastPlace x ≤ x := by
  have hlog : (2 : ℚ) ^ Int.log 2 x ≤ x := mod_cast Int.zpow_log_le_self (b := 2) (by norm_num) hx
  have hplace : Int.log 2 x = 23 + lastPlace x := by
    unfold lastPlace at h ⊢
    omega
  rw [hplace, zpow_add₀ (by norm_num)] at hlog
  exact mod_cast hlog

lemma nearestEven_le (x : ℚ) : nearestEven (x / 2 ^ lastPlace x) ≤ 2 ^ 24 := by
  have hle : x / 2 ^ lastPlace x ≤ (2 ^ 24 : ℕ) := by
    rw [div_le_iff₀ (by positivity)]
    exact mod_cast (lt_two_zpow_lastPlace x).le
  exact (nearestEven_mono hle).trans_eq (nearestEven_natCast _)

lemma le_nearestEven (hx : 0 < x) (h : -149 < lastPlace x) :
    2 ^ 23 ≤ nearestEven (x / 2 ^ lastPlace x) := by
  have hle : (2 ^ 23 : ℕ) ≤ x / 2 ^ lastPlace x := by
    rw [le_div_iff₀ (by positivity)]
    exact mod_cast two_zpow_lastPlace_le hx h
  exact (nearestEven_natCast _).symm.trans_le (nearestEven_mono hle)

@[simp] lemma rounded_zero : rounded 0 = 0 := by
  have hzero : nearestEven 0 = 0 := mod_cast nearestEven_natCast 0
  simp [rounded, hzero]

lemma rounded_nonneg (x : ℚ) : 0 ≤ rounded x := by
  unfold rounded
  positivity

/-- **Rounding keeps the order.** On one grid since the nearest whole numbers do; and a number with
a lower last place is rounded to no more than the leading digit of the other. -/
theorem rounded_mono (hx : 0 ≤ x) (h : x ≤ y) : rounded x ≤ rounded y := by
  rcases hx.eq_or_lt with rfl | hx
  · rw [rounded_zero]
    exact rounded_nonneg y
  rcases (lastPlace_mono hx h).eq_or_lt with heq | hlt
  · unfold rounded
    rw [heq]
    gcongr
    exact nearestEven_mono (by gcongr)
  · have hfull := le_nearestEven (hx.trans_le h)
      (lt_of_le_of_lt (by unfold lastPlace; omega) hlt)
    calc rounded x ≤ 2 ^ 24 * 2 ^ lastPlace x := by
          unfold rounded
          gcongr
          exact mod_cast nearestEven_le x
      _ = 2 ^ 23 * 2 ^ (lastPlace x + 1) := by
          rw [zpow_add_one₀ (by norm_num)]
          ring
      _ ≤ 2 ^ 23 * 2 ^ lastPlace y := by
          gcongr
          · norm_num
          · omega
      _ ≤ rounded y := by
          unfold rounded
          gcongr
          exact mod_cast hfull

lemma rounded_of_whole {n : ℕ} (h : x = n * 2 ^ lastPlace x) : rounded x = x := by
  have hdiv : x / 2 ^ lastPlace x = n := by
    rw [div_eq_iff (by positivity)]
    exact h
  rw [rounded, hdiv, nearestEven_natCast, ← h]

lemma lastPlace_eq {e : ℤ} (hpos : 0 < x) (he : -149 ≤ e) (hhigh : x < 2 ^ 24 * 2 ^ e)
    (hlow : -149 < e → 2 ^ 23 * 2 ^ e ≤ x) : lastPlace x = e := by
  have hupper : Int.log 2 x < 24 + e := by
    rw [← Int.lt_zpow_iff_log_lt (by norm_num) hpos]
    push_cast
    rw [zpow_add₀ (by norm_num)]
    exact mod_cast hhigh
  by_cases hleast : e = -149
  · unfold lastPlace
    omega
  · have hlower : 23 + e ≤ Int.log 2 x := by
      rw [← Int.zpow_le_iff_le_log (by norm_num) hpos]
      push_cast
      rw [zpow_add₀ (by norm_num)]
      exact mod_cast hlow (by omega)
    unfold lastPlace
    omega

/-- The last place of a significand with its exponent is that exponent. -/
lemma lastPlace_canonical {m : ℕ} {e : ℤ} (hm : 0 < m) (hc : Canonical .single m e) :
    lastPlace (m * 2 ^ e) = e := by
  have hlt : m < 2 ^ 24 := hc.lt
  refine lastPlace_eq (by positivity) (least_single.symm.trans_le hc.least_le) ?_ fun hleast => ?_
  · gcongr
    exact mod_cast hlt
  · have hfull : 2 ^ 23 ≤ m := hc.le_of_least_lt (least_single.trans_lt hleast)
    gcongr
    exact mod_cast hfull

lemma rounded_canonical {m : ℕ} {e : ℤ} (hc : Canonical .single m e) :
    rounded (m * 2 ^ e) = m * 2 ^ e := by
  rcases Nat.eq_zero_or_pos m with rfl | hm
  · simp
  · exact rounded_of_whole (by rw [lastPlace_canonical hm hc])

lemma rounded_two_pow (k : ℕ) : rounded (2 ^ k) = 2 ^ k := by
  have hc : Canonical .single (2 ^ 23) (k - 23) :=
    canonical_single (by norm_num) (by omega) (by simp)
  have hpow : ((2 ^ 23 : ℕ) : ℚ) * 2 ^ ((k : ℤ) - 23) = 2 ^ k := by
    rw [zpow_sub₀ (by norm_num), zpow_natCast]
    norm_num
    ring
  rw [← hpow]
  exact rounded_canonical hc

lemma rounded_le_two_pow {k : ℕ} (hx : 0 ≤ x) (h : x ≤ 2 ^ k) : rounded x ≤ 2 ^ k :=
  (rounded_mono hx h).trans_eq (rounded_two_pow k)

/-- Small whole numbers are not changed: their last place lies behind the point. -/
lemma rounded_natCast {n : ℕ} (hn : n < 2 ^ 24) : rounded n = n := by
  rcases Nat.eq_zero_or_pos n with rfl | hpos
  · simp
  have hlog : Int.log 2 (n : ℚ) < 24 := by
    rw [← Int.lt_zpow_iff_log_lt (by norm_num) (mod_cast hpos)]
    exact mod_cast hn
  obtain ⟨k, hk⟩ : ∃ k : ℕ, lastPlace (n : ℚ) = -k :=
    ⟨(-lastPlace (n : ℚ)).toNat, by unfold lastPlace; omega⟩
  refine rounded_of_whole (n := n * 2 ^ k) ?_
  rw [hk, zpow_neg, zpow_natCast]
  push_cast
  field_simp

lemma rounded_le_natCast {n : ℕ} (hn : n < 2 ^ 24) (hx : 0 ≤ x) (h : x ≤ n) : rounded x ≤ n :=
  (rounded_mono hx h).trans_eq (rounded_natCast hn)

/-- What is within half a unit of the last place of a number is rounded to it, from the halves only
if its last digit is even. -/
lemma rounded_eq {n : ℕ} {e : ℤ} (hplace : lastPlace x = e) (hlow : (n - 1 / 2) * 2 ^ e ≤ x)
    (hhigh : x ≤ (n + 1 / 2) * 2 ^ e)
    (hodd : n % 2 ≠ 0 → (n - 1 / 2) * 2 ^ e < x ∧ x < (n + 1 / 2) * 2 ^ e) :
    rounded x = n * 2 ^ e := by
  have hunit : (0 : ℚ) < 2 ^ e := by positivity
  rw [rounded, hplace, nearestEven_eq (n := n)]
  · rwa [le_div_iff₀ hunit]
  · rwa [div_le_iff₀ hunit]
  · intro hne
    rw [lt_div_iff₀ hunit, div_lt_iff₀ hunit]
    exact hodd hne

/-- A number is moved by half a unit of its last place at most. -/
lemma abs_rounded_sub_le {k : ℤ} (hk : -149 ≤ k) (hx : 0 ≤ x) (h : x < 2 ^ (24 + k)) :
    |rounded x - x| ≤ 2 ^ k / 2 := by
  rcases hx.eq_or_lt with rfl | hpos
  · rw [rounded_zero, sub_zero, abs_zero]
    positivity
  have hplace : lastPlace x ≤ k := by
    have hlog : Int.log 2 x < 24 + k := by
      rw [← Int.lt_zpow_iff_log_lt (by norm_num) hpos]
      exact mod_cast h
    unfold lastPlace
    omega
  have hunit : (0 : ℚ) < 2 ^ lastPlace x := by positivity
  calc |rounded x - x|
      = |nearestEven (x / 2 ^ lastPlace x) - x / 2 ^ lastPlace x| * 2 ^ lastPlace x := by
        rw [← abs_of_pos hunit, ← abs_mul, sub_mul, abs_of_pos hunit, div_mul_cancel₀ _ hunit.ne']
        rfl
    _ ≤ 1 / 2 * 2 ^ lastPlace x := by
        gcongr
        exact abs_nearestEven_sub_le (by positivity)
    _ ≤ 1 / 2 * 2 ^ k := by
        gcongr
        norm_num
    _ = 2 ^ k / 2 := by ring

end

/-! ### Shifting and rounding a significand -/

open Float.Model Float.Model.UnpackedFloat

/-- A significand with its two bits tells where a number lies: the first bit for the half, the
second for what is left behind it. -/
structure Reads (em : ExtendedMantissa) (x : ℚ) : Prop where
  low : 2 * em.mantissa + em.roundBit.toNat ≤ 2 * x
  high : 2 * x < 2 * em.mantissa + em.roundBit.toNat + 1
  exact_iff : em.stickyBit = false ↔ 2 * x = 2 * em.mantissa + em.roundBit.toNat

namespace Reads

variable {em : ExtendedMantissa} {x : ℚ}

lemma exact (m : ℕ) : Reads (.ofMantissaAndAccuracy m .exact) m where
  low := by simp [ExtendedMantissa.ofMantissaAndAccuracy]
  high := by simp [ExtendedMantissa.ofMantissaAndAccuracy]
  exact_iff := by simp [ExtendedMantissa.ofMantissaAndAccuracy]

/-- A quotient with the comparison of its remainder with one half. -/
lemma quotient (m n : ℕ) (hn : 0 < n) :
    Reads (.ofMantissaAndAccuracy (m / n) (accuracyOfFraction (m % n) n)) (m / n : ℚ) := by
  have hdiv : (m : ℚ) / n = (m / n : ℕ) + (m % n : ℕ) / n := by
    rw [div_eq_iff (by positivity), add_mul, div_mul_cancel₀ _ (by positivity)]
    exact mod_cast (Nat.div_add_mod' m n).symm
  have hn' : (0 : ℚ) < n := mod_cast hn
  have hrest : ((m % n : ℕ) : ℚ) / n < 1 := by
    rw [div_lt_one hn']
    exact mod_cast Nat.mod_lt m hn
  have hhalf : 2 * (((m % n : ℕ) : ℚ) / n) = ((2 * (m % n) : ℕ) : ℚ) / n := by
    push_cast
    ring
  have hnonneg : (0 : ℚ) ≤ ((m % n : ℕ) : ℚ) / n := by positivity
  rw [hdiv]
  unfold accuracyOfFraction
  split
  · next hzero => simpa [hzero] using exact (m / n)
  · next hzero =>
    have hpos : (0 : ℚ) < ((m % n : ℕ) : ℚ) / n := by
      have : 0 < m % n := Nat.pos_of_ne_zero hzero
      positivity
    rcases lt_trichotomy (2 * (m % n)) n with hlt | heq | hgt
    · have hless : 2 * (((m % n : ℕ) : ℚ) / n) < 1 := by
        rw [hhalf, div_lt_one hn']
        exact mod_cast hlt
      rw [Nat.compare_eq_lt.2 hlt]
      refine ⟨?_, ?_, iff_of_false Bool.noConfusion fun h => ?_⟩ <;>
        simp only [ExtendedMantissa.ofMantissaAndAccuracy, Bool.toNat_false, Nat.cast_zero] at * <;>
        linarith
    · have hsame : 2 * (((m % n : ℕ) : ℚ) / n) = 1 := by rw [hhalf, heq, div_self hn'.ne']
      rw [Nat.compare_eq_eq.2 heq]
      refine ⟨?_, ?_, iff_of_true rfl ?_⟩ <;>
        simp only [ExtendedMantissa.ofMantissaAndAccuracy, Bool.toNat_true, Nat.cast_one] <;>
        linarith
    · have hmore : 1 < 2 * (((m % n : ℕ) : ℚ) / n) := by
        rw [hhalf, one_lt_div hn']
        exact mod_cast hgt
      rw [Nat.compare_eq_gt.2 hgt]
      refine ⟨?_, ?_, iff_of_false Bool.noConfusion fun h => ?_⟩ <;>
        simp only [ExtendedMantissa.ofMantissaAndAccuracy, Bool.toNat_true, Nat.cast_one] at * <;>
        linarith

/-- The half is the last digit that is shifted out, and all behind it is what is left. -/
lemma shiftRightOne (h : Reads em x) : Reads em.shiftRightOne (x / 2) := by
  obtain ⟨m, r, s⟩ := em
  obtain ⟨hlow, hhigh, hexact⟩ := h
  have hm : ((2 * (m / 2) + (m % 2 != 0).toNat : ℕ) : ℚ) = m := by
    congr 1
    rcases Nat.mod_two_eq_zero_or_one m with hmod | hmod <;> simp [hmod] <;> omega
  push_cast at hm
  have hbit : ((r.toNat : ℕ) : ℚ) = 0 ∨ ((r.toNat : ℕ) : ℚ) = 1 := by cases r <;> simp
  simp only [ExtendedMantissa.shiftRightOne] at *
  refine ⟨?_, ?_, ?_⟩
  · rcases hbit with hbit | hbit <;> linarith
  · rcases hbit with hbit | hbit <;> linarith
  · rw [Bool.or_eq_false_iff, hexact]
    cases r with
    | false =>
      simp only [Bool.toNat_false, Nat.cast_zero, true_and]
      constructor <;> intro <;> linarith
    | true =>
      simp only [Bool.toNat_true, Nat.cast_one] at hlow ⊢
      refine iff_of_false (by simp) ?_
      intro
      linarith

lemma shiftRight (h : Reads em x) (n : ℕ) : Reads (em >>> n) (x / 2 ^ n) := by
  induction n with
  | zero =>
    rw [pow_zero, div_one]
    exact h
  | succ n ih =>
    rw [pow_succ, ← div_div]
    exact ih.shiftRightOne

lemma mantissa_le (h : Reads em x) : em.mantissa ≤ x := by
  have hlow := h.low
  have hbit : (0 : ℚ) ≤ em.roundBit.toNat := by positivity
  linarith

lemma lt_mantissa_add_one (h : Reads em x) : x < em.mantissa + 1 := by
  have hhigh := h.high
  have hbit : ((em.roundBit.toNat : ℕ) : ℚ) ≤ 1 := mod_cast em.roundBit.toNat_le
  linarith

lemma floor_eq (h : Reads em x) : ⌊x⌋₊ = em.mantissa :=
  (Nat.floor_eq_iff ((Nat.cast_nonneg _).trans h.mantissa_le)).2
    ⟨h.mantissa_le, h.lt_mantissa_add_one⟩

lemma roundedMantissa (h : Reads em x) : em.roundedMantissa = nearestEven x := by
  have hfloor := h.floor_eq
  obtain ⟨m, r, s⟩ := em
  obtain ⟨hlow, hhigh, hexact⟩ := h
  have hless : x - m < 1 / 2 ↔ 2 * x < 2 * m + 1 := by constructor <;> intro <;> linarith
  have hsame : x - m = 1 / 2 ↔ 2 * x = 2 * m + 1 := by constructor <;> intro <;> linarith
  simp only [nearestEven, hfloor, hless, hsame]
  cases r <;> cases s <;>
    simp only [ExtendedMantissa.roundedMantissa, ExtendedMantissa.accuracy,
      Accuracy.roundToNearestEven, Bool.toNat_false, Bool.toNat_true, Nat.cast_zero,
      Nat.cast_one] at * <;>
    grind

end Reads

/-- An unpacked number that is not negative has a value; a zero may have either sign. -/
inductive Has : UnpackedFloat → ℚ → Prop
  | zero (s : Sign) : Has (.zero s) 0
  | finite {m : ℕ} {e : ℤ} (hm : 0 < m) : Canonical .single m e →
    Has (.finite .positive m e hm) (m * 2 ^ e)

section

variable {m : ℕ} {e : ℤ} {accuracy : Accuracy} {x : ℚ}

lemma targetExponent_eq (m : ℕ) (e : ℤ) :
    Format.binary32.targetExponent (totalExponent m e) = max (m.log2 + e - 23) (-149) := by
  simp only [Format.targetExponent, totalExponent, Format.mantissaBits, Format.minExponent]
  norm_num
  congr 1
  ring

lemma log_eq_of_floor (hm : 0 < m) (hlow : m * 2 ^ e ≤ x) (hhigh : x < (m + 1) * 2 ^ e) :
    Int.log 2 x = m.log2 + e := by
  have hpos : (0 : ℚ) < x := lt_of_lt_of_le (by positivity) hlow
  have hlower : m.log2 + e ≤ Int.log 2 x := by
    rw [← Int.zpow_le_iff_le_log (by norm_num) hpos]
    push_cast
    rw [zpow_add₀ (by norm_num), zpow_natCast]
    refine le_trans ?_ hlow
    gcongr
    exact mod_cast Nat.log2_self_le hm.ne'
  have hupper : Int.log 2 x < m.log2 + e + 1 := by
    rw [← Int.lt_zpow_iff_log_lt (by norm_num) hpos]
    push_cast
    rw [add_right_comm, zpow_add₀ (by norm_num)]
    refine lt_of_lt_of_le hhigh ?_
    gcongr
    exact mod_cast Nat.lt_log2_self
  omega

/-- The first shift goes to the last place of the number. -/
lemma targetExponent_eq_lastPlace (hx : 0 < x)
    (hread : Reads (.ofMantissaAndAccuracy m accuracy) (x / 2 ^ e)) (he : e ≤ lastPlace x) :
    Format.binary32.targetExponent (totalExponent m e) = lastPlace x := by
  have hm : (ExtendedMantissa.ofMantissaAndAccuracy m accuracy).mantissa = m := by
    unfold ExtendedMantissa.ofMantissaAndAccuracy
    split <;> rfl
  have hlow := hread.mantissa_le
  have hhigh := hread.lt_mantissa_add_one
  rw [hm, le_div_iff₀ (by positivity)] at hlow
  rw [hm, div_lt_iff₀ (by positivity)] at hhigh
  rw [targetExponent_eq]
  rcases Nat.eq_zero_or_pos m with rfl | hpos
  · -- nothing is left of the number at this exponent, so it lies below the smallest last place
    have hlog : Int.log 2 x < e := by
      rw [← Int.lt_zpow_iff_log_lt (by norm_num) hx]
      simpa using hhigh
    unfold lastPlace at he ⊢
    simp only [Nat.log2_zero, Nat.cast_zero]
    omega
  · rw [lastPlace, log_eq_of_floor hpos hlow hhigh]

lemma shiftToTargetExponent_of_lt (hm : m < 2 ^ 24) (he : -149 ≤ e) :
    shiftToTargetExponent .binary32 m e .exact = (⟨m, false, false⟩, e) := by
  have hlog : m.log2 ≤ 23 := by
    rcases Nat.eq_zero_or_pos m with rfl | hpos
    · simp
    · exact Nat.le_of_lt_succ ((Nat.log2_lt hpos.ne').2 hm)
  have hshift : (Format.binary32.targetExponent (totalExponent m e) - e).toNat = 0 := by
    rw [targetExponent_eq]
    omega
  rw [shiftToTargetExponent, shiftToExponent]
  simp only [hshift, Nat.cast_zero, add_zero]
  rfl

lemma shiftToTargetExponent_two_pow (he : -149 ≤ e) :
    shiftToTargetExponent .binary32 (2 ^ 24) e .exact = (⟨2 ^ 23, false, false⟩, e + 1) := by
  have hshift : (Format.binary32.targetExponent (totalExponent (2 ^ 24) e) - e).toNat = 1 := by
    rw [targetExponent_eq, Nat.log2_two_pow]
    omega
  rw [shiftToTargetExponent, shiftToExponent]
  simp only [hshift, Nat.cast_one]
  rfl

/-- **A significand is rounded to the rounded number**, if it goes at least to the last place of the
number. -/
theorem has_roundWithAccuracy (hx : 0 < x)
    (hread : Reads (.ofMantissaAndAccuracy m accuracy) (x / 2 ^ e)) (he : e ≤ lastPlace x) :
    Has (roundWithAccuracy .binary32 .positive m e accuracy) (rounded x) := by
  have htarget := targetExponent_eq_lastPlace hx hread he
  have hleast : -149 ≤ lastPlace x := le_max_right _ _
  obtain ⟨n, hn⟩ : ∃ n : ℕ, lastPlace x = e + n := ⟨(lastPlace x - e).toNat, by omega⟩
  have hfirst : shiftToTargetExponent .binary32 m e accuracy =
      (ExtendedMantissa.ofMantissaAndAccuracy m accuracy >>> n, lastPlace x) := by
    have hshift : (lastPlace x - e).toNat = n := by omega
    rw [shiftToTargetExponent, htarget, shiftToExponent]
    simp only [hshift]
    rw [hn]
  have hrounded : (ExtendedMantissa.ofMantissaAndAccuracy m accuracy >>> n).roundedMantissa =
      nearestEven (x / 2 ^ lastPlace x) := by
    rw [(hread.shiftRight n).roundedMantissa, div_div, hn, zpow_add₀ (by norm_num), zpow_natCast]
  rw [roundWithAccuracy, hfirst]
  simp only [hrounded]
  have hfull := le_nearestEven hx
  rcases (nearestEven_le x).lt_or_eq with hlt | heq
  · simp only [shiftToTargetExponent_of_lt hlt hleast]
    split
    · next hzero => simpa [rounded, hzero] using Has.zero .positive
    · next hzero => exact .finite _ (canonical_single hlt hleast hfull)
  · -- all digits were carried: there is one more, and it is a zero
    simp only [heq, shiftToTargetExponent_two_pow hleast]
    have hvalue : rounded x = (2 ^ 23 : ℕ) * 2 ^ (lastPlace x + 1) := by
      rw [rounded, heq, zpow_add_one₀ (by norm_num)]
      push_cast
      ring
    rw [hvalue]
    exact .finite (by norm_num) (canonical_single (by norm_num) (by omega) (by simp))

lemma decreaseExponent_value (m : ℕ) (e t : ℤ) :
    ((decreaseExponent m e t).1 : ℚ) * 2 ^ (decreaseExponent m e t).2 = m * 2 ^ e := by
  simp only [decreaseExponent, Nat.shiftLeft_eq, Nat.cast_mul, Nat.cast_pow, Nat.cast_ofNat]
  rw [← zpow_natCast, mul_assoc, ← zpow_add₀ (by norm_num), add_sub_cancel]

/-- A significand of any length is rounded, after zeros are put behind it if it is too short. -/
lemma has_round (hm : 0 < m) :
    Has (UnpackedFloat.round .binary32 .positive m e) (rounded (m * 2 ^ e)) := by
  have hx : (0 : ℚ) < m * 2 ^ e := by positivity
  have hlog : Int.log 2 ((m : ℚ) * 2 ^ e) = m.log2 + e :=
    log_eq_of_floor hm le_rfl (by gcongr; linarith)
  have hplace : lastPlace (m * 2 ^ e) = Format.binary32.targetExponent (totalExponent m e) := by
    rw [targetExponent_eq, lastPlace, hlog]
  have hvalue := decreaseExponent_value m e (lastPlace (m * 2 ^ e))
  rw [UnpackedFloat.round, ← hplace]
  refine has_roundWithAccuracy hx ?_ ?_
  · have hwhole := div_eq_of_eq_mul (by positivity) hvalue.symm
    exact hwhole ▸ .exact _
  · show e - ((e - lastPlace (m * 2 ^ e)).toNat : ℤ) ≤ lastPlace (m * 2 ^ e)
    omega

lemma has_normalize {n : ℤ} (hn : 0 ≤ n) :
    Has (UnpackedFloat.normalize .binary32 n e .positive) (rounded (n * 2 ^ e)) := by
  lift n to ℕ using hn
  rcases Nat.eq_zero_or_pos n with rfl | hpos
  · simpa [UnpackedFloat.normalize] using Has.zero .positive
  · rw [UnpackedFloat.normalize, Int.compare_eq_gt.2 (by omega)]
    exact has_round hpos

end

end VisualTemplate.Decimal
