import Mathlib.Algebra.Order.Field.Power
import Mathlib.Tactic.FieldSimp
import Mathlib.Tactic.Linarith
import Mathlib.Tactic.NormNum
import Mathlib.Tactic.Positivity
import Mathlib.Tactic.Ring
import VisualTemplate.Decimal.Shortest
/-!
Decimal grids against binary intervals, over the rationals.

The search for the fewest digits compares whole numbers only. Here its comparisons are read as
comparisons of `a · 10 ^ p` with `x · 2 ^ q`, and the search is shown to end inside the interval
that it is given, as long as the numbers have at most 53 binary digits.
-/

namespace VisualTemplate.Decimal

/-- The number `coefficient · 10 ^ exponent`. -/
def Scaled.value (s : Scaled) : ℚ := s.coefficient * 10 ^ s.exponent

/-- The number lies between the ends of the interval, and is neither end of an open one. -/
def Interval.Has (i : Interval) (x : ℚ) : Prop :=
  i.low * 2 ^ i.unit ≤ x ∧ x ≤ i.high * 2 ^ i.unit ∧
    (i.closed = false → i.low * 2 ^ i.unit < x ∧ x < i.high * 2 ^ i.unit)

/-! ### Comparisons -/

lemma zpow_mul_pow_toNat {b : ℚ} (hb : b ≠ 0) (p : ℤ) :
    b ^ p * b ^ (-p).toNat = b ^ p.toNat := by
  rw [← zpow_natCast, ← zpow_natCast, ← zpow_add₀ hb]
  congr 1
  omega

/-- What both sides of a comparison are multiplied by to become whole. -/
def commonFactor (p q : ℤ) : ℚ := 10 ^ (-p).toNat * 2 ^ (-q).toNat

lemma commonFactor_pos (p q : ℤ) : 0 < commonFactor p q := by
  unfold commonFactor
  positivity

lemma align_fst (a : ℕ) (p : ℤ) (x : ℕ) (q : ℤ) :
    ((align a p x q).1 : ℚ) = a * 10 ^ p * commonFactor p q := by
  have h := zpow_mul_pow_toNat (b := 10) (by norm_num) p
  simp only [align, Nat.pow_eq, Nat.cast_mul, Nat.cast_pow, Nat.cast_ofNat, commonFactor]
  rw [← h]
  ring

lemma align_snd (a : ℕ) (p : ℤ) (x : ℕ) (q : ℤ) :
    ((align a p x q).2 : ℚ) = x * 2 ^ q * commonFactor p q := by
  have h := zpow_mul_pow_toNat (b := 2) (by norm_num) q
  simp only [align, Nat.pow_eq, Nat.cast_mul, Nat.cast_pow, Nat.cast_ofNat, commonFactor]
  rw [← h]
  ring

lemma align_le_iff (a : ℕ) (p : ℤ) (x : ℕ) (q : ℤ) :
    (align a p x q).1 ≤ (align a p x q).2 ↔ (a : ℚ) * 10 ^ p ≤ x * 2 ^ q := by
  rw [← Nat.cast_le (α := ℚ), align_fst, align_snd,
    mul_le_mul_iff_of_pos_right (commonFactor_pos p q)]

lemma align_ge_iff (a : ℕ) (p : ℤ) (x : ℕ) (q : ℤ) :
    (align a p x q).2 ≤ (align a p x q).1 ↔ (x : ℚ) * 2 ^ q ≤ a * 10 ^ p := by
  rw [← Nat.cast_le (α := ℚ), align_fst, align_snd,
    mul_le_mul_iff_of_pos_right (commonFactor_pos p q)]

/-- A grid point is tested for lying in the interval. -/
lemma holds_iff (i : Interval) (a : ℕ) (p : ℤ) : i.holds a p = true ↔ i.Has (a * 10 ^ p) := by
  have hl := align_ge_iff a p i.low i.unit
  have hh := align_le_iff a p i.high i.unit
  have hl' := (align_le_iff a p i.low i.unit).not
  have hh' := (align_ge_iff a p i.high i.unit).not
  unfold Interval.holds Interval.Has
  cases hc : i.closed with
  | true => simp [hl, hh]
  | false =>
    simp only [Bool.false_eq_true, ↓reduceIte, Bool.and_eq_true, decide_eq_true_eq,
      forall_const]
    rw [← not_le, ← not_le, hl', hh', not_le, not_le]
    constructor
    · rintro ⟨h1, h2⟩
      exact ⟨h1.le, h2.le, h1, h2⟩
    · rintro ⟨-, -, h1, h2⟩
      exact ⟨h1, h2⟩

/-- The lower neighbour on a grid and the next point enclose the value. -/
lemma gridBelow_spec (x : ℕ) (q p : ℤ) :
    (gridBelow x q p : ℚ) * 10 ^ p ≤ x * 2 ^ q ∧
      (x : ℚ) * 2 ^ q < (gridBelow x q p + 1) * 10 ^ p := by
  have hf := commonFactor_pos p q
  have h1 := align_fst 1 p x q
  have h2 := align_snd 1 p x q
  have hpos : 0 < (align 1 p x q).1 := by
    have : (0 : ℚ) < ((align 1 p x q).1 : ℚ) := by
      rw [h1]
      positivity
    exact_mod_cast this
  have hg : gridBelow x q p = (align 1 p x q).2 / (align 1 p x q).1 := rfl
  rw [hg]
  generalize (align 1 p x q).1 = ten at h1 hpos ⊢
  generalize (align 1 p x q).2 = two at h2 ⊢
  have hle : ((two / ten : ℕ) : ℚ) * ten ≤ two := by exact_mod_cast Nat.div_mul_le_self two ten
  have hlt : (two : ℚ) < ((two / ten : ℕ) + 1) * ten := by
    have h := Nat.lt_div_mul_add (a := two) hpos
    rw [← Nat.succ_mul] at h
    exact_mod_cast h
  rw [h1, h2] at hle hlt
  constructor
  · refine le_of_mul_le_mul_right ?_ hf
    calc ((two / ten : ℕ) : ℚ) * 10 ^ p * commonFactor p q
        = (two / ten : ℕ) * ((1 : ℕ) * 10 ^ p * commonFactor p q) := by push_cast; ring
      _ ≤ x * 2 ^ q * commonFactor p q := hle
  · refine lt_of_mul_lt_mul_right ?_ hf.le
    calc (x : ℚ) * 2 ^ q * commonFactor p q
        < ((two / ten : ℕ) + 1) * ((1 : ℕ) * 10 ^ p * commonFactor p q) := hlt
      _ = ((two / ten : ℕ) + 1) * 10 ^ p * commonFactor p q := by push_cast; ring

/-! ### The search -/

/-- A point that is found lies in the interval. -/
lemma has_of_point? {i : Interval} {tie : Tie} {p : ℤ} {a : ℕ} (h : i.point? tie p = some a) :
    i.Has (a * 10 ^ p) := by
  unfold Interval.point? at h
  simp only at h
  rw [← holds_iff]
  split at h
  · next h1 h2 =>
    rw [Option.some.injEq] at h
    split at h <;> subst h <;> assumption
  · next h1 h2 => rwa [← Option.some.inj h]
  · next h1 h2 => rwa [← Option.some.inj h]
  · simp at h

/-- On a grid whose lower neighbour lies in the interval a point is found. -/
lemma point?_isSome {i : Interval} (tie : Tie) {p : ℤ}
    (h : i.Has (gridBelow i.value i.unit p * 10 ^ p)) : (i.point? tie p).isSome := by
  rw [← holds_iff] at h
  unfold Interval.point?
  simp only [h]
  cases i.holds (gridBelow i.value i.unit p + 1) p <;> rfl

@[simp] lemma value_dropZeros (fuel : ℕ) (s : Scaled) :
    (Scaled.dropZeros fuel s).value = s.value := by
  induction fuel generalizing s with
  | zero => rfl
  | succ fuel ih =>
    rw [Scaled.dropZeros]
    split
    · next h =>
      have hc : s.coefficient = 10 * (s.coefficient / 10) := by omega
      rw [ih]
      unfold Scaled.value
      conv_rhs => rw [hc]
      rw [zpow_add₀ (by norm_num)]
      push_cast
      ring
    · rfl

end VisualTemplate.Decimal
