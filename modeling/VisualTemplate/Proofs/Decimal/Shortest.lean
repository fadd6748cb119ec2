import VisualTemplate.Proofs.Decimal.Grid
/-!
The digits of a float lie in its interval, and no two floats share an interval.

Hence the digits tell a float from every other. The search for them succeeds because the eighteenth
grid is finer than the interval of any number with at most 53 binary digits; for this its first
grid must not start above the number, which the estimate of its decimal exponent guarantees.
-/

namespace VisualTemplate.Decimal

/-! ### The first grid -/

lemma ten_pow_le_two_pow : 10 ^ 1233 ≤ 2 ^ 4096 := by decide +kernel

lemma two_pow_le_ten_pow : 2 ^ 4096 ≤ 10 ^ 1234 := by decide +kernel

/-- `1233 / 4096` is the decimal logarithm of two, a little rounded down. -/
lemma ten_zpow_le_two_zpow {n : ℤ} (hn : -4096 ≤ n) :
    (10 : ℚ) ^ (1233 * n - 4096) ≤ 2 ^ (4096 * n) := by
  rcases le_or_gt 0 n with h | h
  · obtain ⟨k, rfl⟩ := Int.eq_ofNat_of_zero_le h
    have hk : (10 : ℚ) ^ (1233 * (k : ℤ)) ≤ 2 ^ (4096 * (k : ℤ)) := by
      rw [zpow_mul, zpow_mul, zpow_natCast, zpow_natCast]
      exact pow_le_pow_left₀ (by positivity) (by exact_mod_cast ten_pow_le_two_pow) k
    exact (zpow_le_zpow_right₀ (by norm_num) (by omega)).trans hk
  · obtain ⟨k, rfl⟩ : ∃ k : ℕ, n = -(k : ℤ) := ⟨n.natAbs, by omega⟩
    have hk : (10 : ℚ) ^ (1234 * -(k : ℤ)) ≤ 2 ^ (4096 * -(k : ℤ)) := by
      rw [zpow_mul, zpow_mul, zpow_neg, zpow_neg, zpow_natCast, zpow_natCast]
      refine inv_anti₀ (by positivity) (pow_le_pow_left₀ (by positivity) ?_ k)
      exact_mod_cast two_pow_le_ten_pow
    exact (zpow_le_zpow_right₀ (by norm_num) (by omega)).trans hk

lemma ten_zpow_guess_le {n : ℤ} (hn : -4096 ≤ n) : (10 : ℚ) ^ (n * 1233 / 4096 - 1) ≤ 2 ^ n := by
  have hk : (n * 1233 / 4096 - 1) * 4096 ≤ 1233 * n - 4096 := by omega
  have h : ((10 : ℚ) ^ (n * 1233 / 4096 - 1)) ^ 4096 ≤ (2 ^ n) ^ 4096 := by
    calc ((10 : ℚ) ^ (n * 1233 / 4096 - 1)) ^ 4096
        = 10 ^ ((n * 1233 / 4096 - 1) * 4096) := by
          rw [zpow_mul, show (4096 : ℤ) = ((4096 : ℕ) : ℤ) by norm_num, zpow_natCast]
      _ ≤ 10 ^ (1233 * n - 4096) := zpow_le_zpow_right₀ (by norm_num) hk
      _ ≤ 2 ^ (4096 * n) := ten_zpow_le_two_zpow hn
      _ = (2 ^ n) ^ 4096 := by
          rw [mul_comm, zpow_mul, show (4096 : ℤ) = ((4096 : ℕ) : ℤ) by norm_num, zpow_natCast]
  exact le_of_pow_le_pow_left₀ (by norm_num) (by positivity) h

/-- The first grid has a point, other than zero, that is not above the number. -/
lemma ten_zpow_leading_le {x : ℕ} {q : ℤ} (hx : x ≠ 0) (hn : -4096 ≤ (x.log2 : ℤ) + q) :
    (10 : ℚ) ^ leading x q ≤ x * 2 ^ q := by
  have reaches (p : ℤ) (h : (align 1 p x q).1 ≤ (align 1 p x q).2) :
      (10 : ℚ) ^ p ≤ x * 2 ^ q := by
    simpa using (align_le_iff 1 p x q).1 h
  unfold leading
  simp only [decide_eq_true_eq]
  split
  · next h => exact reaches _ h
  · split
    · next h => exact reaches _ h
    · have hlog : (2 : ℚ) ^ x.log2 ≤ x := by exact_mod_cast Nat.log2_self_le hx
      calc (10 : ℚ) ^ (((x.log2 : ℤ) + q) * 1233 / 4096 - 1)
          ≤ 2 ^ ((x.log2 : ℤ) + q) := ten_zpow_guess_le hn
        _ = 2 ^ x.log2 * 2 ^ q := by rw [zpow_add₀ (by norm_num), zpow_natCast]
        _ ≤ x * 2 ^ q := by gcongr

/-! ### The digits -/

/-- On the eighteenth grid the lower neighbour lies in the interval. -/
lemma has_gridBelow {i : Interval} (hx : i.value ≠ 0) (hn : -4096 ≤ (i.value.log2 : ℤ) + i.unit)
    (hsmall : i.value < 2 ^ 55) (hlow : i.low + 1 ≤ i.value) (hhigh : i.value < i.high) :
    i.Has (gridBelow i.value i.unit (leading i.value i.unit - 17) *
      10 ^ (leading i.value i.unit - 17)) := by
  have hlead := ten_zpow_leading_le hx hn
  generalize leading i.value i.unit = top at hlead ⊢
  obtain ⟨h1, h2⟩ := gridBelow_spec i.value i.unit (top - 17)
  have hunit : (0 : ℚ) < 2 ^ i.unit := by positivity
  have hgrid : (10 : ℚ) ^ (top - 17) * 10 ^ 17 ≤ i.value * 2 ^ i.unit := by
    rw [zpow_sub₀ (by norm_num)]
    refine le_of_eq_of_le ?_ hlead
    norm_num
  have hfine : (10 : ℚ) ^ (top - 17) < 2 ^ i.unit := by
    have hv : (i.value : ℚ) * 2 ^ i.unit < 10 ^ 17 * 2 ^ i.unit := by
      gcongr
      have : (i.value : ℚ) < 2 ^ 55 := by exact_mod_cast hsmall
      linarith
    nlinarith
  have hlow' : (i.low : ℚ) * 2 ^ i.unit + 2 ^ i.unit ≤ i.value * 2 ^ i.unit := by
    rw [← add_one_mul]
    gcongr
    exact_mod_cast hlow
  have hhigh' : (i.value : ℚ) * 2 ^ i.unit < i.high * 2 ^ i.unit := by gcongr
  rw [add_one_mul] at h2
  exact ⟨by linarith, by linarith, fun _ => ⟨by linarith, by linarith⟩⟩

/-- **The digits lie in the interval.** -/
theorem has_shortest {i : Interval} (tie : Tie) (hx : i.value ≠ 0)
    (hn : -4096 ≤ (i.value.log2 : ℤ) + i.unit) (hsmall : i.value < 2 ^ 55)
    (hlow : i.low + 1 ≤ i.value) (hhigh : i.value < i.high) : i.Has (i.shortest tie).value := by
  have hlast := point?_isSome tie (has_gridBelow hx hn hsmall hlow hhigh)
  unfold Interval.shortest
  simp only [value_dropZeros]
  set tries := (List.range 18).map fun n : ℕ => leading i.value i.unit - (n : ℤ) with htries
  cases hf : tries.findSome? fun p => (i.point? tie p).map fun a => Scaled.mk a p with
  | some s =>
    obtain ⟨p, -, hp⟩ := List.exists_of_findSome?_eq_some hf
    obtain ⟨a, ha, rfl⟩ := Option.map_eq_some_iff.1 hp
    exact has_of_point? ha
  | none =>
    have hmem : leading i.value i.unit - 17 ∈ tries := by
      rw [htries, List.mem_map]
      exact ⟨17, by simp, by norm_num⟩
    have hnone := List.findSome?_eq_none_iff.1 hf _ hmem
    rw [Option.map_eq_none_iff] at hnone
    simp [hnone] at hlast

/-! ### No two floats share an interval -/

/-- Significand and exponent as a float has them: all binary digits are used, except by the
smallest numbers. -/
structure Canonical (w : Width) (m : ℕ) (e : ℤ) : Prop where
  lt : m < 2 * 2 ^ w.fraction
  least_le : w.least ≤ e
  le_of_least_lt : w.least < e → 2 ^ w.fraction ≤ m

variable {w : Width} {m m' : ℕ} {e e' : ℤ}

lemma around_closed : (Interval.around w m e).closed = true ↔ m % 2 = 0 := by
  simp [Interval.around]

/-- Seen in units of the lower number's last place, its interval ends no later than that of the
upper number begins. They touch only where one of them is open. -/
lemma high_le_low (hc : Canonical w m e) (hc' : Canonical w m' e') (hm' : 0 < m')
    (hlt : (m : ℚ) * 2 ^ e < m' * 2 ^ e') :
    ∃ d : ℕ, e' = e + d ∧
      4 * m + 2 ≤ (Interval.around w m' e').low * 2 ^ d ∧
      (m % 2 = 0 → m' % 2 = 0 → 4 * m + 2 < (Interval.around w m' e').low * 2 ^ d) := by
  have hle : e ≤ e' := by
    by_contra hgt
    have hm := hc.le_of_least_lt (by have := hc'.least_le; omega)
    have h1 : (m' : ℚ) * 2 ^ e' < 2 ^ w.fraction * 2 * 2 ^ e' := by
      gcongr
      have := hc'.lt
      rw [mul_comm] at this
      exact_mod_cast this
    have h2 : (2 : ℚ) ^ w.fraction * 2 * 2 ^ e' ≤ m * 2 ^ e := by
      rw [mul_assoc, ← zpow_one_add₀ (by norm_num)]
      have : (2 : ℚ) ^ w.fraction ≤ m := by exact_mod_cast hm
      gcongr
      · norm_num
      · omega
    linarith
  obtain ⟨d, rfl⟩ : ∃ d : ℕ, e' = e + d := ⟨(e' - e).toNat, by omega⟩
  refine ⟨d, rfl, ?_⟩
  rcases Nat.eq_zero_or_pos d with rfl | hd
  · -- one exponent, so the significands are ordered and the upper is no power of two
    have hmm : m < m' := by
      rw [Nat.cast_zero, add_zero] at hlt
      exact_mod_cast lt_of_mul_lt_mul_right hlt (by positivity)
    have hdense : ¬ (m' = 2 ^ w.fraction ∧ w.least < e + (0 : ℕ)) := by
      rintro ⟨h1, h2⟩
      have := hc.le_of_least_lt (by simpa using h2)
      omega
    simp only [Interval.around, Nat.pow_eq, hdense, ↓reduceIte, pow_zero, mul_one]
    omega
  · -- the upper exponent is larger, so the upper significand has its leading digit
    have hfull := hc'.le_of_least_lt (by have := hc.least_le; omega)
    have hlow : 4 * 2 ^ w.fraction - 1 ≤ (Interval.around w m' (e + d)).low := by
      simp only [Interval.around, Nat.pow_eq]
      split
      · omega
      · next h =>
        have hl : w.least < e + d := by have := hc.least_le; omega
        have : m' ≠ 2 ^ w.fraction := fun heq => h ⟨heq, hl⟩
        omega
    have hpow : (4 * 2 ^ w.fraction - 1) * 2 ≤ (Interval.around w m' (e + d)).low * 2 ^ d :=
      Nat.mul_le_mul hlow (Nat.le_self_pow (by omega) 2)
    have := hc.lt
    omega

lemma not_has_of_lt (hc : Canonical w m e) (hc' : Canonical w m' e') (hm' : 0 < m')
    (hlt : (m : ℚ) * 2 ^ e < m' * 2 ^ e') {x : ℚ} (h : (Interval.around w m e).Has x)
    (h' : (Interval.around w m' e').Has x) : False := by
  obtain ⟨d, rfl, hle, hopen⟩ := high_le_low hc hc' hm' hlt
  have hshift : ((Interval.around w m' (e + d)).low : ℚ) * 2 ^ (e + d - 2) =
      ((Interval.around w m' (e + d)).low * 2 ^ d : ℕ) * 2 ^ (e - 2) := by
    rw [show e + d - 2 = d + (e - 2) by ring, zpow_add₀ (by norm_num), zpow_natCast]
    push_cast
    ring
  have hx : x ≤ (4 * m + 2 : ℕ) * 2 ^ (e - 2) := h.2.1
  have hx' : ((Interval.around w m' (e + d)).low * 2 ^ d : ℕ) * (2 : ℚ) ^ (e - 2) ≤ x := by
    rw [← hshift]
    exact h'.1
  by_cases hm : m % 2 = 0
  · by_cases hmm : m' % 2 = 0
    · have : ((4 * m + 2 : ℕ) : ℚ) * 2 ^ (e - 2) <
          ((Interval.around w m' (e + d)).low * 2 ^ d : ℕ) * 2 ^ (e - 2) := by
        gcongr
        exact hopen hm hmm
      linarith
    · have hstrict : ((Interval.around w m' (e + d)).low : ℚ) * 2 ^ (e + d - 2) < x :=
        (h'.2.2 (by rw [← Bool.not_eq_true, around_closed]; exact hmm)).1
      rw [hshift] at hstrict
      have : ((4 * m + 2 : ℕ) : ℚ) * 2 ^ (e - 2) ≤
          ((Interval.around w m' (e + d)).low * 2 ^ d : ℕ) * 2 ^ (e - 2) := by gcongr
      linarith
  · have hstrict : x < (4 * m + 2 : ℕ) * 2 ^ (e - 2) :=
      (h.2.2 (by rw [← Bool.not_eq_true, around_closed]; exact hm)).2
    have : ((4 * m + 2 : ℕ) : ℚ) * 2 ^ (e - 2) ≤
        ((Interval.around w m' (e + d)).low * 2 ^ d : ℕ) * 2 ^ (e - 2) := by gcongr
    linarith

/-- One number has one significand and one exponent. -/
lemma eq_of_value_eq (hc : Canonical w m e) (hc' : Canonical w m' e') (hm : 0 < m) (hm' : 0 < m')
    (h : (m : ℚ) * 2 ^ e = m' * 2 ^ e') : m = m' ∧ e = e' := by
  wlog hle : e ≤ e' generalizing m m' e e'
  · obtain ⟨h1, h2⟩ := this hc' hc hm' hm h.symm (by omega)
    exact ⟨h1.symm, h2.symm⟩
  obtain ⟨d, rfl⟩ : ∃ d : ℕ, e' = e + d := ⟨(e' - e).toNat, by omega⟩
  have hmul : m = m' * 2 ^ d := by
    rw [zpow_add₀ (by norm_num), mul_left_comm, mul_comm (m : ℚ)] at h
    have := mul_left_cancel₀ (by positivity) h
    rw [zpow_natCast] at this
    exact_mod_cast this
  rcases Nat.eq_zero_or_pos d with rfl | hd
  · exact ⟨by simpa using hmul, by simp⟩
  · have hfull := hc'.le_of_least_lt (by have := hc.least_le; omega)
    have h2 : 2 ^ w.fraction * 2 ≤ m' * 2 ^ d :=
      Nat.mul_le_mul hfull (Nat.le_self_pow (by omega) 2)
    have := hc.lt
    omega

end VisualTemplate.Decimal
