import VisualTemplate.Proofs.Decimal.Fields
import VisualTemplate.Proofs.Decimal.Numerals
import VisualTemplate.Proofs.Json.NumberText
/-!
Finite numbers are read back from their text.

The digits of a number lie in its interval, and reading them rounds once, to the number. For this
a decimal number is rounded as exactly as any other, whether its power of ten is looked up or
computed, or is too large or too small to matter.
-/

namespace VisualTemplate.Decimal

open Float.Model Float.Model.UnpackedFloat

/-! ### Rounding what lies in an interval -/

section

variable {m : ℕ} {e : ℤ} {y : ℚ}

lemma two_zpow_unit : (2 : ℚ) ^ (Interval.around .single m e).unit = 2 ^ e / 4 := by
  show (2 : ℚ) ^ (e - 2) = 2 ^ e / 4
  rw [zpow_sub₀ (by norm_num)]
  norm_num

/-- What lies in the interval of a number is within half a unit of its last place. -/
lemma near_of_has (hm : 0 < m) (h : (Interval.around .single m e).Has y) :
    (m - 1 / 2) * 2 ^ e ≤ y ∧ y ≤ (m + 1 / 2) * 2 ^ e ∧
      (m % 2 ≠ 0 → (m - 1 / 2) * 2 ^ e < y ∧ y < (m + 1 / 2) * 2 ^ e) := by
  obtain ⟨hlow, hhigh, hopen⟩ := h
  have hlower : (4 * m - 2 : ℚ) ≤ (Interval.around .single m e).low := by
    have hle : 4 * m - 2 ≤ (Interval.around .single m e).low := by
      simp only [Interval.around]
      split <;> omega
    have hcast : ((4 * m - 2 : ℕ) : ℚ) = 4 * m - 2 := by
      rw [Nat.cast_sub (by omega)]
      push_cast
      rfl
    rw [← hcast]
    exact mod_cast hle
  have hupper : ((Interval.around .single m e).high : ℚ) = 4 * m + 2 := by
    simp [Interval.around]
  have hbelow : (m - 1 / 2) * 2 ^ e ≤ (Interval.around .single m e).low * (2 ^ e / 4 : ℚ) := by
    calc (m - 1 / 2 : ℚ) * 2 ^ e = (4 * m - 2) * (2 ^ e / 4) := by ring
      _ ≤ (Interval.around .single m e).low * (2 ^ e / 4 : ℚ) := by gcongr
  have habove : (4 * m + 2 : ℚ) * (2 ^ e / 4) = (m + 1 / 2) * 2 ^ e := by ring
  rw [two_zpow_unit] at hlow hhigh hopen
  rw [hupper, habove] at hhigh hopen
  refine ⟨hbelow.trans hlow, hhigh, fun hodd => ?_⟩
  have hclosed : (Interval.around .single m e).closed = false := by
    rwa [← Bool.not_eq_true, around_closed]
  exact ⟨hbelow.trans_lt (hopen hclosed).1, (hopen hclosed).2⟩

/-- Below a power of two the last place is one further down, and the interval ends half a unit of
that place below. -/
lemma rounded_of_has_dense (he : -149 < e) (h : (Interval.around .single (2 ^ 23) e).Has y)
    (hy : y < 2 ^ 23 * 2 ^ e) : rounded y = 2 ^ 23 * 2 ^ e := by
  have hlow := h.1
  have hlower : (Interval.around .single (2 ^ 23) e).low = 4 * 2 ^ 23 - 1 :=
    if_pos ⟨rfl, least_single.trans_lt he⟩
  rw [two_zpow_unit, hlower] at hlow
  norm_num at hlow hy
  have hunit : (0 : ℚ) < 2 ^ e := by positivity
  have hhalf : (2 : ℚ) ^ (e - 1) = 2 ^ e / 2 := by
    rw [zpow_sub_one₀ (by norm_num)]
    rfl
  have hplace : lastPlace y = e - 1 := by
    refine lastPlace_eq ?_ (by omega) ?_ fun _ => ?_
    · linarith
    · rw [hhalf]
      linarith
    · rw [hhalf]
      linarith
  have hvalue : (2 : ℚ) ^ 23 * 2 ^ e = (2 ^ 24 : ℕ) * 2 ^ (e - 1) := by
    rw [hhalf]
    push_cast
    ring
  rw [hvalue]
  refine rounded_eq hplace ?_ ?_ fun hodd => absurd (by norm_num) hodd
  all_goals
    rw [hhalf]
    norm_num
    linarith

/-- **What lies in the interval of a number is rounded to it.** -/
theorem rounded_of_has (hc : Canonical .single m e) (hm : 0 < m)
    (h : (Interval.around .single m e).Has y) : rounded y = m * 2 ^ e := by
  have hleast : -149 ≤ e := least_single.symm.trans_le hc.least_le
  have hunit : (0 : ℚ) < 2 ^ e := by positivity
  obtain ⟨hlow, hhigh, hodd⟩ := near_of_has hm h
  by_cases hdense : m = 2 ^ 23 ∧ -149 < e ∧ y < 2 ^ 23 * 2 ^ e
  · obtain ⟨rfl, hexponent, hbelow⟩ := hdense
    exact_mod_cast rounded_of_has_dense hexponent h hbelow
  have hone : (1 : ℚ) ≤ m := mod_cast hm
  have hlt : (m : ℚ) + 1 ≤ 2 ^ 24 := mod_cast (hc.lt : m + 1 ≤ 2 ^ 24)
  have hplace : lastPlace y = e := by
    refine lastPlace_eq ?_ hleast ?_ fun hexponent => ?_
    · calc 0 < (1 - 1 / 2) * (2 : ℚ) ^ e := by positivity
        _ ≤ (m - 1 / 2) * 2 ^ e := by gcongr
        _ ≤ y := hlow
    · calc y ≤ (m + 1 / 2) * 2 ^ e := hhigh
        _ < 2 ^ 24 * 2 ^ e := by
          gcongr
          linarith
    · -- all digits are there, and are still there half a unit below unless all but one are zero
      have hfull : 2 ^ 23 ≤ m := hc.le_of_least_lt (least_single.trans_lt hexponent)
      rcases hfull.eq_or_lt with heq | hmore
      · exact not_lt.1 fun hbelow => hdense ⟨heq.symm, hexponent, hbelow⟩
      · have hmore' : (2 : ℚ) ^ 23 + 1 ≤ m := mod_cast hmore
        calc (2 : ℚ) ^ 23 * 2 ^ e ≤ (m - 1 / 2) * 2 ^ e := by
              gcongr
              linarith
          _ ≤ y := hlow
  exact rounded_eq hplace hlow hhigh hodd

end

/-! ### Decimal numbers -/

/-- What is at most half of the smallest number is rounded to nothing. -/
lemma rounded_of_tiny {x : ℚ} (hpos : 0 < x) (h : x ≤ 2 ^ (-150 : ℤ)) : rounded x = 0 := by
  have hhalf : (2 : ℚ) ^ (-150 : ℤ) = (0 + 1 / 2) * 2 ^ (-149 : ℤ) := by norm_num
  have hplace : lastPlace x = -149 :=
    lastPlace_eq hpos le_rfl (h.trans_lt (by norm_num)) fun hless => absurd hless (lt_irrefl _)
  have hzero : rounded x = (0 : ℕ) * 2 ^ (-149 : ℤ) := by
    refine rounded_eq hplace ?_ ?_ fun hodd => absurd rfl hodd
    · refine le_trans ?_ hpos.le
      norm_num
    · rw [Nat.cast_zero, ← hhalf]
      exact h
  rwa [Nat.cast_zero, zero_mul] at hzero

lemma le_rounded_of_large {x : ℚ} (h : 2 ^ 128 ≤ x) : 2 ^ 128 ≤ rounded x :=
  (rounded_two_pow 128).symm.trans_le (rounded_mono (by positivity) h)

lemma two_pow_le_of_large {m : ℕ} {e : ℤ} (hm : 0 < m) (he : 128 ≤ e) :
    (2 : ℚ) ^ 128 ≤ m * 10 ^ e := by
  have hone : (1 : ℚ) ≤ m := mod_cast hm
  calc (2 : ℚ) ^ 128 = 1 * 2 ^ (128 : ℤ) := by norm_num
    _ ≤ 1 * 2 ^ e := by
        gcongr
        norm_num
    _ ≤ m * 10 ^ e := by
        gcongr
        exact zpow_le_zpow_left₀ (by omega) (by norm_num) (by norm_num)

lemma le_two_zpow_of_small {m k : ℕ} (hk : 150 + (m.log2 + 1) ≤ k) :
    (m : ℚ) * 10 ^ (-(k : ℤ)) ≤ 2 ^ (-150 : ℤ) := by
  have hlog : (m : ℚ) ≤ 2 ^ (m.log2 + 1) := mod_cast Nat.lt_log2_self.le
  have hpower : (2 : ℚ) ^ 150 * 2 ^ (m.log2 + 1) ≤ 10 ^ k := by
    calc (2 : ℚ) ^ 150 * 2 ^ (m.log2 + 1) = 2 ^ (150 + (m.log2 + 1)) := (pow_add ..).symm
      _ ≤ 2 ^ k := pow_le_pow_right₀ (by norm_num) hk
      _ ≤ 10 ^ k := by
          gcongr
          norm_num
  rw [zpow_neg, zpow_natCast, ← div_eq_mul_inv, div_le_iff₀ (by positivity)]
  calc (m : ℚ) ≤ 2 ^ (m.log2 + 1) := hlog
    _ = 2 ^ (-150 : ℤ) * (2 ^ 150 * 2 ^ (m.log2 + 1)) := by
        rw [← mul_assoc, zpow_neg]
        norm_num
    _ ≤ 2 ^ (-150 : ℤ) * 10 ^ k := by gcongr

/-- **A number with a decimal exponent is rounded just once.** Exponents that are too large or too
small for the number to matter are sorted out first, without computing the power of ten. -/
theorem has_ofScientific (m : ℕ) (e : ℤ) (h : rounded (m * 10 ^ e) < 2 ^ 128) :
    Has (UnpackedFloat.ofScientific .binary32 m e) (rounded (m * 10 ^ e)) := by
  unfold UnpackedFloat.ofScientific
  split
  · next hzero =>
    rw [hzero, Nat.cast_zero, zero_mul, rounded_zero]
    exact .zero _
  next hne =>
  have hm : 0 < m := Nat.pos_of_ne_zero hne
  split
  · next hlarge =>
    have hhuge := two_pow_le_of_large hm (le_trans (by norm_num) hlarge.le : 128 ≤ e)
    exact absurd h (not_lt.2 (le_rounded_of_large hhuge))
  split
  · next hsmall =>
    obtain ⟨k, rfl⟩ : ∃ k : ℕ, e = -k := ⟨(-e).toNat, by norm_num at hsmall; omega⟩
    have hk : 150 + (m.log2 + 1) ≤ k := by
      norm_num at hsmall
      omega
    rw [rounded_of_tiny (by positivity) (le_two_zpow_of_small hk)]
    exact .zero _
  split
  · next hle =>
    obtain ⟨k, rfl⟩ := Int.eq_ofNat_of_zero_le hle
    have hone : (1 : ℚ) ≤ m := mod_cast hm
    have hvalue : ((m <<< 24 : ℕ) : ℚ) * 2 ^ (-24 : ℤ) * ((10 ^ k : ℕ) * 2 ^ (0 : ℤ)) =
        m * 10 ^ (k : ℤ) := by
      rw [Nat.shiftLeft_eq, zpow_natCast]
      push_cast
      norm_num
      ring
    have hplace : (-24 : ℤ) + 0 ≤ lastPlace (m * 10 ^ (k : ℤ)) := by
      refine Has.le_lastPlace (by positivity) ?_
      calc (2 : ℚ) ^ (23 + (-24 + 0) : ℤ) ≤ 1 * 1 := by norm_num
        _ ≤ m * 10 ^ (k : ℤ) := by
            gcongr
            exact one_le_zpow₀ (by norm_num) hle
    rw [← hvalue] at hplace ⊢
    exact Has.mul_finite _ _ hplace
  · next hlt =>
    obtain ⟨k, rfl⟩ : ∃ k : ℕ, e = -k := ⟨(-e).toNat, by omega⟩
    have hvalue : (m : ℚ) * 2 ^ (0 : ℤ) / ((10 ^ k : ℕ) * 2 ^ (0 : ℤ)) = m * 10 ^ (-(k : ℤ)) := by
      rw [zpow_neg, zpow_natCast, div_eq_mul_inv]
      push_cast
      norm_num
    rw [← hvalue]
    simp only [neg_neg, Int.toNat_natCast]
    exact Has.div_finite hm _

end VisualTemplate.Decimal

namespace Float32

open VisualTemplate.Decimal
open Float.Model Float.Model.UnpackedFloat

variable {m : ℕ}

/-- A small whole number is a float as it is. -/
lemma is_whole {k : ℕ} (hk : k < 2 ^ 24) : k.toUInt64.toFloat32.Is k := by
  have hvalue : k.toUInt64.toNat = k := by
    show k % 2 ^ 64 = k
    omega
  have hnormal := has_normalize (e := 0) (n := k.toUInt64.toNat) (by positivity)
  rw [zpow_zero, mul_one, Int.cast_natCast] at hnormal
  have hexact : rounded (k.toUInt64.toNat : ℚ) = k := by rw [hvalue, rounded_natCast hk]
  rw [hexact] at hnormal
  exact is_pack hnormal (mod_cast hk.trans (by norm_num))

/-- Five to a power that is looked up has 24 binary digits at most. -/
lemma binary_powerOfTen : ∀ k : Fin exactlyRepresentablePowersOfTen.size,
    exactlyRepresentablePowersOfTen[k].binary =
      .finite false (5 ^ k.val * 2 ^ (23 - (5 ^ k.val).log2))
        (k.val - (23 - (5 ^ k.val).log2 : ℕ)) := by
  decide +kernel

/-- So the powers of ten that are looked up are exact. -/
lemma is_powerOfTen {k : ℕ} (hk : k < exactlyRepresentablePowersOfTen.size) :
    exactlyRepresentablePowersOfTen[k].Is (10 ^ k) := by
  have hvalue : ((5 ^ k * 2 ^ (23 - (5 ^ k).log2) : ℕ) : ℚ) *
      2 ^ ((k : ℤ) - (23 - (5 ^ k).log2 : ℕ)) = 10 ^ k := by
    rw [zpow_sub₀ (by norm_num), zpow_natCast, zpow_natCast]
    push_cast
    field_simp
    rw [← mul_pow]
    norm_num
  rw [← hvalue]
  exact is_of_binary (binary_powerOfTen ⟨k, hk⟩)

/-- **A decimal number is rounded once**, whether its power of ten is looked up or computed. -/
theorem is_ofScientific {k : ℕ} (negative : Bool)
    (h : rounded (m * 10 ^ (if negative then -(k : ℤ) else k)) < 2 ^ 128) :
    (Float32.ofScientific m negative k).Is
      (rounded (m * 10 ^ (if negative then -(k : ℤ) else k))) := by
  unfold Float32.ofScientific
  split
  · next hsmall =>
    have hwhole : m.toUInt64.toFloat32.Is m := is_whole (hsmall.1.trans (by norm_num))
    have hpower := is_powerOfTen (Nat.lt_succ_of_le hsmall.2)
    cases negative with
    | true =>
      simp only [if_true, zpow_neg, zpow_natCast, ← div_eq_mul_inv] at h ⊢
      exact hwhole.div hpower (by positivity) h
    | false =>
      simp only [Bool.false_eq_true, if_false, zpow_natCast] at h ⊢
      exact hwhole.mul hpower h
  · have hexponent : (if negative then Int.negOfNat k else Int.ofNat k) =
        (if negative then -(k : ℤ) else k) := by
      cases negative
      · rfl
      · exact Int.negOfNat_eq
    simp only [hexponent]
    exact is_pack (has_ofScientific _ _ h) h

end Float32

namespace VisualTemplate.Decimal

/-- The number that is read is the rounded value. -/
lemma Scaled.is_single {s : Scaled} (h : rounded s.value < 2 ^ 128) :
    s.single.Is (rounded s.value) := by
  obtain ⟨m, e⟩ := s
  unfold Scaled.single
  simp only [Scaled.value] at h ⊢
  split
  · next hle =>
    obtain ⟨k, rfl⟩ := Int.eq_ofNat_of_zero_le hle
    exact Float32.is_ofScientific false h
  · next hlt =>
    obtain ⟨k, rfl⟩ : ∃ k : ℕ, e = -k := ⟨(-e).toNat, by omega⟩
    have hk : (- -(k : ℤ)).toNat = k := by omega
    rw [hk]
    exact Float32.is_ofScientific true h

/-! ### Texts of numbers -/

lemma toLower_of_isNumberChar {c : Char} (h : isNumberChar c = true) : c.toLower = c := by
  rcases Text.toLower_eq_or c with hsmall | hcapital
  · exact hsmall
  · have hnot : isNumberChar c = false :=
      Text.of_isUpper (P := fun c => isNumberChar c = false) (by decide) hcapital
    rw [h] at hnot
    cases hnot

lemma map_toLower_of_isNumberChar {cs : List Char} (h : ∀ c ∈ cs, isNumberChar c = true) :
    cs.map Char.toLower = cs :=
  (List.map_congr_left fun c hc => toLower_of_isNumberChar (h c hc)).trans (List.map_id _)

/-- What is read as a number without a sign has none. -/
lemma readSign_of_readScaled? {cs : List Char} {s : Scaled} (h : readScaled? cs = some s) :
    readSign cs = (false, cs) := by
  unfold readSign
  split
  · simp [readScaled?, List.span_eq_takeWhile_dropWhile] at h
  · simp [readScaled?, List.span_eq_takeWhile_dropWhile] at h
  · rfl

/-- The value of a number behind an optional sign. -/
lemma ofText?_of_readScaled {cs : List Char} {s : Scaled} (n : Bool)
    (hcs : ∀ c ∈ cs, isNumberChar c = true) (h : readScaled? cs = some s) :
    Float32.ofText? (.ofList ((if n then ['-'] else []) ++ cs)) =
      some (if n then -s.single else s.single) := by
  have hsign : readSign ((if n then ['-'] else []) ++ cs) = (n, cs) := by
    cases n with
    | true => rfl
    | false => exact readSign_of_readScaled? h
  have hword {word : String} (hletter : ∃ c ∈ word.toList, isNumberChar c = false) :
      (String.ofList cs == word) = false := by
    obtain ⟨c, hc, hletter⟩ := hletter
    rw [beq_eq_false_iff_ne]
    rintro rfl
    rw [String.toList_ofList] at hc
    rw [hcs c hc] at hletter
    cases hletter
  have hinf : (String.ofList cs == "inf") = false := hword ⟨'i', by decide, by decide⟩
  have hinfinity : (String.ofList cs == "infinity") = false := hword ⟨'i', by decide, by decide⟩
  have hnan : (String.ofList cs == "nan") = false := hword ⟨'n', by decide, by decide⟩
  rw [Float32.ofText?, String.toList_ofList, hsign]
  simp only [map_toLower_of_isNumberChar hcs, hinf, hinfinity, hnan, h, Bool.or_self,
    Bool.false_eq_true, if_false, Option.map_some]

end VisualTemplate.Decimal

namespace Float32

open VisualTemplate.Decimal

variable {x y : Float32} {n n' : Bool} {m m' : ℕ} {e e' : ℤ}

/-- The digits of a small whole number are read as it. -/
lemma ofText?_repr {n : ℕ} (hn : n < 2 ^ 24) :
    ∃ x, ofText? n.repr = some x ∧ x.Is n := by
  have hdigits : ∀ c ∈ digitsOf n, c.isDigit = true := fun c hc => isDigit_of_mem_digitsOf hc
  have hread : readScaled? (digitsOf n) = some ⟨n, 0⟩ := by
    have hwhole := readScaled?_whole (r := []) hdigits (by simp) (by simp) (digitsOf_ne_nil n)
    rwa [List.append_nil, wholeOf_digitsOf] at hwhole
  have hvalue : rounded (Scaled.value ⟨n, 0⟩) = n := by
    show rounded (n * 10 ^ (0 : ℤ)) = n
    rw [zpow_zero, mul_one, rounded_natCast hn]
  have hlt : (n : ℚ) < 2 ^ 128 := mod_cast hn.trans (by norm_num)
  have hsingle := Scaled.is_single (hvalue.trans_lt hlt)
  rw [hvalue] at hsingle
  refine ⟨_, ?_, hsingle⟩
  rw [← String.ofList_toList (s := n.repr)]
  exact ofText?_of_readScaled false (fun _ => isNumberChar_of_mem_digitsOf) hread

/-- **A finite number is read back from its text.** The digits lie in the interval of the number,
and all that lies there is rounded to it. -/
theorem ofText?_plain (hx : x.binary = .finite n m e) : ofText? x.plain = some x := by
  have hc : Canonical .single m e := canonical_ofBits hx
  rcases Nat.eq_zero_or_pos m with rfl | hm
  · -- there is one zero with each sign, and no other number without digits
    obtain rfl : e = -149 := hc.eq_least.trans least_single
    cases n with
    | true =>
      obtain rfl : x = -0 := eq_of_binary hx (by decide)
      decide +kernel
    | false =>
      obtain rfl : x = 0 := eq_of_binary hx (by decide)
      decide +kernel
  · obtain ⟨s, hread, hvalue⟩ := readsAs_size .plain (shortest .single .up m e)
    have hlist : x.plain = .ofList ((if n then ['-'] else []) ++
        Layout.plain.size (shortest .single .up m e)) := by
      rw [plain, hx, ← String.toList_inj, toList_text_finite, String.toList_ofList]
      rfl
    have hrounded : rounded s.value = m * 2 ^ e := by
      rw [hvalue]
      exact rounded_of_has hc hm (around_has_shortest .up supported_single hc hm)
    have hsingle : s.single.Is (m * 2 ^ e) := by
      have hreread := Scaled.is_single (hrounded.trans_lt (lt_of_binary hx))
      rwa [hrounded] at hreread
    rw [hlist, ofText?_of_readScaled n (fun _ => isNumberChar_of_mem_size) hread]
    cases n with
    | true => exact congrArg some (eq_of_binary (binary_neg (hsingle.binary hm hc)) hx)
    | false => exact congrArg some (eq_of_binary (hsingle.binary hm hc) hx)

/-- No two finite numbers are written alike. -/
theorem plain_inj (hx : x.binary = .finite n m e) (hy : y.binary = .finite n' m' e')
    (h : x.plain = y.plain) : x = y := by
  have hread := ofText?_plain hx
  rw [h, ofText?_plain hy] at hread
  exact (Option.some.inj hread).symm

/-- Only zero is written as the digit. -/
lemma plain_eq_zero_iff : x.plain = "0" ↔ x = 0 := by
  have hzero : (0 : Float32).binary = .finite false 0 (-149) := rfl
  have hwritten : (0 : Float32).plain = "0" := by decide
  constructor
  · intro h
    cases hx : x.binary with
    | nan =>
      rw [plain, hx] at h
      exact absurd h (by decide)
    | infinite n =>
      rw [plain, hx] at h
      cases n <;> exact absurd h (by decide)
    | finite n m e => exact plain_inj hx hzero (h.trans hwritten.symm)
  · rintro rfl
    exact hwritten

end Float32
