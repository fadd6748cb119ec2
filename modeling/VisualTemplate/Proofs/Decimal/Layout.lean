import VisualTemplate.Decimal.Reading
import VisualTemplate.Proofs.Decimal.Shortest
/-!
A number that is laid out reads back with its value, so that its text tells it from all others.

This holds for every layout: what a layout decides is only where the point stands and whether
there is an exponent.
-/

namespace VisualTemplate.Decimal

/-! ### Runs of digits -/

lemma wholeOf_eq_ofDigitChars (ds : List Char) : wholeOf ds = Nat.ofDigitChars 10 ds 0 := rfl

lemma wholeOf_append (xs ys : List Char) :
    wholeOf (xs ++ ys) = wholeOf xs * 10 ^ ys.length + wholeOf ys := by
  rw [wholeOf_eq_ofDigitChars, Nat.ofDigitChars_append, Nat.ofDigitChars_eq_ofDigitChars_zero,
    mul_comm]
  rfl

@[simp] lemma wholeOf_replicate_zero (n : ℕ) : wholeOf (List.replicate n '0') = 0 := by
  rw [wholeOf_eq_ofDigitChars, Nat.ofDigitChars_replicate_zero, mul_zero]

@[simp] lemma wholeOf_digitsOf (n : ℕ) : wholeOf (digitsOf n) = n := by
  rw [wholeOf_eq_ofDigitChars, digitsOf, Nat.toList_repr, Nat.ofDigitChars_ten_toDigits]

lemma digitsOf_ne_nil (n : ℕ) : digitsOf n ≠ [] := by
  rw [digitsOf, Nat.toList_repr]
  exact Nat.toDigits_ne_nil

lemma isDigit_of_mem_digitsOf {n : ℕ} {c : Char} (h : c ∈ digitsOf n) : c.isDigit = true := by
  rw [digitsOf, Nat.toList_repr] at h
  exact Nat.isDigit_of_mem_toDigits (by norm_num) (by norm_num) h

/-- Digits end where something else begins. -/
lemma span_isDigit {ds rest : List Char} (hds : ∀ c ∈ ds, c.isDigit = true)
    (hrest : ∀ c ∈ rest.head?, c.isDigit = false) :
    (ds ++ rest).span Char.isDigit = (ds, rest) := by
  rw [List.span_eq_takeWhile_dropWhile, List.takeWhile_append_of_pos hds,
    List.dropWhile_append_of_pos hds]
  cases rest with
  | nil => simp
  | cons c cs =>
    have hc := hrest c rfl
    simp [hc]

/-! ### Reading a number -/

/-- A number with a point reads as its digits, moved by those behind the point. -/
lemma readScaled?_point {w p r : List Char} (hw : ∀ c ∈ w, c.isDigit = true)
    (hp : ∀ c ∈ p, c.isDigit = true) (hr : ∀ c ∈ r.head?, c.isDigit = false)
    (hne : w ≠ []) :
    readScaled? (w ++ '.' :: (p ++ r)) =
      (readExponent? r).map fun e => ⟨wholeOf (w ++ p), e - p.length⟩ := by
  unfold readScaled?
  rw [span_isDigit hw (by simp)]
  simp only [span_isDigit hp hr]
  simp [hne]

/-- A number without a point reads as its digits. -/
lemma readScaled?_whole {w r : List Char} (hw : ∀ c ∈ w, c.isDigit = true)
    (hr : ∀ c ∈ r.head?, c.isDigit = false) (hpoint : ∀ cs, r ≠ '.' :: cs)
    (hne : w ≠ []) :
    readScaled? (w ++ r) = (readExponent? r).map fun e => ⟨wholeOf w, e⟩ := by
  unfold readScaled?
  rw [span_isDigit hw hr]
  simp only
  simp [hne]

lemma readExponent?_sign (e : ℤ) :
    readExponent? ('e' :: (if e < 0 then '-' else '+') :: digitsOf e.natAbs) = some e := by
  have hall : (digitsOf e.natAbs).all Char.isDigit = true := by
    rw [List.all_eq_true]
    exact fun c hc => isDigit_of_mem_digitsOf hc
  have hne : (digitsOf e.natAbs).isEmpty = false := by simpa using digitsOf_ne_nil e.natAbs
  unfold readExponent?
  by_cases he : e < 0
  · simp only [he, ↓reduceIte, readSign, hall, hne, wholeOf_digitsOf]
    simp only [beq_self_eq_true, Bool.true_or, ↓reduceIte, Bool.not_true, Bool.or_self,
      Bool.false_eq_true, Option.some.injEq]
    omega
  · simp only [he, ↓reduceIte, readSign, hall, hne, wholeOf_digitsOf]
    simp only [beq_self_eq_true, Bool.true_or, ↓reduceIte, Bool.not_true, Bool.or_self,
      Bool.false_eq_true, Option.some.injEq]
    omega

/-! ### Reading a layout back -/

/-- A text reads as a number of the given value. -/
def ReadsAs (cs : List Char) (x : ℚ) : Prop := ∃ s, readScaled? cs = some s ∧ s.value = x

variable {ds : List Char} (hds : ∀ c ∈ ds, c.isDigit = true) (hne : ds ≠ [])

include hds hne in
lemma readsAs_placePoint (places : ℤ) (keepsPoint : Bool) :
    ReadsAs (placePoint ds places keepsPoint) (wholeOf ds * 10 ^ (places - ds.length)) := by
  have hzeros (n : ℕ) : ∀ c ∈ List.replicate n '0', c.isDigit = true := by
    intro c hc
    rw [List.eq_of_mem_replicate hc]
    rfl
  unfold placePoint
  simp only
  split
  · next hle =>
    -- all digits stand behind the point, with zeros before them
    have hpart : ∀ c ∈ List.replicate (-places).toNat '0' ++ ds, c.isDigit = true := by
      intro c hc
      rcases List.mem_append.1 hc with hc | hc
      · exact hzeros _ c hc
      · exact hds c hc
    refine ⟨⟨wholeOf ds, places - ds.length⟩, ?_, rfl⟩
    have h := readScaled?_point (w := ['0']) (r := []) (by simp) hpart (by simp) (by simp)
    rw [List.append_nil] at h
    rw [show '0' :: '.' :: (List.replicate (-places).toNat '0' ++ ds) =
      ['0'] ++ '.' :: (List.replicate (-places).toNat '0' ++ ds) from rfl, h]
    have hzero : wholeOf ['0'] = 0 := rfl
    simp only [readExponent?, Option.map_some, wholeOf_append, hzero, wholeOf_replicate_zero,
      zero_mul, zero_add, List.length_append, List.length_replicate, Option.some.injEq,
      Scaled.mk.injEq, true_and]
    omega
  · split
    · next hgt hlt =>
      -- the point stands between the digits
      refine ⟨⟨wholeOf ds, places - ds.length⟩, ?_, rfl⟩
      have h := readScaled?_point (w := ds.take places.toNat) (p := ds.drop places.toNat)
        (r := []) (fun c hc => hds c (List.mem_of_mem_take hc))
        (fun c hc => hds c (List.mem_of_mem_drop hc)) (by simp)
        (by
          rw [Ne, List.take_eq_nil_iff, not_or]
          exact ⟨by omega, hne⟩)
      rw [List.append_nil] at h
      rw [h, List.take_append_drop]
      simp only [readExponent?, Option.map_some, List.length_drop, Option.some.injEq,
        Scaled.mk.injEq, true_and]
      omega
    · next hgt hge =>
      -- zeros fill up the places before the point
      obtain ⟨k, hk⟩ : ∃ k : ℕ, places = ds.length + k := ⟨(places - ds.length).toNat, by omega⟩
      have hk' : (places - ds.length).toNat = k := by omega
      have hall : ∀ c ∈ ds ++ List.replicate k '0', c.isDigit = true := by
        intro c hc
        rcases List.mem_append.1 hc with hc | hc
        · exact hds c hc
        · exact hzeros _ c hc
      have hvalue : (wholeOf ds : ℚ) * 10 ^ k = wholeOf ds * 10 ^ (places - ds.length) := by
        rw [hk, add_sub_cancel_left, zpow_natCast]
      rw [hk', ← hvalue]
      cases keepsPoint with
      | true =>
        refine ⟨⟨wholeOf (ds ++ List.replicate k '0' ++ ['0']), -1⟩, ?_, ?_⟩
        · have h := readScaled?_point (p := ['0']) (r := []) hall (by simp) (by simp)
            (by simp [hne])
          simpa [readExponent?] using h
        · have hzero : wholeOf ['0'] = 0 := rfl
          simp only [Scaled.value, wholeOf_append, wholeOf_replicate_zero, hzero, add_zero,
            List.length_replicate, List.length_singleton, pow_one]
          push_cast
          rw [zpow_neg_one]
          ring
      | false =>
        refine ⟨⟨wholeOf (ds ++ List.replicate k '0'), 0⟩, ?_, ?_⟩
        · have h := readScaled?_whole (r := []) hall (by simp) (by simp) (by simp [hne])
          simpa [readExponent?] using h
        · simp only [Scaled.value, wholeOf_append, wholeOf_replicate_zero, add_zero,
            List.length_replicate, zpow_zero, mul_one]
          push_cast
          ring

include hds hne in
lemma readsAs_placeExponent (e : ℤ) :
    ReadsAs (placeExponent ds e) (wholeOf ds * 10 ^ (e + 1 - ds.length)) := by
  unfold placeExponent
  simp only
  set tail := 'e' :: (if e < 0 then '-' else '+') :: digitsOf e.natAbs with htail
  have hexp : readExponent? tail = some e := readExponent?_sign e
  have hhead : ∀ c ∈ tail.head?, c.isDigit = false := by simp [htail]
  match ds, hne with
  | [d], _ =>
    have h := readScaled?_whole (w := [d]) hds hhead (by simp [htail]) (by simp)
    refine ⟨⟨wholeOf [d], e⟩, ?_, by simp [Scaled.value]⟩
    rw [h, hexp, Option.map_some]
  | d :: d' :: ds, _ =>
    have h := readScaled?_point (w := [d]) (p := d' :: ds)
      (fun c hc => hds c (by simp at hc; simp [hc]))
      (fun c hc => hds c (List.mem_cons_of_mem _ hc)) hhead (by simp)
    refine ⟨⟨wholeOf (d :: d' :: ds), e - (d' :: ds).length⟩, ?_, ?_⟩
    · rw [show d :: '.' :: d' :: ds ++ tail = [d] ++ '.' :: (d' :: ds ++ tail) by simp, h, hexp]
      rfl
    · simp only [Scaled.value, List.length_cons]
      congr 2
      push_cast
      ring

/-- **A laid out number reads back with its value.** -/
theorem readsAs_size (l : Layout) (s : Scaled) : ReadsAs (l.size s) s.value := by
  have hds : ∀ c ∈ digitsOf s.coefficient, c.isDigit = true :=
    fun c hc => isDigit_of_mem_digitsOf hc
  have hne := digitsOf_ne_nil s.coefficient
  have hpoint := readsAs_placePoint hds hne ((digitsOf s.coefficient).length + s.exponent)
    l.keepsPoint
  have hexp := readsAs_placeExponent hds hne ((digitsOf s.coefficient).length + s.exponent - 1)
  rw [wholeOf_digitsOf, add_sub_cancel_left] at hpoint
  rw [wholeOf_digitsOf, sub_add_cancel, add_sub_cancel_left] at hexp
  unfold Layout.size
  simp only
  split <;> split
  · exact hpoint
  · exact hexp
  · exact hpoint
  · exact hexp

/-! ### Floats told apart by their text -/

/-- The formats whose numbers the search for the fewest digits is made for. -/
structure Width.Supported (w : Width) : Prop where
  fraction_le : w.fraction ≤ 52
  le_least : -4096 ≤ w.least

lemma supported_single : Width.single.Supported := ⟨by decide, by decide⟩

lemma supported_double : Width.double.Supported := ⟨by decide, by decide⟩

variable {w : Width} {m m' : ℕ} {e e' : ℤ}

/-- The digits of a number lie in its interval. -/
lemma around_has_shortest (tie : Tie) (hw : w.Supported) (hc : Canonical w m e) (hm : 0 < m) :
    (Interval.around w m e).Has (shortest w tie m e).value := by
  have hlt : m < 2 ^ 53 := by
    have h1 := hc.lt
    have h2 : 2 ^ w.fraction ≤ 2 ^ 52 := Nat.pow_le_pow_right (by norm_num) hw.fraction_le
    omega
  have hlow : (Interval.around w m e).low + 1 ≤ 4 * m := by
    simp only [Interval.around]
    split <;> omega
  have hlog : 2 ≤ (4 * m).log2 := by
    rw [Nat.le_log2 (by omega)]
    omega
  have hunit : (Interval.around w m e).unit = e - 2 := rfl
  have hvalue : (Interval.around w m e).value = 4 * m := rfl
  rw [shortest, if_neg (by omega)]
  apply has_shortest
  · rw [hvalue]
    omega
  · rw [hvalue, hunit]
    have h1 := hc.least_le
    have h2 := hw.le_least
    omega
  · rw [hvalue]
    omega
  · exact hlow
  · show 4 * m < 4 * m + 2
    omega

lemma value_shortest_zero (tie : Tie) : (shortest w tie 0 e).value = 0 := by
  simp [shortest, Scaled.value]

lemma value_shortest_pos (tie : Tie) (hw : w.Supported) (hc : Canonical w m e) (hm : 0 < m) :
    0 < (shortest w tie m e).value := by
  have hlow : 0 < (Interval.around w m e).low := by
    simp only [Interval.around]
    split <;> omega
  refine lt_of_lt_of_le ?_ (around_has_shortest tie hw hc hm).1
  positivity

lemma Canonical.eq_least (hc : Canonical w 0 e) : e = w.least := by
  by_contra hne
  have hfull := hc.le_of_least_lt (lt_of_le_of_ne hc.least_le (Ne.symm hne))
  exact absurd hfull (by simp)

/-- No two numbers have digits of one value. -/
lemma eq_of_value_shortest_eq (tie : Tie) (hw : w.Supported) (hc : Canonical w m e)
    (hc' : Canonical w m' e')
    (h : (shortest w tie m e).value = (shortest w tie m' e').value) : m = m' ∧ e = e' := by
  rcases Nat.eq_zero_or_pos m with rfl | hm
  · rcases Nat.eq_zero_or_pos m' with rfl | hm'
    · exact ⟨rfl, hc.eq_least.trans hc'.eq_least.symm⟩
    · have := value_shortest_pos tie hw hc' hm'
      rw [value_shortest_zero tie] at h
      exact absurd h this.ne
  · rcases Nat.eq_zero_or_pos m' with rfl | hm'
    · have := value_shortest_pos tie hw hc hm
      rw [value_shortest_zero tie] at h
      exact absurd h.symm this.ne
    · have h1 : (Interval.around w m e).Has _ := around_has_shortest tie hw hc hm
      have h2 : (Interval.around w m' e').Has _ := around_has_shortest tie hw hc' hm'
      rw [← h] at h2
      rcases lt_trichotomy ((m : ℚ) * 2 ^ e) (m' * 2 ^ e') with hlt | heq | hgt
      · exact (not_has_of_lt hc hc' hm' hlt h1 h2).elim
      · exact eq_of_value_eq hc hc' hm hm' heq
      · exact (not_has_of_lt hc' hc hm hgt h2 h1).elim

lemma not_readsAs_minus (cs : List Char) (x : ℚ) : ¬ ReadsAs ('-' :: cs) x := by
  rintro ⟨s, hs, -⟩
  simp [readScaled?, List.span_eq_takeWhile_dropWhile] at hs

/-- The sign is seen from the first character. -/
lemma toList_text_finite (l : Layout) (n : Bool) (m : ℕ) (e : ℤ) :
    (l.text w (.finite n m e)).toList =
      (if n then ['-'] else []) ++ l.size (shortest w l.tie m e) := by
  cases n <;> simp [Layout.text]

/-- **No two floats have one text.** -/
theorem eq_of_text_eq (l : Layout) (hw : w.Supported) (hc : Canonical w m e)
    (hc' : Canonical w m' e') {n n' : Bool}
    (h : l.text w (.finite n m e) = l.text w (.finite n' m' e')) :
    Binary.finite n m e = .finite n' m' e' := by
  have hread := readsAs_size l (shortest w l.tie m e)
  have hread' := readsAs_size l (shortest w l.tie m' e')
  have hlist := congrArg String.toList h
  rw [toList_text_finite, toList_text_finite] at hlist
  have hn : n = n' := by
    cases n <;> cases n'
    · rfl
    · rw [show l.size (shortest w l.tie m e) = _ from hlist] at hread
      exact (not_readsAs_minus _ _ hread).elim
    · rw [← show _ = l.size (shortest w l.tie m' e') from hlist] at hread'
      exact (not_readsAs_minus _ _ hread').elim
    · rfl
  subst hn
  rw [List.append_cancel_left hlist] at hread
  obtain ⟨s, hs, hv⟩ := hread
  obtain ⟨s', hs', hv'⟩ := hread'
  obtain rfl : s = s' := by simpa [hs] using hs'
  obtain ⟨rfl, rfl⟩ := eq_of_value_shortest_eq l.tie hw hc hc' (hv.symm.trans hv')
  rfl

/-! ### The fields of a float's bits -/

lemma canonical_ofBits {bits : ℕ} {n : Bool} (h : Binary.ofBits w bits = .finite n m e) :
    Canonical w m e := by
  have hf : bits % 2 ^ w.fraction < 2 ^ w.fraction := Nat.mod_lt _ (by positivity)
  simp only [Binary.ofBits, Nat.pow_eq] at h
  split at h
  · split at h <;> simp at h
  · split at h
    · obtain ⟨-, rfl, rfl⟩ := Binary.finite.inj h
      exact ⟨by omega, le_rfl, fun hlt => absurd hlt (lt_irrefl _)⟩
    · obtain ⟨-, rfl, rfl⟩ := Binary.finite.inj h
      exact ⟨by omega, by omega, fun _ => by omega⟩

/-- The bits of a number are those of its sign, its exponent and its fraction. -/
lemma bits_eq_fields {bits : ℕ} (hb : bits < 2 ^ (w.fraction + w.exponent + 1)) :
    bits = 2 ^ w.fraction * (2 ^ w.exponent * (bits / 2 ^ (w.fraction + w.exponent) % 2) +
      bits / 2 ^ w.fraction % 2 ^ w.exponent) + bits % 2 ^ w.fraction := by
  have h1 := Nat.div_add_mod bits (2 ^ w.fraction)
  have h2 := Nat.div_add_mod (bits / 2 ^ w.fraction) (2 ^ w.exponent)
  rw [Nat.div_div_eq_div_mul, ← pow_add] at h2
  have h3 : bits / 2 ^ (w.fraction + w.exponent) < 2 := by
    rw [Nat.div_lt_iff_lt_mul (by positivity), mul_comm, ← pow_succ]
    exact hb
  rw [Nat.mod_eq_of_lt h3, h2, h1]

/-- The fields are seen from a finite number. -/
lemma ofBits_inj {bits bits' : ℕ} (hb : bits < 2 ^ (w.fraction + w.exponent + 1))
    (hb' : bits' < 2 ^ (w.fraction + w.exponent + 1)) {n : Bool}
    (h : Binary.ofBits w bits = .finite n m e) (h' : Binary.ofBits w bits' = .finite n m e) :
    bits = bits' := by
  rw [bits_eq_fields hb, bits_eq_fields hb']
  have hf : bits % 2 ^ w.fraction < 2 ^ w.fraction := Nat.mod_lt _ (by positivity)
  have hf' : bits' % 2 ^ w.fraction < 2 ^ w.fraction := Nat.mod_lt _ (by positivity)
  have hs : bits / 2 ^ (w.fraction + w.exponent) % 2 < 2 := Nat.mod_lt _ (by norm_num)
  have hs' : bits' / 2 ^ (w.fraction + w.exponent) % 2 < 2 := Nat.mod_lt _ (by norm_num)
  simp only [Binary.ofBits, Nat.pow_eq] at h h'
  generalize bits % 2 ^ w.fraction = f at h hf ⊢
  generalize bits' % 2 ^ w.fraction = f' at h' hf' ⊢
  generalize bits / 2 ^ w.fraction % 2 ^ w.exponent = x at h ⊢
  generalize bits' / 2 ^ w.fraction % 2 ^ w.exponent = x' at h' ⊢
  generalize bits / 2 ^ (w.fraction + w.exponent) % 2 = s at h hs ⊢
  generalize bits' / 2 ^ (w.fraction + w.exponent) % 2 = s' at h' hs' ⊢
  have sign (hn : (s == 1) = n) (hn' : (s' == 1) = n) : s = s' := by
    rw [← hn', Bool.eq_iff_iff, beq_iff_eq, beq_iff_eq] at hn
    omega
  have fields : s = s' ∧ x = x' ∧ f = f' := by
    split at h
    · split at h <;> simp at h
    split at h'
    · split at h' <;> simp at h'
    split at h
    · split at h'
      · obtain ⟨hn, hm, -⟩ := Binary.finite.inj h
        obtain ⟨hn', hm', -⟩ := Binary.finite.inj h'
        exact ⟨sign hn hn', by omega, by omega⟩
      · obtain ⟨-, hm, -⟩ := Binary.finite.inj h
        obtain ⟨-, hm', -⟩ := Binary.finite.inj h'
        omega
    · split at h'
      · obtain ⟨-, hm, -⟩ := Binary.finite.inj h
        obtain ⟨-, hm', -⟩ := Binary.finite.inj h'
        omega
      · obtain ⟨hn, hm, he⟩ := Binary.finite.inj h
        obtain ⟨hn', hm', he'⟩ := Binary.finite.inj h'
        exact ⟨sign hn hn', by omega, by omega⟩
  obtain ⟨rfl, rfl, rfl⟩ := fields
  rfl

end VisualTemplate.Decimal
