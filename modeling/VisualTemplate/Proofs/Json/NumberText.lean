import Mathlib
import VisualTemplate.Json.Number
import VisualTemplate.Proofs.Decimal.Layout
import VisualTemplate.Text.Blank
/-!
Numbers told apart by their text.

A whole number is digits behind an optional sign, and a double always has a point or an exponent,
so neither is written as the other.
-/

namespace VisualTemplate

namespace Decimal

/-- The characters that numbers are written with. -/
def isNumberChar (c : Char) : Bool := c.isDigit || c == '-' || c == '+' || c == '.' || c == 'e'

lemma isNumberChar_of_isDigit {c : Char} (h : c.isDigit = true) : isNumberChar c = true := by
  simp [isNumberChar, h]

/-- No number has a blank in it. -/
lemma isBlank_of_isNumberChar {c : Char} (h : isNumberChar c = true) :
    Text.isBlank c = false := by
  simp only [isNumberChar, Bool.or_eq_true, beq_iff_eq] at h
  rcases h with (((h | rfl) | rfl) | rfl) | rfl
  · simp only [Char.isDigit, Bool.and_eq_true, decide_eq_true_eq] at h
    have hlow : 48 ≤ c.toNat := UInt32.le_iff_toNat_le.1 h.1
    have hhigh : c.toNat ≤ 57 := UInt32.le_iff_toNat_le.1 h.2
    simp only [Text.isBlank, Bool.or_eq_false_iff, Bool.and_eq_false_iff, decide_eq_false_iff_not,
      beq_eq_false_iff_ne]
    omega
  all_goals rfl

lemma isNumberChar_of_mem_digitsOf {n : ℕ} {c : Char} (h : c ∈ digitsOf n) :
    isNumberChar c = true := isNumberChar_of_isDigit (isDigit_of_mem_digitsOf h)

lemma isNumberChar_of_mem_placePoint {ds : List Char} (hds : ∀ c ∈ ds, c.isDigit = true)
    {places : ℤ} {keepsPoint : Bool} {c : Char} (h : c ∈ placePoint ds places keepsPoint) :
    isNumberChar c = true := by
  have hzero : isNumberChar '0' = true := by decide
  have hpoint : isNumberChar '.' = true := by decide
  have hdigit {c : Char} (hc : c ∈ ds) : isNumberChar c = true :=
    isNumberChar_of_isDigit (hds c hc)
  unfold placePoint at h
  simp only at h
  split at h
  · simp only [List.mem_cons, List.mem_append, List.mem_replicate] at h
    rcases h with rfl | rfl | ⟨-, rfl⟩ | h
    exacts [hzero, hpoint, hzero, hdigit h]
  · split at h
    · simp only [List.mem_append, List.mem_cons] at h
      rcases h with h | rfl | h
      exacts [hdigit (List.mem_of_mem_take h), hpoint, hdigit (List.mem_of_mem_drop h)]
    · simp only [List.mem_append, List.mem_replicate] at h
      rcases h with (h | ⟨-, rfl⟩) | h
      · exact hdigit h
      · exact hzero
      · cases keepsPoint with
        | true =>
          simp only [↓reduceIte, List.mem_cons, List.not_mem_nil, or_false] at h
          rcases h with rfl | rfl
          exacts [hpoint, hzero]
        | false => simp at h

lemma isNumberChar_of_mem_placeExponent {ds : List Char} (hds : ∀ c ∈ ds, c.isDigit = true)
    {e : ℤ} {c : Char} (h : c ∈ placeExponent ds e) : isNumberChar c = true := by
  have hdigit {c : Char} (hc : c ∈ ds) : isNumberChar c = true :=
    isNumberChar_of_isDigit (hds c hc)
  unfold placeExponent at h
  simp only [List.mem_append, List.mem_cons] at h
  rcases h with h | rfl | h | h
  · cases ds with
    | nil => simp at h
    | cons d ds =>
      cases ds with
      | nil => exact hdigit h
      | cons d' ds =>
        simp only [List.mem_cons] at h
        rcases h with rfl | rfl | h
        · exact hdigit List.mem_cons_self
        · decide
        · exact hdigit (List.mem_cons_of_mem _ (List.mem_cons.2 h))
  · decide
  · rw [h]
    split <;> decide
  · exact isNumberChar_of_mem_digitsOf h

lemma isNumberChar_of_mem_size {l : Layout} {s : Scaled} {c : Char} (h : c ∈ l.size s) :
    isNumberChar c = true := by
  have hds : ∀ c ∈ digitsOf s.coefficient, c.isDigit = true :=
    fun c hc => isDigit_of_mem_digitsOf hc
  unfold Layout.size at h
  simp only at h
  split at h <;> split at h
  · exact isNumberChar_of_mem_placePoint hds h
  · exact isNumberChar_of_mem_placeExponent hds h
  · exact isNumberChar_of_mem_placePoint hds h
  · exact isNumberChar_of_mem_placeExponent hds h

/-- A layout that keeps the point writes each number with a point or an exponent. -/
lemma point_or_exponent_mem_size {l : Layout} (hl : l.keepsPoint = true) (s : Scaled) :
    '.' ∈ l.size s ∨ 'e' ∈ l.size s := by
  have hplace (ds : List Char) (places : ℤ) : '.' ∈ placePoint ds places true := by
    unfold placePoint
    simp only
    split
    · simp
    · split <;> simp
  have hexp (ds : List Char) (e : ℤ) : 'e' ∈ placeExponent ds e := by
    unfold placeExponent
    simp
  unfold Layout.size
  simp only [hl]
  split <;> split
  · exact .inl (hplace _ _)
  · exact .inr (hexp _ _)
  · exact .inl (hplace _ _)
  · exact .inr (hexp _ _)

lemma size_ne_nil (l : Layout) (s : Scaled) : l.size s ≠ [] := by
  intro h
  obtain ⟨s', hs, -⟩ := readsAs_size l s
  rw [h] at hs
  exact absurd hs (by simp [readScaled?, List.span_eq_takeWhile_dropWhile])

/-- The text of a finite float has characters, and all of them are those of numbers. -/
lemma chars_text_finite (l : Layout) {w : Width} (n : Bool) (m : ℕ) (e : ℤ) :
    (l.text w (.finite n m e)).toList ≠ [] ∧
      ∀ c ∈ (l.text w (.finite n m e)).toList, isNumberChar c = true := by
  rw [toList_text_finite]
  refine ⟨by simp [size_ne_nil], fun c hc => ?_⟩
  rcases List.mem_append.1 hc with hc | hc
  · cases n with
    | true =>
      rw [show c = '-' by simpa using hc]
      decide
    | false => simp at hc
  · exact isNumberChar_of_mem_size hc

end Decimal

namespace Json

open Decimal

namespace Number

/-- The numbers of documents: whole ones, and doubles that are finite. -/
def OfDocument : Number → Prop
  | whole _ => True
  | double x => ∃ n m e, x.binary = .finite n m e
  | single _ => False

lemma toList_text_whole (n : ℤ) :
    (whole n).text.toList = (if n < 0 then ['-'] else []) ++ digitsOf n.natAbs := by
  cases n with
  | ofNat n => rfl
  | negSucc n => simp [text, toString, Int.repr, digitsOf]

lemma isDigit_or_minus_of_mem_text_whole {n : ℤ} {c : Char} (h : c ∈ (whole n).text.toList) :
    c.isDigit = true ∨ c = '-' := by
  rw [toList_text_whole, List.mem_append] at h
  rcases h with h | h
  · split at h
    · exact .inr (by simpa using h)
    · simp at h
  · exact .inl (isDigit_of_mem_digitsOf h)

lemma whole_text_inj {n k : ℤ} (h : (whole n).text = (whole k).text) : n = k := by
  have hlist := congrArg String.toList h
  have hminus (n : ℕ) (cs : List Char) : digitsOf n ≠ '-' :: cs := by
    intro hd
    have hc : ('-').isDigit = true := isDigit_of_mem_digitsOf (n := n) (by simp [hd])
    exact absurd hc (by decide)
  have habs {n k : ℤ} (hd : digitsOf n.natAbs = digitsOf k.natAbs) : n.natAbs = k.natAbs := by
    rw [← wholeOf_digitsOf n.natAbs, hd, wholeOf_digitsOf]
  rw [toList_text_whole, toList_text_whole] at hlist
  split at hlist <;> split at hlist
  · have := habs (List.append_cancel_left hlist)
    omega
  · exact absurd hlist.symm (hminus _ _)
  · exact absurd hlist (hminus _ _)
  · have := habs (List.append_cancel_left hlist)
    omega

lemma toList_text_double {x : Float} {n : Bool} {m : ℕ} {e : ℤ} (hx : x.binary = .finite n m e) :
    (double x).text.toList =
      (if n then ['-'] else []) ++ Layout.document.size (shortest .double .even m e) := by
  rw [text, Float.documentText, hx, toList_text_finite]
  rfl

/-- The text of a number has characters, and all of them are those of numbers. -/
lemma text_chars {n : Number} (hn : n.OfDocument) :
    n.text.toList ≠ [] ∧ ∀ c ∈ n.text.toList, isNumberChar c = true := by
  cases n with
  | whole n =>
    refine ⟨by simp [toList_text_whole, digitsOf_ne_nil], fun c hc => ?_⟩
    rcases isDigit_or_minus_of_mem_text_whole hc with hc | rfl
    · exact isNumberChar_of_isDigit hc
    · decide
  | double x =>
    obtain ⟨n, m, e, hx⟩ := hn
    rw [text, Float.documentText, hx]
    exact chars_text_finite _ n m e
  | single x => exact hn.elim

lemma text_whole_ne_double (n : ℤ) {x : Float} (hx : (double x).OfDocument) :
    (whole n).text ≠ (double x).text := by
  intro h
  obtain ⟨b, m, e, hx⟩ := hx
  have hmem {c : Char} (hc : c ∈ Layout.document.size (shortest .double .even m e)) :
      c.isDigit = true ∨ c = '-' := by
    apply isDigit_or_minus_of_mem_text_whole (n := n)
    rw [h, toList_text_double hx]
    exact List.mem_append_right _ hc
  have key : ∀ c : Char, c = '.' ∨ c = 'e' → ¬ (c.isDigit = true ∨ c = '-') := by
    rintro c (rfl | rfl) <;> decide
  rcases point_or_exponent_mem_size (l := Layout.document) rfl (shortest .double .even m e)
    with hc | hc
  · exact key _ (.inl rfl) (hmem hc)
  · exact key _ (.inr rfl) (hmem hc)

lemma double_text_inj {x y : Float} (hx : (double x).OfDocument) (hy : (double y).OfDocument)
    (h : (double x).text = (double y).text) : x = y := by
  obtain ⟨n, m, e, hx⟩ := hx
  obtain ⟨n', m', e', hy⟩ := hy
  have htext : Layout.document.text .double (.finite n m e) =
      Layout.document.text .double (.finite n' m' e') := by
    rw [← hx, ← hy]
    exact h
  have hbin : x.binary = y.binary := by
    rw [hx, hy]
    exact eq_of_text_eq _ supported_double (canonical_ofBits hx) (canonical_ofBits hy) htext
  have hbound (z : Float) :
      z.toBits.toNat < 2 ^ (Width.double.fraction + Width.double.exponent + 1) := z.toBits.toNat_lt
  have hbits := ofBits_inj (hbound x) (hbound y) hx (hbin.symm.trans hx)
  exact Float.toBits_inj.1 (UInt64.toNat_inj.1 hbits)

/-- **No two numbers of documents have one text.** -/
theorem text_inj {n k : Number} (hn : n.OfDocument) (hk : k.OfDocument) (h : n.text = k.text) :
    n = k := by
  cases n with
  | whole a =>
    cases k with
    | whole b => rw [whole_text_inj h]
    | double y => exact absurd h (text_whole_ne_double a hk)
    | single y => exact hk.elim
  | double x =>
    cases k with
    | whole b => exact absurd h.symm (text_whole_ne_double b hn)
    | double y => rw [double_text_inj hn hk h]
    | single y => exact hk.elim
  | single x => exact hn.elim

end Number

end Json

end VisualTemplate
