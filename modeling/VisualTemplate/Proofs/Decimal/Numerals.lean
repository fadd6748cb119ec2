import Mathlib
import VisualTemplate.Decimal.Reading
import VisualTemplate.Text.Blank
/-!
The characters of numbers that are read.

A text that is read as a number has letters, digits, signs and points only, whether it is made of
digits or one of the words.
-/

namespace VisualTemplate

/-! ### Letters -/

namespace Text

lemma toLower_eq_or (c : Char) : c.toLower = c ∨ c.isUpper = true := by
  rw [Char.toLower]
  split
  · next h => exact .inr (by simpa [Char.isUpper] using h)
  · exact .inl rfl

/-- What holds of the 26 capital letters holds of each of them. -/
lemma of_isUpper {P : Char → Prop} (h : ∀ n < 26, P (Char.ofNat (65 + n))) {c : Char}
    (hc : c.isUpper = true) : P c := by
  simp only [Char.isUpper, decide_eq_true_eq, UInt32.le_iff_toNat_le, ge_iff_le] at hc
  change 65 ≤ c.toNat ∧ c.toNat ≤ 90 at hc
  obtain ⟨n, hn⟩ := Nat.exists_eq_add_of_le hc.1
  rw [← Char.ofNat_toNat c, hn]
  exact h n (by omega)

lemma isBlank_toLower (c : Char) : isBlank c.toLower = isBlank c := by
  rcases toLower_eq_or c with hsmall | hcapital
  · rw [hsmall]
  · exact of_isUpper (P := fun c => isBlank c.toLower = isBlank c) (by decide) hcapital

lemma isBlank_of_isAlphanum {c : Char} (h : c.isAlphanum = true) : isBlank c = false := by
  simp only [Char.isAlphanum, Char.isAlpha, Char.isUpper, Char.isLower, Char.isDigit,
    Bool.or_eq_true, Bool.and_eq_true, decide_eq_true_eq, UInt32.le_iff_toNat_le, ge_iff_le] at h
  change ((65 ≤ c.toNat ∧ c.toNat ≤ 90) ∨ (97 ≤ c.toNat ∧ c.toNat ≤ 122)) ∨
    (48 ≤ c.toNat ∧ c.toNat ≤ 57) at h
  simp only [isBlank, Bool.or_eq_false_iff, Bool.and_eq_false_iff, decide_eq_false_iff_not,
    beq_eq_false_iff_ne]
  omega

end Text

/-! ### Numbers -/

namespace Decimal

/-- The characters that numbers may be written with where they are read. -/
def isNumeralChar (c : Char) : Bool := c.isAlphanum || c == '+' || c == '-' || c == '.'

lemma isNumeralChar_of_isDigit {c : Char} (h : c.isDigit = true) : isNumeralChar c = true := by
  simp [isNumeralChar, Char.isAlphanum, h]

lemma isBlank_of_isNumeralChar {c : Char} (h : isNumeralChar c = true) :
    Text.isBlank c = false := by
  simp only [isNumeralChar, Bool.or_eq_true, beq_iff_eq] at h
  rcases h with ((h | rfl) | rfl) | rfl
  · exact Text.isBlank_of_isAlphanum h
  all_goals rfl

variable {cs : List Char} {c : Char}

lemma mem_readSign (h : c ∈ cs) : isNumeralChar c = true ∨ c ∈ (readSign cs).2 := by
  unfold readSign
  split
  · rcases List.mem_cons.1 h with rfl | h
    exacts [.inl (by decide), .inr h]
  · rcases List.mem_cons.1 h with rfl | h
    exacts [.inl (by decide), .inr h]
  · exact .inr h

lemma mem_digits (h : c ∈ cs) : isNumeralChar c = true ∨ c ∈ cs.dropWhile Char.isDigit := by
  rw [← List.takeWhile_append_dropWhile (p := Char.isDigit) (l := cs), List.mem_append] at h
  exact h.imp_left fun h => isNumeralChar_of_isDigit (List.mem_takeWhile_imp h)

lemma chars_of_readExponent? {e : ℤ} (h : readExponent? cs = some e) :
    ∀ c ∈ cs, isNumeralChar c = true := by
  intro c hc
  cases cs with
  | nil => cases hc
  | cons x cs =>
    rw [readExponent?] at h
    split at h
    · next hx =>
      simp only [Bool.or_eq_true, beq_iff_eq] at hx
      rcases List.mem_cons.1 hc with rfl | hc
      · rcases hx with rfl | rfl <;> decide
      · refine (mem_readSign hc).elim id fun hc => ?_
        generalize readSign cs = signed at h hc
        obtain ⟨negative, digits⟩ := signed
        by_cases hnone : (digits.isEmpty || !digits.all Char.isDigit) = true
        · simp [hnone] at h
        · simp only [Bool.or_eq_true, Bool.not_eq_true', not_or, Bool.not_eq_false,
            List.all_eq_true] at hnone
          exact isNumeralChar_of_isDigit (hnone.2 c hc)
    · cases h

lemma chars_of_readScaled? {n : Scaled} (h : readScaled? cs = some n) :
    ∀ c ∈ cs, isNumeralChar c = true := by
  intro c hc
  refine (mem_digits hc).elim id fun hc => ?_
  rw [readScaled?] at h
  simp only [List.span_eq_takeWhile_dropWhile] at h
  split at h
  · next rest hrest =>
    rw [hrest] at hc
    rcases List.mem_cons.1 hc with rfl | hc
    · decide
    · refine (mem_digits hc).elim id fun hc => ?_
      split at h
      · cases h
      · obtain ⟨e, he, -⟩ := Option.map_eq_some_iff.1 h
        exact chars_of_readExponent? he c hc
  · split at h
    · cases h
    · obtain ⟨e, he, -⟩ := Option.map_eq_some_iff.1 h
      exact chars_of_readExponent? he c hc

/-- A word is read in either case. -/
lemma chars_of_word {word : String} (hword : word.toList.all isNumeralChar = true)
    (h : (String.ofList (cs.map Char.toLower) == word) = true) :
    ∀ c ∈ cs, isNumeralChar c = true := by
  intro c hc
  rcases Text.toLower_eq_or c with hsmall | hcapital
  · refine List.all_eq_true.1 hword c ?_
    rw [← beq_iff_eq.1 h, String.toList_ofList, ← hsmall]
    exact List.mem_map_of_mem hc
  · simp [isNumeralChar, Char.isAlphanum, Char.isAlpha, hcapital]

end Decimal

end VisualTemplate

namespace Float32

open VisualTemplate.Decimal

/-- **A number is written with letters, digits, signs and points.** -/
theorem chars_of_ofText? {s : String} {x : Float32} (h : ofText? s = some x) :
    ∀ c ∈ s.toList, isNumeralChar c = true := by
  intro c hc
  refine (mem_readSign hc).elim id fun hc => ?_
  rw [ofText?] at h
  generalize readSign s.toList = signed at h hc
  obtain ⟨negative, cs⟩ := signed
  obtain ⟨size, hsize, -⟩ := Option.map_eq_some_iff.1 h
  split at hsize
  · next hword =>
    rw [Bool.or_eq_true] at hword
    rcases hword with hword | hword <;> exact chars_of_word (by decide) hword c hc
  · split at hsize
    · next hword => exact chars_of_word (by decide) hword c hc
    · obtain ⟨n, hn, -⟩ := Option.map_eq_some_iff.1 hsize
      exact chars_of_readScaled? hn c hc

end Float32
