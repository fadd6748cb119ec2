import VisualTemplate.Json.Source
import Mathlib.Tactic.Common
/-!
Quoted texts read back.

Every character is read back from its escape, so a quoted text ends at its closing quote and at no
earlier one.
-/

namespace VisualTemplate.Json

lemma hexValue?_hexDigit {n : ℕ} (h : n < 32) :
    (Text.hexValue? (hexDigit n)) = some (n % 16) := by
  have all : ∀ n < 32, Text.hexValue? (hexDigit n) = some (n % 16) := by decide
  exact all n h

namespace Source

/-- A code below the surrogates stands for its character. -/
lemma Literal.unit_of_lt (l : Literal) {u : ℕ} (h : u < 0xD800) : l.unit u = l.push (.ofNat u) := by
  unfold Literal.unit
  rw [if_neg (by omega), if_neg (by omega)]

lemma literal_control (l : Literal) {c : Char} (h : c.toNat < 32) (rest : List Char) :
    literal l ('\\' :: 'u' :: '0' :: '0' :: hexDigit (c.toNat / 16) :: hexDigit c.toNat :: rest) =
      literal (l.push c) rest := by
  have high : Text.hexValue? (hexDigit (c.toNat / 16)) = some (c.toNat / 16 % 16) :=
    hexValue?_hexDigit (by omega)
  have low : Text.hexValue? (hexDigit c.toNat) = some (c.toNat % 16) := hexValue?_hexDigit h
  have zero : Text.hexValue? '0' = some 0 := rfl
  have code : Text.hexOf ['0', '0', hexDigit (c.toNat / 16), hexDigit c.toNat] = c.toNat := by
    simp only [Text.hexOf, List.foldl_cons, List.foldl_nil, zero, high, low, Option.getD_some]
    omega
  rw [literal, if_pos (by simp [zero, high, low]), code, Literal.unit_of_lt l (by omega),
    Char.ofNat_toNat]

/-- A character is read back from its escape. -/
lemma literal_escapeChar (l : Literal) (c : Char) (rest : List Char) :
    literal l (escapeChar c ++ rest) = literal (l.push c) rest := by
  unfold escapeChar
  split
  · next h =>
    rw [show c = '"' by simpa using h]
    simp [literal, simpleEscape?]
  split
  · next h =>
    rw [show c = '\\' by simpa using h]
    simp [literal, simpleEscape?]
  split
  · next h =>
    rw [show c = '\n' by simpa using h]
    simp [literal, simpleEscape?]
  split
  · next h =>
    rw [show c = '\r' by simpa using h]
    simp [literal, simpleEscape?]
  split
  · next h =>
    rw [show c = '\t' by simpa using h]
    simp [literal, simpleEscape?]
  split
  · next h =>
    rw [show c = '\x08' from Char.toNat_inj.1 (by simpa using h)]
    simp [literal, simpleEscape?]
  split
  · next h =>
    rw [show c = '\x0c' from Char.toNat_inj.1 (by simpa using h)]
    simp [literal, simpleEscape?]
  split
  · next h => exact literal_control l h rest
  · next hq hb _ _ _ _ _ hc =>
    have hq' : c ≠ '"' := by simpa using hq
    have hb' : c ≠ '\\' := by simpa using hb
    rw [List.singleton_append, literal, if_neg (by simp [hc, hb'])]
    · exact hq'
    · exact fun a b c d cs h => absurd h hb'
    · exact fun a cs h => absurd h hb'

/-- The characters of a quoted text are read up to its closing quote. -/
lemma literal_flatMap (cs : List Char) (l : Literal) (rest : List Char) :
    literal l (cs.flatMap escapeChar ++ '"' :: rest) =
      literal (cs.foldl Literal.push l) ('"' :: rest) := by
  induction cs generalizing l with
  | nil => rfl
  | cons c cs ih =>
    rw [List.flatMap_cons, List.append_assoc, literal_escapeChar, ih]
    rfl

lemma foldl_push (cs chars : List Char) :
    cs.foldl Literal.push ⟨chars, none, false⟩ = ⟨cs.reverse ++ chars, none, false⟩ := by
  induction cs generalizing chars with
  | nil => rfl
  | cons c cs ih =>
    rw [List.foldl_cons, Literal.push, Option.isSome_none, Bool.or_self, ih]
    simp

/-- **A quoted text is read back as it is.** -/
theorem literal_quote (s : String) (rest : List Char) :
    literal {} (s.toList.flatMap escapeChar ++ '"' :: rest) = some (some s, rest) := by
  rw [literal_flatMap, foldl_push, literal]
  simp

end Source

lemma toList_quote (s : String) :
    (quote s).toList = '"' :: (s.toList.flatMap escapeChar ++ ['"']) := by
  simp [quote]

/-- Where texts begin with quoted ones, these are the same. -/
lemma quote_append_inj {s t : String} {r r' : List Char}
    (h : (quote s).toList ++ r = (quote t).toList ++ r') : s = t ∧ r = r' := by
  rw [toList_quote, toList_quote] at h
  have h' : s.toList.flatMap escapeChar ++ '"' :: r = t.toList.flatMap escapeChar ++ '"' :: r' := by
    simpa using h
  have hread := congrArg (Source.literal {}) h'
  rw [Source.literal_quote, Source.literal_quote] at hread
  simpa using hread

end VisualTemplate.Json
