import VisualTemplate.Proofs.Json.NumberText
import VisualTemplate.Json.Source
/-!
Numbers read back in the middle of a text.

A number is read up to the first character that no number has. So a number whose text is read back
when it stands alone is read back in front of a comma or a line break too.
-/

namespace VisualTemplate.Json

open Decimal

namespace Source

/-- Here nothing goes on: the text is at an end, or a comma or a line break follows. -/
def Stops (rest : List Char) : Prop := ∀ c ∈ rest.head?, c = ',' ∨ c = '\n'

lemma stops_nil : Stops [] := by simp [Stops]

lemma stops_cons {c : Char} (hc : c = ',' ∨ c = '\n') (cs : List Char) : Stops (c :: cs) := by
  simpa [Stops] using hc

variable {cs r rest : List Char}

/-! ### The parts of a number -/

lemma span_isDigit_append (hrest : Stops rest) (cs : List Char) :
    (cs ++ rest).span Char.isDigit =
      ((cs.span Char.isDigit).1, (cs.span Char.isDigit).2 ++ rest) := by
  have hend : ∀ c ∈ rest.head?, c.isDigit = false := by
    intro c hc
    rcases hrest c hc with rfl | rfl <;> rfl
  simp only [List.span_eq_takeWhile_dropWhile]
  induction cs with
  | nil =>
    cases rest with
    | nil => rfl
    | cons c cs => simp [hend c rfl]
  | cons c cs ih =>
    rw [Prod.mk.injEq] at ih
    by_cases hc : c.isDigit = true
    · simp [hc, ih.1, ih.2]
    · simp [hc]

lemma fraction?_append (hrest : Stops rest) {f : Option (List Char)}
    (h : fraction? cs = some (f, r)) : fraction? (cs ++ rest) = some (f, r ++ rest) := by
  cases cs with
  | nil =>
    obtain ⟨rfl, rfl⟩ : f = none ∧ r = [] := by simpa [fraction?, eq_comm] using h
    cases rest with
    | nil => rfl
    | cons c cs => rcases hrest c rfl with rfl | rfl <;> rfl
  | cons c cs =>
    by_cases hc : c = '.'
    · subst hc
      simp only [fraction?, List.cons_append, span_isDigit_append hrest] at h ⊢
      split at h
      · exact absurd h (by simp)
      · next hne =>
        obtain ⟨rfl, rfl⟩ := Prod.mk.inj (Option.some.inj h)
        rw [if_neg hne]
    · have hplain (cs : List Char) : fraction? (c :: cs) = some (none, c :: cs) := by
        unfold fraction?
        split
        · next heq => exact absurd (List.cons.inj heq).1 hc
        · rfl
      rw [hplain] at h
      obtain ⟨rfl, rfl⟩ := Prod.mk.inj (Option.some.inj h)
      rw [List.cons_append, hplain]

lemma readSign_of_ne {c : Char} (hminus : c ≠ '-') (hplus : c ≠ '+') (cs : List Char) :
    readSign (c :: cs) = (false, c :: cs) := by
  unfold readSign
  split
  · next h => exact absurd (List.cons.inj h).1 hminus
  · next h => exact absurd (List.cons.inj h).1 hplus
  · rfl

lemma readSign_append (c : Char) (cs rest : List Char) :
    readSign (c :: cs ++ rest) = ((readSign (c :: cs)).1, (readSign (c :: cs)).2 ++ rest) := by
  by_cases hminus : c = '-'
  · subst hminus
    rfl
  by_cases hplus : c = '+'
  · subst hplus
    rfl
  rw [List.cons_append, readSign_of_ne hminus hplus, readSign_of_ne hminus hplus]
  rfl

lemma exponent?_append (hrest : Stops rest) {e : Option ℤ}
    (h : exponent? cs = some (e, r)) : exponent? (cs ++ rest) = some (e, r ++ rest) := by
  cases cs with
  | nil =>
    obtain ⟨rfl, rfl⟩ : e = none ∧ r = [] := by simpa [exponent?, eq_comm] using h
    cases rest with
    | nil => rfl
    | cons c cs => rcases hrest c rfl with rfl | rfl <;> rfl
  | cons c cs =>
    simp only [exponent?, List.cons_append] at h ⊢
    split at h
    · next hc =>
      rw [if_pos hc]
      cases cs with
      | nil => exact absurd h (by simp [readSign])
      | cons s cs =>
        rw [readSign_append, span_isDigit_append hrest]
        split at h
        · exact absurd h (by simp)
        · next hne =>
          obtain ⟨rfl, rfl⟩ := Prod.mk.inj (Option.some.inj h)
          rw [if_neg hne]
    · next hc =>
      obtain ⟨rfl, rfl⟩ := Prod.mk.inj (Option.some.inj h)
      rw [if_neg hc]
      rfl

lemma digits_eq (negative : Bool) (cs : List Char) : digits negative cs =
    if (cs.span Char.isDigit).1.isEmpty ||
      (cs.span Char.isDigit).1.length > 1 && (cs.span Char.isDigit).1.head? == some '0' then none
    else (fraction? (cs.span Char.isDigit).2).bind fun p =>
      (exponent? p.2).bind fun q =>
        some ((match Number.ofParts? negative (cs.span Char.isDigit).1 p.1 q.1 with
          | some n => .number n
          | none => .huge), q.2) := rfl

/-- What follows a number does not change how it is read. -/
lemma digits_append (hrest : Stops rest) {negative : Bool} {s : Source}
    (h : digits negative cs = some (s, r)) : digits negative (cs ++ rest) = some (s, r ++ rest) := by
  rw [digits_eq] at h ⊢
  rw [span_isDigit_append hrest]
  split at h
  · exact absurd h (by simp)
  next hwhole =>
  rw [if_neg hwhole]
  obtain ⟨⟨f, r₁⟩, hfraction, h⟩ := Option.bind_eq_some_iff.1 h
  obtain ⟨⟨e, r₂⟩, hexponent, h⟩ := Option.bind_eq_some_iff.1 h
  obtain ⟨rfl, rfl⟩ := Prod.mk.inj (Option.some.inj h)
  rw [fraction?_append hrest hfraction]
  simp only [Option.bind_some, exponent?_append hrest hexponent]

/-! ### What is left behind a number -/

lemma suffix_span (cs : List Char) : (cs.span Char.isDigit).2 <:+ cs := by
  rw [List.span_eq_takeWhile_dropWhile]
  exact List.dropWhile_suffix _

lemma suffix_fraction {f : Option (List Char)} (h : fraction? cs = some (f, r)) : r <:+ cs := by
  unfold fraction? at h
  split at h
  · next rest =>
    simp only at h
    split at h
    · exact absurd h (by simp)
    · obtain ⟨-, rfl⟩ := Prod.mk.inj (Option.some.inj h)
      exact (suffix_span rest).trans (List.suffix_cons _ _)
  · obtain ⟨-, rfl⟩ := Prod.mk.inj (Option.some.inj h)
    exact List.suffix_rfl

lemma suffix_readSign (cs : List Char) : (readSign cs).2 <:+ cs := by
  unfold readSign
  split
  · exact List.suffix_cons _ _
  · exact List.suffix_cons _ _
  · exact List.suffix_rfl

lemma suffix_exponent {e : Option ℤ} (h : exponent? cs = some (e, r)) : r <:+ cs := by
  unfold exponent? at h
  split at h
  · next c rest =>
    split at h
    · simp only at h
      split at h
      · exact absurd h (by simp)
      · obtain ⟨-, rfl⟩ := Prod.mk.inj (Option.some.inj h)
        exact ((suffix_span _).trans (suffix_readSign rest)).trans (List.suffix_cons _ _)
    · obtain ⟨-, rfl⟩ := Prod.mk.inj (Option.some.inj h)
      exact List.suffix_rfl
  · obtain ⟨-, rfl⟩ := Prod.mk.inj (Option.some.inj h)
    exact List.suffix_rfl

lemma suffix_digits {negative : Bool} {s : Source} (h : digits negative cs = some (s, r)) :
    r <:+ cs := by
  rw [digits_eq] at h
  split at h
  · exact absurd h (by simp)
  obtain ⟨⟨f, r₁⟩, hfraction, h⟩ := Option.bind_eq_some_iff.1 h
  obtain ⟨⟨e, r₂⟩, hexponent, h⟩ := Option.bind_eq_some_iff.1 h
  obtain ⟨-, rfl⟩ := Prod.mk.inj (Option.some.inj h)
  exact ((suffix_exponent hexponent).trans (suffix_fraction hfraction)).trans (suffix_span cs)

/-! ### Numbers as values -/

lemma isSpace_of_isNumberChar {c : Char} (h : isNumberChar c = true) : isSpace c = false := by
  rw [Bool.eq_false_iff]
  intro hc
  simp only [isSpace, Bool.or_eq_true, beq_iff_eq] at hc
  rcases hc with ((rfl | rfl) | rfl) | rfl <;> exact absurd h (by decide)

lemma skip_of_isSpace_false {c : Char} (h : isSpace c = false) (cs : List Char) :
    skip (c :: cs) = c :: cs := by
  rw [skip, List.dropWhile_cons_of_neg (by simp [h])]

/-- A number with its sign. -/
def signed : List Char → Option (Source × List Char)
  | '-' :: cs => digits true cs
  | cs => digits false cs

lemma signed_of_ne {c : Char} (h : c ≠ '-') (cs : List Char) :
    signed (c :: cs) = digits false (c :: cs) := by
  unfold signed
  split
  · next heq => exact absurd (List.cons.inj heq).1 h
  · rfl

lemma signed_append (hrest : Stops rest) {c : Char} {s : Source}
    (h : signed (c :: cs) = some (s, r)) : signed (c :: cs ++ rest) = some (s, r ++ rest) := by
  by_cases hc : c = '-'
  · subst hc
    exact digits_append hrest h
  · rw [signed_of_ne hc] at h
    rw [List.cons_append, signed_of_ne hc]
    exact digits_append hrest h

lemma suffix_signed {s : Source} (h : signed cs = some (s, r)) : r <:+ cs := by
  unfold signed at h
  split at h
  · exact (suffix_digits h).trans (List.suffix_cons _ _)
  · exact suffix_digits h

/-- A number as a value; without one the text is no document. -/
def orBroken : Option (Source × List Char) → Source × Option (List Char)
  | some (s, rest) => (s, some rest)
  | none => (.broken, none)

/-- A character of numbers begins a number. -/
lemma readValue_of_isNumberChar {c : Char} (hc : isNumberChar c = true) (fuel depth : ℕ)
    (cs : List Char) : readValue (fuel + 1) depth (c :: cs) = orBroken (signed (c :: cs)) := by
  have hne {d : Char} (hd : isNumberChar d = false) : c ≠ d := by
    rintro rfl
    rw [hc] at hd
    exact absurd hd (by simp)
  rw [readValue, skip_of_isSpace_false (isSpace_of_isNumberChar hc)]
  split
  -- no other value begins like this
  iterate 6
    · next h => exact absurd (List.cons.inj h).1 (hne (by decide))
  · next h =>
    rw [h]
    rfl
  · next hminus =>
    rw [signed_of_ne fun h => hminus cs (by rw [h])]
    rfl

end Source

/-! ### Numbers that are read back -/

/-- The text of a number is that of a number, possibly of another kind. -/
def Number.Rereads (n : Number) : Prop := ∃ k, Source.ofText n.text = (.number k, true)

namespace Number

variable {n : Number}

lemma ofText_null (k : Number) : Source.ofText "null" ≠ (.number k, true) := by
  have hnull : Source.ofText "null" = (.null, true) := rfl
  rw [hnull]
  simp

/-- A number that is not finite is not written as a number. -/
lemma Rereads.finite_double {x : Float} (h : (double x).Rereads) : (double x).OfDocument := by
  obtain ⟨k, hk⟩ := h
  cases hx : x.binary with
  | finite n m e => exact ⟨n, m, e, hx⟩
  | nan =>
    rw [text, Float.documentText, hx] at hk
    exact absurd hk (ofText_null k)
  | infinite n =>
    rw [text, Float.documentText, hx] at hk
    exact absurd hk (ofText_null k)

lemma Rereads.finite_single {x : Float32} (h : (single x).Rereads) :
    ∃ n m e, x.binary = .finite n m e := by
  obtain ⟨k, hk⟩ := h
  cases hx : x.binary with
  | finite n m e => exact ⟨n, m, e, rfl⟩
  | nan =>
    rw [text, Float32.documentText, hx] at hk
    exact absurd hk (ofText_null k)
  | infinite n =>
    rw [text, Float32.documentText, hx] at hk
    exact absurd hk (ofText_null k)

/-- The text of a number that is read back has characters, and all of them are those of numbers. -/
lemma Rereads.chars (h : n.Rereads) :
    n.text.toList ≠ [] ∧ ∀ c ∈ n.text.toList, isNumberChar c = true := by
  cases n with
  | whole n => exact text_chars trivial
  | double x => exact text_chars h.finite_double
  | single x =>
    obtain ⟨n, m, e, hx⟩ := h.finite_single
    rw [text, Float32.documentText, hx]
    exact chars_text_finite _ n m e

/-- A number that is read back when it stands alone is read back wherever nothing goes on. -/
lemma readValue_text {k : Number} (h : Source.ofText n.text = (.number k, true))
    {fuel : ℕ} (hfuel : 0 < fuel) (depth : ℕ) {rest : List Char} (hrest : Source.Stops rest) :
    Source.readValue fuel depth (n.text.toList ++ rest) = (.number k, some rest) := by
  obtain ⟨hne, hchars⟩ := Rereads.chars ⟨k, h⟩
  obtain ⟨c, cs, hcs⟩ := List.exists_cons_of_ne_nil hne
  obtain ⟨fuel, rfl⟩ := Nat.exists_eq_succ_of_ne_zero hfuel.ne'
  rw [hcs] at hchars
  have hc : isNumberChar c = true := hchars c List.mem_cons_self
  rw [Source.ofText, hcs] at h
  simp only [Source.readValue_of_isNumberChar hc] at h
  cases hs : Source.signed (c :: cs) with
  | none => simp [hs, Source.orBroken] at h
  | some p =>
    obtain ⟨s, r⟩ := p
    simp only [hs, Source.orBroken, Prod.mk.injEq] at h
    obtain ⟨rfl, hend⟩ := h
    have hr : r = [] := by
      cases r with
      | nil => rfl
      | cons d ds =>
        have hd : isNumberChar d = true :=
          hchars d ((Source.suffix_signed hs).subset List.mem_cons_self)
        rw [Source.skip_of_isSpace_false (Source.isSpace_of_isNumberChar hd)] at hend
        exact absurd hend (by simp)
    subst hr
    have happend := Source.signed_append hrest hs
    rw [hcs, List.cons_append, Source.readValue_of_isNumberChar hc, ← List.cons_append, happend]
    rfl

/-! ### Whole numbers -/

lemma head?_digitsOf {n : ℕ} (h : 0 < n) : (digitsOf n).head? ≠ some '0' := by
  induction n using Nat.strong_induction_on with
  | _ n ih =>
    rw [digitsOf, Nat.toList_repr]
    by_cases hn : n < 10
    · rw [Nat.toDigits_of_lt_base hn]
      have all : ∀ n < 10, 0 < n → [Nat.digitChar n].head? ≠ some '0' := by decide
      exact all n hn h
    · have hlead := ih (n / 10) (by omega) (by omega)
      rw [digitsOf, Nat.toList_repr] at hlead
      rw [Nat.toDigits_of_base_le (by decide) (by omega), List.head?_append_of_ne_nil]
      · exact hlead
      · exact Nat.toDigits_ne_nil

lemma foldl_digit {ds : List Char} {a : ℕ}
    (h : ds.foldl (fun n c => 10 * n + digitValue c) a < Nat.pow 2 64) :
    ds.foldl Leading.digit ⟨a, 0⟩ = ⟨ds.foldl (fun n c => 10 * n + digitValue c) a, 0⟩ := by
  have hle (ds : List Char) (a : ℕ) : a ≤ ds.foldl (fun n c => 10 * n + digitValue c) a := by
    induction ds generalizing a with
    | nil => exact le_rfl
    | cons c cs ih =>
      have hstep : a ≤ 10 * a + digitValue c := by omega
      exact hstep.trans (ih _)
  induction ds generalizing a with
  | nil => rfl
  | cons c cs ih =>
    rw [List.foldl_cons] at h ⊢
    have hnext : 10 * a + digitValue c < Nat.pow 2 64 := lt_of_le_of_lt (hle cs _) h
    have hdigit : Leading.digit ⟨a, 0⟩ c = ⟨10 * a + digitValue c, 0⟩ := by
      rw [Leading.digit, Nat.mul_comm a 10]
      exact if_pos ⟨rfl, hnext⟩
    rw [hdigit, ih h, List.foldl_cons]

/-- Whole numbers of 64 bits are read back as they are. -/
lemma ofText_whole {n : ℕ} (h : n < Nat.pow 2 64) :
    Source.ofText (whole n).text = (.number (.whole n), true) := by
  have hdigits : Source.digits false (digitsOf n) = some (.number (.whole n), []) := by
    have hspan : (digitsOf n).span Char.isDigit = (digitsOf n, []) := by
      have happend : (digitsOf n ++ []).span Char.isDigit = (digitsOf n, []) :=
        span_isDigit (fun c hc => isDigit_of_mem_digitsOf hc) (by simp)
      rwa [List.append_nil] at happend
    have hplain : ¬ ((digitsOf n).isEmpty ||
        (digitsOf n).length > 1 && (digitsOf n).head? == some '0') = true := by
      rcases Nat.eq_zero_or_pos n with rfl | hn
      · decide
      · simp [digitsOf_ne_nil, head?_digitsOf hn]
    have hparts : ofParts? false (digitsOf n) none none = some (whole n) := by
      have hfold : (digitsOf n).foldl Leading.digit ⟨0, 0⟩ = ⟨n, 0⟩ := by
        have hw := wholeOf_digitsOf n
        rw [wholeOf] at hw
        rw [foldl_digit (by rw [hw]; exact h), hw]
      simp [ofParts?, hfold]
    rw [Source.digits_eq, hspan, if_neg hplain]
    simp [Source.fraction?, Source.exponent?, hparts]
  obtain ⟨c, cs, hcs⟩ := List.exists_cons_of_ne_nil (digitsOf_ne_nil n)
  have hc : c.isDigit = true := isDigit_of_mem_digitsOf (n := n) (by simp [hcs])
  have hminus : c ≠ '-' := by
    rintro rfl
    exact absurd hc (by decide)
  have htext : (whole n).text.toList = c :: cs := by rw [toList_text_whole, ← hcs]; simp
  rw [hcs] at hdigits
  rw [Source.ofText, htext]
  simp only [Source.readValue_of_isNumberChar (isNumberChar_of_isDigit hc),
    Source.signed_of_ne hminus, hdigits]
  rfl

lemma rereads_whole {n : ℕ} (h : n < Nat.pow 2 64) : (whole n).Rereads := ⟨_, ofText_whole h⟩

end Number

end VisualTemplate.Json
