import Mathlib.Tactic.Common
import VisualTemplate.Document
/-!
Addresses in style sheets.

A style sheet refers to something outside of it by `url(` and what follows. It needs no network if
each such address holds its data or is a place in the document itself. Whether it does is told from
the parts that it is written of, since the marks between them belong to no address.
-/

namespace VisualTemplate.Document

/-! ### Reading addresses -/

/-- An address of embedded data or of a place in the same document. -/
def isInner (address : List Char) : Bool :=
  "data:".toList.isPrefixOf address || "#".toList.isPrefixOf address

/-- A blank of style sheets. -/
def isSheetBlank (c : Char) : Bool := [' ', '\t', '\n', '\r', '\x0c'].contains c

def isQuote (c : Char) : Bool := c == '\'' || c == '"'

/-- A text without a quote at its beginning. -/
def unquoted : List Char → List Char
  | [] => []
  | c :: cs => if isQuote c then cs else c :: cs

/-- A text begins with an inner address, blanks and a quote before it apart. -/
def startsInner (cs : List Char) : Bool := isInner (unquoted (cs.dropWhile isSheetBlank))

/-- What follows `url(` at the beginning of a text, the case of its letters apart. -/
def afterUrl? : List Char → Option (List Char)
  | u :: r :: l :: b :: rest =>
    if u.toLower = 'u' ∧ r.toLower = 'r' ∧ l.toLower = 'l' ∧ b = '(' then some rest else none
  | _ => none

/-- All addresses behind `url(` are inner ones, wherever they stand. -/
def staysInner : List Char → Bool
  | [] => true
  | c :: cs => (afterUrl? (c :: cs)).all startsInner && staysInner cs

/-! ### Parts of a text -/

lemma eq_of_afterUrl? {cs rest : List Char} (h : afterUrl? cs = some rest) :
    ∃ u r l, cs = u :: r :: l :: '(' :: rest ∧
      u.toLower = 'u' ∧ r.toLower = 'r' ∧ l.toLower = 'l' := by
  unfold afterUrl? at h
  split at h
  · next u r l b rest' =>
    split at h
    · next hletters =>
      obtain ⟨hu, hr, hl, rfl⟩ := hletters
      rw [← Option.some.inj h]
      exact ⟨u, r, l, rfl, hu, hr, hl⟩
    · cases h
  · cases h

lemma staysInner_cons {c : Char} (h : c.toLower ≠ 'u') (cs : List Char) :
    staysInner (c :: cs) = staysInner cs := by
  have hnone : afterUrl? (c :: cs) = none := by
    rw [Option.eq_none_iff_forall_ne_some]
    intro rest hrest
    obtain ⟨u, r, l, hcs, hu, -⟩ := eq_of_afterUrl? hrest
    exact h ((List.cons.inj hcs).1 ▸ hu)
  rw [staysInner, hnone, Option.all_none, Bool.true_and]

lemma staysInner_behind {front : List Char} (h : ∀ c ∈ front, c.toLower ≠ 'u') (cs : List Char) :
    staysInner (front ++ cs) = staysInner cs := by
  induction front with
  | nil => rfl
  | cons c front ih =>
    rw [List.forall_mem_cons] at h
    rw [List.cons_append, staysInner_cons h.1, ih h.2]

/-- Without a bracket there is no address. -/
lemma staysInner_of_notMem {cs : List Char} (h : '(' ∉ cs) : staysInner cs = true := by
  induction cs with
  | nil => rfl
  | cons c cs ih =>
    have hnone : afterUrl? (c :: cs) = none := by
      rw [Option.eq_none_iff_forall_ne_some]
      intro rest hrest
      obtain ⟨u, r, l, hcs, -⟩ := eq_of_afterUrl? hrest
      exact h (by simp [hcs])
    rw [staysInner, hnone, ih fun hmem => h (List.mem_cons_of_mem _ hmem)]
    rfl

/-- The marks between the parts of a style sheet. They belong neither to `url(` nor to the beginning
of an inner address. -/
def edges : List Char := [';', '\x7d', '\'', ')']

lemma edge_apart : ∀ c ∈ edges, c ∉ "data:".toList ∧ c ∉ "#".toList ∧
    c.toLower ∉ ['u', 'r', 'l'] ∧ c ≠ '(' ∧ isSheetBlank c = false := by
  rw [edges]
  simp only [List.forall_mem_cons]
  refine ⟨?_, ?_, ?_, ?_, fun _ h => absurd h List.not_mem_nil⟩ <;> decide

lemma isPrefixOf_append {front : List Char} {c : Char} (h : c ∉ front) (cs rest : List Char) :
    front.isPrefixOf (cs ++ c :: rest) = front.isPrefixOf cs := by
  rw [Bool.eq_iff_iff, List.isPrefixOf_iff_prefix, List.isPrefixOf_iff_prefix]
  refine ⟨fun hfront => ?_, fun hfront => hfront.trans (List.prefix_append _ _)⟩
  have hcs : cs ++ [c] <+: cs ++ c :: rest := ⟨rest, by simp⟩
  rcases List.prefix_or_prefix_of_prefix hfront hcs with hshort | hlong
  · rcases List.prefix_concat_iff.1 hshort with rfl | hshort
    · exact absurd (by simp) h
    · exact hshort
  · exact absurd (hlong.subset (by simp)) h

lemma isInner_append {c : Char} (hedge : c ∈ edges) (cs rest : List Char) :
    isInner (cs ++ c :: rest) = isInner cs := by
  obtain ⟨hdata, hplace, -⟩ := edge_apart c hedge
  rw [isInner, isPrefixOf_append hdata, isPrefixOf_append hplace, isInner]

/-- What an address begins with is told in front of an edge. -/
lemma startsInner_append {c : Char} (hedge : c ∈ edges) {rest : List Char}
    (hrest : isQuote c = false ∨ rest = []) (cs : List Char) :
    startsInner (cs ++ c :: rest) = startsInner cs := by
  have hunquoted (cs : List Char) :
      isInner (unquoted (cs ++ c :: rest)) = isInner (unquoted cs) := by
    cases cs with
    | nil =>
      rw [List.nil_append, unquoted, unquoted]
      rcases hrest with hc | rfl
      · rw [if_neg (by simp [hc])]
        exact isInner_append hedge [] rest
      · split
        · rfl
        · exact isInner_append hedge [] []
    | cons d cs =>
      rw [List.cons_append, unquoted, unquoted]
      split
      · exact isInner_append hedge cs rest
      · exact isInner_append hedge (d :: cs) rest
  obtain ⟨-, -, -, -, hblank⟩ := edge_apart c hedge
  rw [startsInner, startsInner, List.dropWhile_append]
  split
  · next hblanks =>
    rw [List.isEmpty_iff.1 hblanks, List.dropWhile_cons, if_neg (by simp [hblank])]
    exact hunquoted []
  · exact hunquoted _

lemma afterUrl?_url {u r l : Char} (hu : u.toLower = 'u') (hr : r.toLower = 'r')
    (hl : l.toLower = 'l') (rest : List Char) :
    afterUrl? (u :: r :: l :: '(' :: rest) = some rest := if_pos ⟨hu, hr, hl, rfl⟩

lemma afterUrl?_append {c : Char} (hedge : c ∈ edges) (cs rest : List Char) :
    afterUrl? (cs ++ c :: rest) = (afterUrl? cs).map (· ++ c :: rest) := by
  obtain ⟨-, -, hletters, hbracket, -⟩ := edge_apart c hedge
  simp only [List.mem_cons, List.not_mem_nil, or_false, not_or] at hletters
  obtain ⟨hu, hr, hl⟩ := hletters
  cases hcs : afterUrl? cs with
  | some found =>
    obtain ⟨u, r, l, rfl, hu', hr', hl'⟩ := eq_of_afterUrl? hcs
    exact afterUrl?_url hu' hr' hl' _
  | none =>
    rw [Option.map_none, Option.eq_none_iff_forall_ne_some]
    intro found hfound
    obtain ⟨u, r, l, heq, hu', hr', hl'⟩ := eq_of_afterUrl? hfound
    -- an edge among the first four characters belongs to no `url(`
    match cs, heq with
    | [], heq => exact hu ((List.cons.inj heq).1 ▸ hu')
    | [_], heq => exact hr ((List.cons.inj (List.cons.inj heq).2).1 ▸ hr')
    | [_, _], heq => exact hl ((List.cons.inj (List.cons.inj (List.cons.inj heq).2).2).1 ▸ hl')
    | [_, _, _], heq => simp [hbracket] at heq
    | a :: b :: d :: e :: cs, heq =>
      simp only [List.cons_append, List.cons.injEq] at heq
      obtain ⟨rfl, rfl, rfl, rfl, -⟩ := heq
      rw [afterUrl?_url hu' hr' hl'] at hcs
      cases hcs

/-- A text stays inside just when its parts in front of an edge and behind it do. -/
lemma staysInner_append {c : Char} (hedge : c ∈ edges) {rest : List Char}
    (hrest : isQuote c = false ∨ rest = []) (cs : List Char) :
    staysInner (cs ++ c :: rest) = (staysInner cs && staysInner rest) := by
  induction cs with
  | nil =>
    obtain ⟨-, -, hletters, -⟩ := edge_apart c hedge
    rw [List.nil_append, staysInner_cons fun hu => hletters (by simp [hu])]
    rfl
  | cons a cs ih =>
    rw [List.cons_append, staysInner, staysInner, ih, ← List.cons_append,
      afterUrl?_append hedge, Option.all_map, Bool.and_assoc]
    refine congrArg (· && _) (congrArg (Option.all · _) (funext fun found => ?_))
    exact startsInner_append hedge hrest found

/-- An inner address adds nothing to what stands in it. -/
lemma staysInner_url {address : List Char} (h : startsInner address = true) :
    staysInner ('u' :: 'r' :: 'l' :: '(' :: address) = staysInner address := by
  have hfront : ∀ c ∈ ['r', 'l', '('], c.toLower ≠ 'u' := by simp
  rw [staysInner, afterUrl?_url (by decide) (by decide) (by decide), Option.all_some, h,
    Bool.true_and]
  exact staysInner_behind hfront address

lemma staysInner_concat {c : Char} (hedge : c ∈ edges) (cs : List Char) :
    staysInner (cs ++ [c]) = staysInner cs := by
  rw [staysInner_append hedge (.inr rfl), staysInner, Bool.and_true]

lemma staysInner_intercalate (parts : List (List Char)) :
    staysInner ([';'].intercalate parts) = parts.all staysInner := by
  induction parts with
  | nil => rfl
  | cons part parts ih =>
    cases parts with
    | nil => simp
    | cons part' parts =>
      rw [List.intercalate_cons_cons, List.append_assoc, List.singleton_append,
        staysInner_append (by decide) (.inl (by decide)), ih]
      rfl

/-- The name of a property adds nothing to its value. -/
lemma staysInner_property {name : List Char} (h : '(' ∉ name) (value : List Char) :
    staysInner (name ++ ':' :: value) = staysInner value := by
  induction name with
  | nil => exact staysInner_cons (by decide) value
  | cons c name ih =>
    have hnone : afterUrl? (c :: name ++ ':' :: value) = none := by
      rw [Option.eq_none_iff_forall_ne_some]
      intro found hfound
      obtain ⟨u, r, l, heq, -, hr, hl⟩ := eq_of_afterUrl? hfound
      match name, heq with
      | [], heq =>
        rw [← (List.cons.inj (List.cons.inj heq).2).1] at hr
        exact absurd hr (by decide)
      | [_], heq =>
        rw [← (List.cons.inj (List.cons.inj (List.cons.inj heq).2).2).1] at hl
        exact absurd hl (by decide)
      | [_, _], heq => simp at heq
      | a :: b :: d :: name, heq =>
        simp only [List.cons_append, List.cons.injEq] at heq
        exact h (by simp [heq.2.2.2.1])
    rw [List.cons_append] at hnone ⊢
    rw [staysInner, hnone, ih fun hmem => h (List.mem_cons_of_mem _ hmem)]
    rfl

end VisualTemplate.Document
