import Mathlib.Tactic
import VisualTemplate.Inference
/-!
Where a text is found in another.

A literal is found where it stands first, and an expression wherever its engine finds it. Either way
a rule cuts a text in three, nothing of the text is lost, and what is found is not empty.
-/

namespace VisualTemplate

namespace Text

variable {piece cs front back : List Char}

/-- A piece stands between two parts of a text, and nowhere nearer to the front. -/
structure FirstAt (piece cs front back : List Char) : Prop where
  cut : cs = front ++ piece ++ back
  least : ∀ f b, cs = f ++ piece ++ b → front.length ≤ f.length

lemma exists_cutAround {f b : List Char} (h : cs = f ++ piece ++ b) :
    ∃ front back, cutAround piece cs = some (front, back) ∧ front.length ≤ f.length := by
  induction cs generalizing f with
  | nil =>
    obtain ⟨rfl, rfl, rfl⟩ : f = [] ∧ piece = [] ∧ b = [] := by simpa using h.symm
    exact ⟨[], [], rfl, le_rfl⟩
  | cons c cs ih =>
    rw [cutAround]
    cases hrest : after? piece (c :: cs) with
    | some rest => exact ⟨[], rest, rfl, Nat.zero_le _⟩
    | none =>
      cases f with
      | nil =>
        rw [h, List.nil_append, after?_append] at hrest
        cases hrest
      | cons x f =>
        obtain ⟨-, hcs⟩ := List.cons.inj h
        obtain ⟨front, back, hcut, hle⟩ := ih hcs
        refine ⟨c :: front, back, by rw [hcut]; rfl, ?_⟩
        rw [List.length_cons, List.length_cons]
        omega

/-- A text is cut around the first occurrence of a piece. -/
lemma firstAt_of_cutAround (h : cutAround piece cs = some (front, back)) :
    FirstAt piece cs front back where
  cut := append_of_cutAround h
  least f b hcs := by
    obtain ⟨front', back', hcut, hle⟩ := exists_cutAround hcs
    rw [h] at hcut
    obtain ⟨rfl, rfl⟩ := Prod.mk.inj (Option.some.inj hcut)
    exact hle

/-- A piece that stands in a text stands somewhere first. -/
lemma exists_firstAt (h : cs = front ++ piece ++ back) :
    ∃ first rest, FirstAt piece cs first rest := by
  obtain ⟨first, rest, hcut, -⟩ := exists_cutAround h
  exact ⟨first, rest, firstAt_of_cutAround hcut⟩

/-- A piece stands first at one place only. -/
lemma FirstAt.unique {front' back' : List Char} (h : FirstAt piece cs front back)
    (h' : FirstAt piece cs front' back') : front' = front ∧ back' = back := by
  have hlength : front'.length = front.length :=
    le_antisymm (h'.least front back h.cut) (h.least front' back' h'.cut)
  have hcut : front' ++ (piece ++ back') = front ++ (piece ++ back) := by
    rw [← List.append_assoc, ← List.append_assoc, ← h'.cut, ← h.cut]
  obtain ⟨hfront, hrest⟩ := List.append_inj hcut hlength
  exact ⟨hfront, List.append_cancel_left hrest⟩

lemma cutAround_iff : cutAround piece cs = some (front, back) ↔ FirstAt piece cs front back := by
  refine ⟨firstAt_of_cutAround, fun h => ?_⟩
  obtain ⟨front', back', hcut, -⟩ := exists_cutAround h.cut
  obtain ⟨rfl, rfl⟩ := h.unique (firstAt_of_cutAround hcut)
  exact hcut

end Text

namespace Matcher

variable {m : Matcher} {cs front found back : List Char}

lemma split?_pattern {f : Finder}
    (h : (pattern f).split? cs = some (front, found, back)) :
    f.split? cs = some (front, found, back) ∧ found ≠ [] := by
  rw [split?] at h
  split at h
  · next hsplit =>
    split at h
    · cases h
    · next hfound =>
      obtain ⟨rfl, rfl, rfl⟩ : _ = front ∧ _ = found ∧ _ = back := by simpa using h
      exact ⟨hsplit, by simpa using hfound⟩
  · cases h

lemma split?_literal {piece : List Char}
    (h : (literal piece).split? cs = some (front, found, back)) :
    found = piece ∧ Text.FirstAt found cs front back := by
  obtain ⟨⟨f, b⟩, hcut, heq⟩ := Option.map_eq_some_iff.1 h
  obtain ⟨rfl, rfl, rfl⟩ : f = front ∧ piece = found ∧ b = back := by simpa using heq
  exact ⟨rfl, Text.firstAt_of_cutAround hcut⟩

/-- A rule cuts a text in three, and nothing of the text is lost. -/
lemma append_of_split? (h : m.split? cs = some (front, found, back)) :
    cs = front ++ found ++ back := by
  cases m with
  | literal piece =>
    obtain ⟨-, hfirst⟩ := split?_literal h
    exact hfirst.cut
  | pattern f =>
    obtain ⟨hsplit, -⟩ := split?_pattern h
    exact f.append_of_split? hsplit

/-- A rule never finds the empty text, unless it is told to. -/
lemma found_ne_nil (hm : m ≠ .literal []) (h : m.split? cs = some (front, found, back)) :
    found ≠ [] := by
  cases m with
  | literal piece =>
    obtain ⟨rfl, -⟩ := split?_literal h
    exact fun hnil => hm (congrArg literal hnil)
  | pattern f =>
    obtain ⟨-, hfound⟩ := split?_pattern h
    exact hfound

end Matcher

/-- A rule that matches a text is one of the rules, and it has cut the text. -/
lemma Inference.getElem?_of_candidate {cs : List Char} {rules : List Rule} {k : Candidate} {i : ℕ}
    (h : k ∈ candidates cs i rules) :
    ∃ n, k.place = i + n ∧ rules[n]? = some k.rule ∧
      ∃ front back, k.rule.matcher.split? cs = some (front, k.found, back) := by
  induction rules generalizing i with
  | nil => cases h
  | cons rule rules ih =>
    have hrest (h : k ∈ candidates cs (i + 1) rules) :
        ∃ n, k.place = i + n ∧ (rule :: rules)[n]? = some k.rule ∧
          ∃ front back, k.rule.matcher.split? cs = some (front, k.found, back) := by
      obtain ⟨n, hplace, hrule, hcut⟩ := ih h
      exact ⟨n + 1, by omega, hrule, hcut⟩
    unfold candidates at h
    split at h
    · next front found back hcut =>
      rcases List.mem_cons.1 h with rfl | h
      · exact ⟨0, rfl, rfl, front, back, hcut⟩
      · exact hrest h
    · exact hrest h

end VisualTemplate
