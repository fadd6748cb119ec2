import Mathlib.Tactic.Common
import VisualTemplate.Text.Cut
/-!
Texts cut at characters: what stands before a cut is free of what it was cut at. What follows a
beginning, or precedes an ending, is all that stands there.
-/

namespace VisualTemplate.Text

lemma cutAt_append {p : Char → Bool} {front : List Char} (hfront : ∀ x ∈ front, p x = false)
    {c : Char} (hc : p c = true) (back : List Char) :
    cutAt p (front ++ c :: back) = some (front, back) := by
  induction front with
  | nil => simp [cutAt, hc]
  | cons x front ih =>
    rw [List.forall_mem_cons] at hfront
    simp [cutAt, hfront.1, ih hfront.2]

lemma append_of_cutAt {p : Char → Bool} {cs front back : List Char}
    (h : cutAt p cs = some (front, back)) :
    (∀ x ∈ front, p x = false) ∧ ∃ c, p c = true ∧ cs = front ++ c :: back := by
  induction cs generalizing front with
  | nil => cases h
  | cons x cs ih =>
    rw [cutAt] at h
    split at h
    · next hx =>
      cases h
      exact ⟨by simp, x, hx, rfl⟩
    · next hx =>
      obtain ⟨⟨front', back'⟩, hcut, hpair⟩ := Option.map_eq_some_iff.1 h
      cases hpair
      obtain ⟨hfront, c, hc, rfl⟩ := ih hcut
      exact ⟨List.forall_mem_cons.2 ⟨Bool.not_eq_true _ ▸ hx, hfront⟩, c, hc, rfl⟩

lemma eq_false_of_cutAt {p : Char → Bool} {cs : List Char} (h : cutAt p cs = none) :
    ∀ x ∈ cs, p x = false := by
  induction cs with
  | nil => simp
  | cons x cs ih =>
    rw [cutAt] at h
    split at h
    · cases h
    · next hx =>
      exact List.forall_mem_cons.2 ⟨Bool.not_eq_true _ ▸ hx, ih (Option.map_eq_none_iff.1 h)⟩

/-- The first part of a text is what stands before the first separator. -/
lemma headD_splitOn (c : Char) (cs : List Char) :
    (cs.splitOn c).headD [] = cs.takeWhile (· != c) := by
  induction cs with
  | nil => rfl
  | cons x cs ih =>
    obtain ⟨part, parts, hparts⟩ := List.exists_cons_of_ne_nil (List.splitOn_ne_nil c cs)
    rw [hparts, List.headD_cons] at ih
    rw [List.splitOn_cons_eq_if_modifyHead, List.takeWhile_cons, hparts, ih]
    cases hx : x == c <;> simp [bne, hx]

lemma after?_eq_some_iff {start cs rest : List Char} :
    after? start cs = some rest ↔ cs = start ++ rest := by
  constructor
  · exact append_of_after?
  · rintro rfl
    exact after?_append start rest

lemma before?_eq_some_iff {ending cs front : List Char} :
    before? ending cs = some front ↔ cs = front ++ ending := by
  constructor
  · exact append_of_before?
  · rintro rfl
    exact before?_append front ending

end VisualTemplate.Text

namespace String

open VisualTemplate

lemma after?_eq_some_iff {s start rest : String} :
    s.after? start = some rest ↔ s.toList = start.toList ++ rest.toList := by
  rw [after?, Option.map_eq_some_iff]
  simp only [Text.after?_eq_some_iff]
  constructor
  · rintro ⟨cs, hcs, rfl⟩
    rw [hcs, toList_ofList]
  · exact fun h => ⟨rest.toList, h, ofList_toList⟩

lemma before?_eq_some_iff {s ending front : String} :
    s.before? ending = some front ↔ s.toList = front.toList ++ ending.toList := by
  rw [before?, Option.map_eq_some_iff]
  simp only [Text.before?_eq_some_iff]
  constructor
  · rintro ⟨cs, hcs, rfl⟩
    rw [hcs, toList_ofList]
  · exact fun h => ⟨front.toList, h, ofList_toList⟩

end String
