import Mathlib.Data.List.Forall2
import Mathlib.Tactic.Common
import VisualTemplate.Text.Blank
/-!
The pieces of a list.

A list is some pieces without marks, each up to a mark or to the end, and marks around them. There
is one way to take a text apart like that.
-/

namespace VisualTemplate.Text

/-- The text holds these pieces, none of them empty, and marks before, between and behind them. -/
inductive Spaced (p : Char → Bool) : List Char → List (List Char) → Prop where
  | done : Spaced p [] []
  | mark {c : Char} {cs : List Char} {ws : List (List Char)} :
      p c = true → Spaced p cs ws → Spaced p (c :: cs) ws
  | piece {w rest : List Char} {ws : List (List Char)} :
      w ≠ [] → (∀ c ∈ w, p c = false) → (∀ c ∈ rest.head?, p c = true) → Spaced p rest ws →
        Spaced p (w ++ rest) (w :: ws)

variable {p : Char → Bool} {cs w rest : List Char} {ws : List (List Char)}

lemma fields_cons_mark {c : Char} (h : p c = true) (cs : List Char) :
    fields p (c :: cs) = fields p cs := by
  rw [fields, List.splitOnP_cons_eq_if_modifyHead, if_pos h]
  rfl

/-- A piece ends at the next mark. -/
lemma fields_piece (hne : w ≠ []) (hw : ∀ c ∈ w, p c = false)
    (hrest : ∀ c ∈ rest.head?, p c = true) : fields p (w ++ rest) = w :: fields p rest := by
  have hkept : w.isEmpty = false := by simpa using hne
  cases rest with
  | nil =>
    rw [List.append_nil, fields, List.splitOnP_eq_singleton hw]
    simp [hkept, fields]
  | cons c rest =>
    have hc : p c = true := hrest c rfl
    rw [fields_cons_mark hc, fields, List.splitOnP_append_cons_of_forall_mem hw _ hc]
    simp [hkept, fields]

lemma Spaced.fields_eq (h : Spaced p cs ws) : fields p cs = ws := by
  induction h with
  | done => rfl
  | mark hc _ ih => rw [fields_cons_mark hc, ih]
  | piece hne hw hrest _ ih => rw [fields_piece hne hw hrest, ih]

/-- A character that is no mark continues the piece that follows it, or is one. -/
lemma exists_spaced (p : Char → Bool) (cs : List Char) : ∃ ws, Spaced p cs ws := by
  induction cs with
  | nil => exact ⟨[], .done⟩
  | cons c cs ih =>
    obtain ⟨ws, h⟩ := ih
    by_cases hc : p c = true
    · exact ⟨ws, .mark hc h⟩
    · rw [Bool.not_eq_true] at hc
      have alone (hcs : ∀ d ∈ cs.head?, p d = true) : Spaced p (c :: cs) ([c] :: ws) :=
        .piece (w := [c]) (by simp) (by simpa using hc) hcs h
      cases h with
      | done => exact ⟨_, alone (by simp)⟩
      | mark hd h => exact ⟨_, alone (by simpa using hd)⟩
      | @piece w rest ws _ hw hrest h =>
        exact ⟨(c :: w) :: ws, .piece (w := c :: w) (by simp) (by simpa [hc] using hw) hrest h⟩

/-- **The fields of a text are its pieces.** -/
theorem fields_eq_iff : fields p cs = ws ↔ Spaced p cs ws := by
  constructor
  · rintro rfl
    obtain ⟨ws, h⟩ := exists_spaced p cs
    rwa [h.fields_eq]
  · exact Spaced.fields_eq

/-- Pieces are read one by one. -/
lemma mapM_eq_some_iff {α β : Type} {f : α → Option β} {as : List α} {bs : List β} :
    as.mapM f = some bs ↔ List.Forall₂ (fun a b => f a = some b) as bs := by
  induction as generalizing bs with
  | nil => simp [eq_comm]
  | cons a as ih =>
    rw [List.mapM_cons, List.forall₂_cons_left_iff]
    simp only [Option.bind_eq_bind, Option.bind_eq_some_iff, ih]
    constructor
    · rintro ⟨b, hb, bs', hbs, heq⟩
      exact ⟨b, bs', hb, hbs, (Option.some.inj heq).symm⟩
    · rintro ⟨b, bs', hb, hbs, rfl⟩
      exact ⟨b, hb, bs', hbs, rfl⟩

end VisualTemplate.Text
