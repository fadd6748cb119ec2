import VisualTemplate.Proofs.Text.Fields
import VisualTemplate.ViewBox
/-!
The numbers of a view box.

A view box reads as some numbers if its pieces between blanks and commas are the texts of these, in
order. It has a size just when it reads as four.
-/

namespace VisualTemplate

namespace ViewBox

/-- The pieces of the view box are texts of these numbers. -/
def Reads (s : String) (xs : List Float32) : Prop :=
  ∃ ws, Text.Spaced Text.isListMark s.toList ws ∧
    List.Forall₂ (fun w x => Float32.ofText? (.ofList w) = some x) ws xs

lemma numbers?_eq_some_iff {s : String} {xs : List Float32} :
    numbers? s = some xs ↔ Reads s xs := by
  rw [numbers?, Text.mapM_eq_some_iff]
  constructor
  · exact fun h => ⟨_, Text.fields_eq_iff.1 rfl, h⟩
  · rintro ⟨ws, hws, h⟩
    rwa [Text.fields_eq_iff.2 hws]

/-- The size of a view box is made of the last two of its four numbers. -/
lemma size?_eq_some_iff {s : String} {w h : Float32} :
    size? s = some (w, h) ↔ ∃ x y, Reads s [x, y, w, h] := by
  simp only [← numbers?_eq_some_iff, size?]
  constructor
  · intro hsize
    split at hsize
    · next x y w' h' hnumbers =>
      obtain ⟨rfl, rfl⟩ := Prod.mk.inj (Option.some.inj hsize)
      exact ⟨x, y, hnumbers⟩
    · cases hsize
  · rintro ⟨x, y, hnumbers⟩
    rw [hnumbers]

lemma size?_eq_none_iff {s : String} : size? s = none ↔ ∀ x y w h, ¬ Reads s [x, y, w, h] := by
  rw [Option.eq_none_iff_forall_ne_some]
  constructor
  · exact fun hnone x y w h hreads => hnone (w, h) (size?_eq_some_iff.2 ⟨x, y, hreads⟩)
  · rintro hnot ⟨w, h⟩ hsize
    obtain ⟨x, y, hreads⟩ := size?_eq_some_iff.1 hsize
    exact hnot x y w h hreads

end ViewBox

end VisualTemplate
