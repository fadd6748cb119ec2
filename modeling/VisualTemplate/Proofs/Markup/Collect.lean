import VisualTemplate.Proofs.Markup.Sketch
/-!
What is collected of the elements of a text.

A collector says what it takes of an element at a place, and where the children of the element
stand, unless it passes over them. What it collects of some views is taken in order, each element
before those inside of it. It takes nothing of characters, and so nothing of a text, unless it
takes something of breaks.
-/

namespace VisualTemplate.Document

/-- What to take of an element at a place, by its name, attributes and children, and where its
children stand, if they are looked at. -/
structure Collector (ρ α : Type) where
  take : ρ → String → List (String × String) → List View → List α
  within : ρ → String → List (String × String) → Option ρ

namespace Collector

variable {ρ α : Type}

mutual

/-- What is collected of a view. -/
def ofView (c : Collector ρ α) (place : ρ) : View → List α
  | .char _ => []
  | .element name as vs =>
    c.take place name as vs ++
      match c.within place name as with
      | some inner => c.collect inner vs
      | none => []

def collect (c : Collector ρ α) (place : ρ) : List View → List α
  | [] => []
  | v :: vs => c.ofView place v ++ c.collect place vs

end

variable (c : Collector ρ α) {place inner : ρ} {tag : String} {as : List (String × String)}

lemma collect_append (place : ρ) (vs ws : List View) :
    c.collect place (vs ++ ws) = c.collect place vs ++ c.collect place ws := by
  induction vs with
  | nil => rfl
  | cons v vs ih => rw [List.cons_append, collect, collect, ih, List.append_assoc]

lemma collect_singleton (place : ρ) (v : View) : c.collect place [v] = c.ofView place v := by
  rw [collect, collect, List.append_nil]

/-- An element whose children are looked at. -/
lemma collect_element (hwithin : c.within place tag as = some inner) (vs : List View) :
    c.collect place [.element tag as vs] = c.take place tag as vs ++ c.collect inner vs := by
  rw [collect_singleton, ofView, hwithin]

/-- An element whose children are passed over. -/
lemma collect_passed (hwithin : c.within place tag as = none) (vs : List View) :
    c.collect place [.element tag as vs] = c.take place tag as vs := by
  rw [collect_singleton, ofView, hwithin, List.append_nil]

/-- An element of which nothing is taken itself. -/
lemma collect_inside {vs : List View} (htake : c.take place tag as vs = [])
    (hwithin : c.within place tag as = some inner) :
    c.collect place [.element tag as vs] = c.collect inner vs := by
  rw [collect_element c hwithin, htake, List.nil_append]

/-- An element without children. -/
lemma collect_childless (place : ρ) (tag : String) (as : List (String × String)) :
    c.collect place [.element tag as []] = c.take place tag as [] := by
  cases hwithin : c.within place tag as with
  | none => exact collect_passed c hwithin []
  | some inner => rw [collect_element c hwithin, collect, List.append_nil]

lemma collect_text (hbreak : c.take place "br" [] [] = []) (content : String) :
    c.collect place (allViews [.text content]) = [] := by
  rw [allViews, allViews, List.append_nil]
  refine text_induction (P := fun vs => c.collect place vs = []) rfl (fun _ vs ih => ?_)
    (fun vs ih => ?_) content
  · rw [collect, ih]
    rfl
  · rw [← List.singleton_append, collect_append, ih, View.break, collect_childless, hbreak,
      List.append_nil]

end Collector

end VisualTemplate.Document
