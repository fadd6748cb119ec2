import Mathlib.Tactic.Common
import VisualTemplate.Node
/-!
The rendered nodes of a tree.

A node is rendered when it is visible together with all nodes around it. What is rendered is seen
from the tree without its hidden nodes and all that is below them.
-/

namespace VisualTemplate

namespace Node

mutual

/-- A node and all below it in pre-order, each with the nodes around it, the nearest first. -/
def places (around : List Node) : Node → List (Node × List Node)
  | .container h l cs => (.container h l cs, around) :: placesIn (.container h l cs :: around) cs
  | .leaf h l => [(.leaf h l, around)]

def placesIn (around : List Node) : List Node → List (Node × List Node)
  | [] => []
  | n :: ns => n.places around ++ placesIn around ns

end

/-- A node is visible together with all nodes around it. -/
def Exposed (p : Node × List Node) : Prop := p.1.visible = true ∧ ∀ m ∈ p.2, m.visible = true

instance : DecidablePred Exposed := fun p =>
  inferInstanceAs (Decidable (p.1.visible = true ∧ ∀ m ∈ p.2, m.visible = true))

mutual

lemma map_fst_places (around : List Node) (n : Node) :
    (n.places around).map Prod.fst = n.preorder := by
  match n with
  | .container h l cs => rw [places, List.map_cons, map_fst_placesIn _ cs, preorder]
  | .leaf h l => rfl

/-- The places are those of the pre-order. -/
lemma map_fst_placesIn (around ns : List Node) :
    (placesIn around ns).map Prod.fst = preorders ns := by
  match ns with
  | [] => rfl
  | n :: ns =>
    rw [placesIn, List.map_append, map_fst_places _ n, map_fst_placesIn _ ns, preorders]

end

mutual

lemma filter_places_hidden {around : List Node} (hm : ∃ m ∈ around, m.visible = false)
    (n : Node) : (n.places around).filter (Exposed ·) = [] := by
  have hidden (x : Node) : ¬ Exposed (x, around) := by
    obtain ⟨m, hm, hv⟩ := hm
    intro h
    simp [h.2 m hm] at hv
  match n with
  | .container h l cs =>
    have hcs : ∃ m ∈ .container h l cs :: around, m.visible = false := by
      obtain ⟨m, hm, hv⟩ := hm
      exact ⟨m, List.mem_cons_of_mem _ hm, hv⟩
    rw [places, List.filter_cons_of_neg (by simpa using hidden _), filter_placesIn_hidden hcs cs]
  | .leaf h l => rw [places, List.filter_cons_of_neg (by simpa using hidden _), List.filter_nil]

/-- Below a hidden node nothing is exposed. -/
lemma filter_placesIn_hidden {around : List Node} (hm : ∃ m ∈ around, m.visible = false)
    (ns : List Node) : (placesIn around ns).filter (Exposed ·) = [] := by
  match ns with
  | [] => rfl
  | n :: ns =>
    rw [placesIn, List.filter_append, filter_places_hidden hm n, filter_placesIn_hidden hm ns,
      List.append_nil]

end

mutual

lemma filter_places {around : List Node} (ha : ∀ m ∈ around, m.visible = true) (n : Node) :
    ((n.places around).filter (Exposed ·)).map Prod.fst = n.rendered := by
  match n with
  | .container h l cs =>
    rw [places, rendered]
    by_cases hv : h.visible = true
    · have hexposed : Exposed (.container h l cs, around) := ⟨hv, ha⟩
      have hcs : ∀ m ∈ .container h l cs :: around, m.visible = true :=
        List.forall_mem_cons.2 ⟨hv, ha⟩
      rw [List.filter_cons_of_pos (by simpa using hexposed), List.map_cons,
        filter_placesIn hcs cs, if_pos hv]
    · have hhidden : ¬ Exposed (.container h l cs, around) := fun he => hv he.1
      have hcs : ∃ m ∈ .container h l cs :: around, m.visible = false :=
        ⟨_, List.mem_cons_self, Bool.eq_false_iff.2 hv⟩
      rw [List.filter_cons_of_neg (by simpa using hhidden), filter_placesIn_hidden hcs cs,
        if_neg hv, List.map_nil]
  | .leaf h l =>
    rw [places, rendered]
    by_cases hv : h.visible = true
    · have hexposed : Exposed (.leaf h l, around) := ⟨hv, ha⟩
      rw [List.filter_cons_of_pos (by simpa using hexposed), if_pos hv]
      rfl
    · have hhidden : ¬ Exposed (.leaf h l, around) := fun he => hv he.1
      rw [List.filter_cons_of_neg (by simpa using hhidden), if_neg hv]
      rfl

/-- The rendered nodes are those that are exposed, in pre-order. -/
lemma filter_placesIn {around : List Node} (ha : ∀ m ∈ around, m.visible = true)
    (ns : List Node) :
    ((placesIn around ns).filter (Exposed ·)).map Prod.fst = renderedIn ns := by
  match ns with
  | [] => rfl
  | n :: ns =>
    rw [placesIn, List.filter_append, List.map_append, filter_places ha n, filter_placesIn ha ns,
      renderedIn]

end

lemma mem_renderedIn_iff {n : Node} {ns : List Node} :
    n ∈ renderedIn ns ↔ ∃ place ∈ placesIn [] ns, Exposed place ∧ place.1 = n := by
  have hnone : ∀ m ∈ ([] : List Node), m.visible = true := by simp
  rw [← filter_placesIn hnone ns]
  simp only [List.mem_map, List.mem_filter, decide_eq_true_eq, and_assoc]

/-- The rendered nodes stand in pre-order. -/
lemma sublist_preorders (ns : List Node) : (renderedIn ns).Sublist (preorders ns) := by
  have hnone : ∀ m ∈ ([] : List Node), m.visible = true := by simp
  rw [← filter_placesIn hnone, ← map_fst_placesIn []]
  exact List.filter_sublist.map _

end Node

/-! ### Trees without hidden nodes -/

namespace Node

mutual

/-- A node without what is hidden below it; of a hidden node nothing is left. -/
def shown : Node → List Node
  | .container h l cs => if h.visible then [.container h l (shownIn cs)] else []
  | .leaf h l => if h.visible then [.leaf h l] else []

def shownIn : List Node → List Node
  | [] => []
  | n :: ns => n.shown ++ shownIn ns

end

lemma renderedIn_append (ns ms : List Node) :
    renderedIn (ns ++ ms) = renderedIn ns ++ renderedIn ms := by
  simp [renderedIn_eq_flatMap]

mutual

lemma heads_shown (n : Node) :
    (renderedIn n.shown).map (fun m => (m.id, m.binding)) =
      n.rendered.map fun m => (m.id, m.binding) := by
  match n with
  | .container h l cs =>
    rw [shown, rendered]
    split
    · next hv =>
      have hcs := heads_shownIn cs
      simp only [renderedIn, rendered, hv, ↓reduceIte, List.append_nil, List.map_cons, hcs]
      rfl
    · rfl
  | .leaf h l =>
    rw [shown, rendered]
    split
    · next hv => simp only [renderedIn, rendered, hv, ↓reduceIte, List.append_nil]
    · rfl

/-- Without its hidden nodes a tree renders the same ids with the same bindings. -/
lemma heads_shownIn (ns : List Node) :
    (renderedIn (shownIn ns)).map (fun m => (m.id, m.binding)) =
      (renderedIn ns).map fun m => (m.id, m.binding) := by
  match ns with
  | [] => rfl
  | n :: ns =>
    rw [shownIn, renderedIn_append, List.map_append, heads_shown n, heads_shownIn ns, renderedIn,
      List.map_append]

end

end Node

end VisualTemplate
