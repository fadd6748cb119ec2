import Mathlib.Tactic.Common
import VisualTemplate.Schema
/-!
What variants leave alone.

A variant changes nothing but which nodes are visible. So whatever can be told from a node without
looking at its visibility or at what is below it is the same along the pre-order of the tree, under
every variant.
-/

namespace VisualTemplate

variable {α : Type} {f : Node → α}

namespace Variant

mutual

lemma map_applyTo (hf : ∀ os n, f (applyTo os n) = f n) (os : List Override) (n : Node) :
    (applyTo os n).preorder.map f = n.preorder.map f := by
  match n with
  | .container h l cs =>
    rw [applyTo, Node.preorder, Node.preorder, List.map_cons, List.map_cons,
      map_applyToAll hf os cs]
    exact congrArg (· :: _) (hf os (.container h l cs))
  | .leaf h l => exact congrArg (fun a => [a]) (hf os (.leaf h l))

lemma map_applyToAll (hf : ∀ os n, f (applyTo os n) = f n) (os : List Override)
    (ns : List Node) : (Node.preorders (applyToAll os ns)).map f = (Node.preorders ns).map f := by
  match ns with
  | [] => rfl
  | n :: ns =>
    rw [applyToAll, Node.preorders, Node.preorders, List.map_append, List.map_append,
      map_applyTo hf os n, map_applyToAll hf os ns]

end

lemma id_applyTo (os : List Override) (n : Node) : (applyTo os n).id = n.id := by
  cases n <;> rfl

lemma binding_applyTo (os : List Override) (n : Node) : (applyTo os n).binding = n.binding := by
  cases n <;> rfl

end Variant

/-- The tree for a variant agrees with that of the schema in all that variants leave alone. -/
lemma Schema.map_nodesFor {s : Schema} {variant : Option String} {nodes : List Node}
    (hf : ∀ os n, f (Variant.applyTo os n) = f n) (h : s.nodesFor variant = .ok nodes) :
    (Node.preorders nodes).map f = (Node.preorders s.top).map f := by
  unfold nodesFor at h
  split at h
  · rw [← Except.ok.inj h]
  · split at h
    · cases h
    · rw [← Except.ok.inj h, Variant.map_applyToAll hf]

end VisualTemplate
