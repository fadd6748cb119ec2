import VisualTemplate.Page
import VisualTemplate.Proofs.Schema.Nesting
/-!
How deep the nodes of a page are nested.

An element becomes at most one container around what is in it, so its nodes stand no deeper above
each other than its elements. The frame and the box that a flex root gets add two levels.
-/

namespace VisualTemplate

namespace Html

mutual

/-- How many elements and texts of a part of a page stand above each other. -/
def Dom.height : Dom → ℕ
  | .element _ cs => Dom.heightIn cs + 1
  | .text _ => 1
  | .other => 0
  | .contents cs => Dom.heightIn cs

def Dom.heightIn : List Dom → ℕ
  | [] => 0
  | d :: ds => max d.height (Dom.heightIn ds)

end

end Html

namespace Page

open Html

lemma depth_hide (n : Node) : n.hide.depth = n.depth := by
  cases n <;> rfl

/-- Hiding nodes does not move them. -/
lemma depth_shown {hidden : Bool} {ns : List Node} {k : ℕ} (h : ∀ n ∈ ns, n.depth ≤ k) :
    ∀ n ∈ (if hidden then ns.map Node.hide else ns), n.depth ≤ k := by
  split
  · refine List.forall_mem_map.2 fun n hn => ?_
    rw [depth_hide]
    exact h n hn
  · exact h

lemma depthIn_le {ns : List Node} {k : ℕ} (h : ∀ n ∈ ns, n.depth ≤ k) : Node.depthIn ns ≤ k := by
  induction ns with
  | nil => exact Nat.zero_le k
  | cons n ns ih =>
    rw [List.forall_mem_cons] at h
    exact max_le h.1 (ih h.2)

lemma depth_drawing (c : MarkupConfig) (s : Progress) (style : InlineStyle) (p : Place) :
    ∀ n ∈ (drawing c s style p).1, n.depth ≤ 1 := by
  unfold drawing
  split
  · exact List.forall_mem_singleton.2 (le_refl 1)
  · split
    · exact fun n hn => absurd hn List.not_mem_nil
    · exact List.forall_mem_singleton.2 (le_refl 1)

variable [Engine]

lemma depth_linesOf (s : Progress) (settings : TextSettings) (style : InlineStyle)
    (width height : Length) (contents : List String) :
    ∀ n ∈ (linesOf s settings style width height contents).1, n.depth ≤ 1 := by
  induction contents generalizing s with
  | nil => exact fun n hn => absurd hn List.not_mem_nil
  | cons content rest ih => exact List.forall_mem_cons.2 ⟨le_refl 1, ih _⟩

lemma depth_text (s : Progress) (settings : TextSettings) (style : InlineStyle) (ds : List Dom) :
    ∀ n ∈ (text s settings style ds).1, n.depth ≤ 1 := by
  unfold text
  split <;> exact depth_linesOf s settings style _ _ _

mutual

lemma depth_nodes (c : MarkupConfig) (around : List Element) (settings : TextSettings)
    (s : Progress) (d : Dom) : ∀ n ∈ (nodes c around settings s d).1, n.depth ≤ d.height := by
  match d with
  | .text t =>
    rw [nodes, Dom.height]
    split
    · exact fun n hn => absurd hn List.not_mem_nil
    · exact depth_linesOf s settings {} .auto .auto _
  | .element e cs =>
    rw [nodes, Dom.height]
    split
    · exact fun n hn => absurd hn List.not_mem_nil
    · dsimp only
      refine depth_shown ?_
      split
      · exact List.forall_mem_singleton.2 (Nat.le_add_left 1 _)
      · split
        · exact fun n hn => (depth_drawing c s _ _ n hn).trans (Nat.le_add_left 1 _)
        · split
          · exact fun n hn => (depth_text s _ _ cs n hn).trans (Nat.le_add_left 1 _)
          · refine List.forall_mem_singleton.2 (Nat.add_le_add_right (depthIn_le ?_) 1)
            exact depth_nodesIn c (e :: around) _ _ cs
  | .contents cs =>
    rw [nodes]
    exact fun n hn => absurd hn List.not_mem_nil
  | .other =>
    rw [nodes]
    exact fun n hn => absurd hn List.not_mem_nil

lemma depth_nodesIn (c : MarkupConfig) (around : List Element) (settings : TextSettings)
    (s : Progress) (ds : List Dom) :
    ∀ n ∈ (nodesIn c around settings s ds).1, n.depth ≤ Dom.heightIn ds := by
  match ds with
  | [] =>
    rw [nodesIn]
    exact fun n hn => absurd hn List.not_mem_nil
  | d :: ds =>
    rw [nodesIn, Dom.heightIn]
    intro n hn
    rcases List.mem_append.1 hn with hn | hn
    · exact le_max_of_le_left (depth_nodes c around settings s d n hn)
    · exact le_max_of_le_right (depth_nodesIn c around settings _ ds n hn)

end

/-- The frame and the box of a flex root add two levels. -/
lemma depth_frame (c : MarkupConfig) (s : Progress) (root : Place) :
    (frame c s root).1.depth ≤ Dom.heightIn root.children + 2 := by
  have hin (settings : TextSettings) (s : Progress) :
      Node.depthIn (nodesIn c (root.element :: root.around) settings s root.children).1 ≤
        Dom.heightIn root.children :=
    depthIn_le (depth_nodesIn c _ settings s root.children)
  unfold frame
  dsimp only
  rw [Node.depth]
  split
  · refine Nat.add_le_add_right (depthIn_le (List.forall_mem_singleton.2 ?_)) 1
    rw [Node.depth]
    exact Nat.add_le_add_right (hin _ _) 1
  · exact (Nat.add_le_add_right (hin _ _) 1).trans (Nat.le_succ _)

end Page

/-- A page's schema nests two containers for each level of its root, and six more. -/
lemma Html.Document.nesting_toImport_le [Engine] {config : MarkupConfig} {id : String}
    {d : Html.Document} {i : Import} {root : Html.Place} (h : d.toImport config id = .ok i)
    (hroot : Page.root? config.canvas d = some root) :
    i.schema.toValue.nesting ≤ 2 * Html.Dom.heightIn root.children + 6 := by
  rw [toImport, hroot] at h
  obtain ⟨inference, -, h⟩ := Except.bind_eq_ok_iff.1 h
  dsimp only at h
  obtain ⟨vs, -, h⟩ := Except.bind_eq_ok_iff.1 h
  obtain ⟨s, hs, h⟩ := Except.bind_eq_ok_iff.1 h
  have hdraft := (Draft.check_eq_ok_iff.1 hs).1
  rw [← Except.ok.inj h]
  refine Schema.nesting_toValue_le (by omega) (fun n hn => ?_) fun n hn => ?_
  · rw [hdraft] at hn
    have hdepth := Page.depth_frame config { inference := inference } root
    have hnesting := Node.nesting_le_depth (Page.frame config { inference := inference } root).1
    rw [← Option.some.inj hn]
    omega
  · rw [hdraft] at hn
    exact absurd hn List.not_mem_nil

end VisualTemplate
