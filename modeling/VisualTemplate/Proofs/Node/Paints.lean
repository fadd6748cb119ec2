import VisualTemplate.Proofs.Node.Rendered
import VisualTemplate.Style.Paint
import VisualTemplate.Variant
/-!
The colours that nodes are painted with.

A colour that is read from a style sheet refers to declared tokens only. Variants change no colour.
-/

namespace VisualTemplate

/-- The colour of a container: its background. -/
def Layout.paints : Layout → List Paint
  | .frame f => f.background.toList
  | .flex f => f.background.toList
  | .box b => b.background.toList

/-- The colours of a leaf: that of a text, or the fill and the stroke of a shape. -/
def Leaf.paints : Leaf → List Paint
  | .text t => [t.color]
  | .image _ => []
  | .svg _ => []
  | .shape s => s.fill.toList ++ (s.stroke.map (·.color)).toList

def Node.paints : Node → List Paint
  | .container _ l _ => l.paints
  | .leaf _ l => l.paints

lemma Variant.paints_applyTo (os : List Override) (n : Node) :
    (applyTo os n).paints = n.paints := by
  cases n <;> rfl

/-! ### Declared colours -/

/-- A paint is a literal, or it refers to a declared token. -/
inductive Paint.Declared (ts : Tokens) : Paint → Prop
  | literal (text : String) : Declared ts (.literal text)
  | token {name : String} {t : Token} : ts.get? name = some t → Declared ts (.token name)

/-- The colours of a node and of all below it are declared. -/
structure Node.Declared (ts : Tokens) (n : Node) : Prop where
  paints : ∀ m ∈ n.preorder, ∀ p ∈ m.paints, p.Declared ts

section

variable {ts : Tokens}

lemma Paint.tokenWith?_declared {normal name : String} (h : tokenWith? ts normal = some name) :
    (token name).Declared ts := by
  obtain ⟨⟨name', t⟩, hfind, rfl⟩ := Option.map_eq_some_iff.1 h
  exact .token (Table.mem_entries_iff.1 (List.mem_of_find?_eq_some hfind))

lemma Paint.declared_ofTextWithin (n : ℕ) (text : String) :
    (ofTextWithin ts n text).Declared ts := by
  induction n generalizing text with
  | zero => exact .literal _
  | succ n ih =>
    rw [ofTextWithin]
    dsimp only
    split
    · split
      · next hc =>
        obtain ⟨t, ht⟩ := Table.contains_iff.1 hc
        exact .token ht
      · split
        · exact ih _
        · exact .literal _
    · split
      · next name hname =>
        obtain ⟨normal, -, hname⟩ := Option.bind_eq_some_iff.1 hname
        exact tokenWith?_declared hname
      · exact .literal _

/-- A colour that is read refers to declared tokens only. -/
lemma Paint.declared_ofText (text : String) : (ofText ts text).Declared ts :=
  declared_ofTextWithin _ text

namespace Node

lemma declared_leaf {h : Head} {l : Leaf} :
    (Node.leaf h l).Declared ts ↔ ∀ p ∈ l.paints, p.Declared ts :=
  ⟨fun hn => hn.paints _ List.mem_cons_self, fun hl => ⟨List.forall_mem_singleton.2 hl⟩⟩

lemma declared_container {h : Head} {l : Layout} {cs : List Node} :
    (Node.container h l cs).Declared ts ↔
      (∀ p ∈ l.paints, p.Declared ts) ∧ ∀ n ∈ cs, n.Declared ts := by
  have hpreorder : (Node.container h l cs).preorder = .container h l cs :: cs.flatMap preorder := by
    rw [preorder, preorders_eq_flatMap]
  constructor
  · rintro ⟨hn⟩
    rw [hpreorder, List.forall_mem_cons] at hn
    exact ⟨hn.1, fun n hcs => ⟨fun m hm => hn.2 m (List.mem_flatMap_of_mem hcs hm)⟩⟩
  · rintro ⟨hl, hcs⟩
    refine ⟨?_⟩
    rw [hpreorder, List.forall_mem_cons]
    refine ⟨hl, fun m hm => ?_⟩
    obtain ⟨n, hn, hm⟩ := List.mem_flatMap.1 hm
    exact (hcs n hn).paints m hm

lemma declared_hide {n : Node} (h : n.Declared ts) : n.hide.Declared ts := by
  cases n with
  | container h' l cs => exact declared_container.2 (declared_container.1 h)
  | leaf h' l => exact declared_leaf.2 (declared_leaf.1 h)

end Node

end

end VisualTemplate
