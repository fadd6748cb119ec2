import VisualTemplate.Document
import VisualTemplate.Proofs.Markup.Sketch
/-!
What the markup of nodes shows.

The sketch of a node is said here from the node and the values that were found for the bound nodes.
Whatever the markup is written with besides, a node that is written has its sketch.
-/

namespace VisualTemplate.Document

/-! ### Nodes one after another -/

section

variable {c : Context} {P : List Node → Emitted → Prop}

/-- A property of rendered nodes and of what is written for them that goes from parts to the
whole. -/
structure Compositional (c : Context) (P : List Node → Emitted → Prop) : Prop where
  none : P [] .none
  append {ns ns' : List Node} {e e' : Emitted} : P ns e → P ns' e' → P (ns ++ ns') (e.append e')
  container {h : Head} {l : Layout} {cs : List Node} {style : Style} {inner : Emitted} :
    layoutStyle c.palette h l = .ok style → P (Node.renderedIn cs) inner →
      P (.container h l cs :: Node.renderedIn cs)
        ⟨[.element "div" (("data-node-id", h.id) :: styled style) inner.markup], inner.diagnostics⟩
  leaf {h : Head} {l : Leaf} {e : Emitted} : leafNode c h l = .ok e → P [.leaf h l] e

mutual

lemma Compositional.emit (hP : Compositional c P) (n : Node) {e : Emitted}
    (he : Document.emit c n = .ok e) : P n.rendered e := by
  match n with
  | .container h l cs =>
    rw [Document.emit] at he
    rw [Node.rendered]
    split at he
    · next hv =>
      obtain ⟨style, hstyle, he⟩ := Except.bind_eq_ok_iff.1 he
      obtain ⟨inner, hinner, he⟩ := Except.bind_eq_ok_iff.1 he
      rw [← Except.ok.inj he, if_pos hv]
      exact hP.container hstyle (hP.emitAll cs hinner)
    · next hv =>
      rw [← Except.ok.inj he, if_neg hv]
      exact hP.none
  | .leaf h l =>
    rw [Document.emit] at he
    rw [Node.rendered]
    split at he
    · next hv =>
      rw [if_pos hv]
      exact hP.leaf he
    · next hv =>
      rw [← Except.ok.inj he, if_neg hv]
      exact hP.none

/-- It holds of the rendered ones among nodes that are written, whatever they are. -/
lemma Compositional.emitAll (hP : Compositional c P) (ns : List Node) {e : Emitted}
    (he : Document.emitAll c ns = .ok e) : P (Node.renderedIn ns) e := by
  match ns with
  | [] =>
    rw [Document.emitAll] at he
    rw [← Except.ok.inj he]
    exact hP.none
  | n :: ns =>
    rw [Document.emitAll] at he
    obtain ⟨first, hfirst, he⟩ := Except.bind_eq_ok_iff.1 he
    obtain ⟨rest, hrest, he⟩ := Except.bind_eq_ok_iff.1 he
    rw [← Except.ok.inj he, Node.renderedIn]
    exact hP.append (hP.emit n hfirst) (hP.emitAll ns hrest)

end

end

/-! ### What nodes look like -/

/-- The content of a text: its own, or with its value in it. -/
def finalContent (values : Table Resolved) (h : Head) (t : TextLeaf) : String :=
  match t.binding, values.get? h.id with
  | some b, some v =>
    if b.kind = .text then applyText t.content b.placeholder v.value else t.content
  | _, _ => t.content

/-- A clipped image has an image of its own or a value for one. -/
def hasImage (values : Table Resolved) (h : Head) (s : SvgLeaf) : Bool :=
  s.image.isSome || (s.binding.any (·.kind == .image) && (values.get? h.id).isSome)

def outlineTag : Outline → String
  | .rectangle _ => "rect"
  | .ellipse => "ellipse"
  | .vector _ _ => "path"

def maskSketch : Sketch :=
  .element "defs" none "" [.element "mask" none "" [.element "path" none "" []]]

def leafSketch (values : Table Resolved) (h : Head) : Leaf → Sketch
  | .text t => .element "div" (some h.id) (joinedLines (finalContent values h t)) []
  | .image _ => .element "img" (some h.id) "" []
  | .svg s => .element "svg" (some h.id) ""
      ((if s.mask.isSome then [maskSketch] else []) ++
        if hasImage values h s then [.element "image" none "" []] else [])
  | .shape s => .element "svg" (some h.id) "" [.element (outlineTag s.shape) none "" []]

mutual

def nodeSketch (values : Table Resolved) : Node → List Sketch
  | .container h _ cs =>
    if h.visible then [.element "div" (some h.id) "" (nodeSketches values cs)] else []
  | .leaf h l => if h.visible then [leafSketch values h l] else []

/-- The sketches of the visible ones among nodes. -/
def nodeSketches (values : Table Resolved) : List Node → List Sketch
  | [] => []
  | n :: ns => nodeSketch values n ++ nodeSketches values ns

end

/-! ### Leaves -/

section

variable {c : Context} {h : Head}

lemma filledText_content (c : Context) (h : Head) (t : TextLeaf) (color : String) :
    (filledText c h t color).1 = finalContent c.values h t := by
  unfold filledText finalContent
  cases t.binding with
  | none => rfl
  | some b =>
    cases hv : c.values.get? h.id with
    | none =>
      have hvalue : valueOf c h (some b) = none := by simp [valueOf, hv]
      simp only [hvalue]
    | some v =>
      have hvalue : valueOf c h (some b) = some (b, v) := by simp [valueOf, hv]
      simp only [hvalue]
      cases b.kind with
      | text => rfl
      | color =>
        simp only
        split <;> rfl
      | image => rfl

lemma draws_textNode {t : TextLeaf} {e : Emitted} (he : textNode c h t = .ok e) :
    Draws e.markup [leafSketch c.values h (.text t)] := by
  unfold textNode at he
  obtain ⟨color, -, he⟩ := Except.bind_eq_ok_iff.1 he
  rw [← Except.ok.inj he, leafSketch, ← filledText_content c h t color]
  exact draws_text (Anonymous.identifies_cons (by simp) h.id) _

lemma draws_imageNode (i : ImageLeaf) :
    Draws (imageNode c h i).markup [leafSketch c.values h (.image i)] := by
  unfold imageNode
  exact draws_img (Anonymous.identifies_cons (by simp [plainNames]) h.id)

lemma draws_maskMarkup (h : Head) (m : Mask) : Draws [maskMarkup h m] [maskSketch] := by
  have hmask (moved : List (String × String)) (hmoved : Anonymous moved) :
      Draws [.element "defs" [] [.element "mask" [("id", maskId h m)]
        [.closed "path" ([("d", m.path), ("fill", "#ffffff")] ++ moved)]]] [maskSketch] := by
    have hpath : Anonymous ([("d", m.path), ("fill", "#ffffff")] ++ moved) := by
      simp [plainNames, hmoved]
    have hid : Anonymous [("id", maskId h m)] := by simp [plainNames]
    exact ((draws_closed (by decide) hpath.identifies).element (by decide) (by decide)
      hid.identifies).element (by decide) (by decide) anonymous_nil.identifies
  unfold maskMarkup
  apply hmask
  cases m.offset with
  | none => simp
  | some o =>
    simp only
    split <;> simp [plainNames]

lemma draws_clippedImage (s : SvgLeaf) (h : Head) (href : String) :
    Draws [clippedImage s h href] [.element "image" none "" []] := by
  unfold clippedImage
  refine draws_closed (by decide) (Anonymous.identifies ?_)
  cases s.mask <;> simp [plainNames]

/-- There is an image just where a reference for one is found. -/
lemma svgReference?_isSome (c : Context) (h : Head) (s : SvgLeaf) :
    (svgReference? c h s).isSome = hasImage c.values h s := by
  unfold svgReference? hasImage valueOf
  cases s.image with
  | some src => rfl
  | none =>
    cases s.binding with
    | none => rfl
    | some b =>
      cases c.values.get? h.id with
      | none => simp
      | some v => cases hk : b.kind <;> simp [hk]

/-- What is drawn inside an `svg` element is sketched inside it. -/
lemma draws_svg {width height : Float32} {viewBox : String} {ms : List Markup}
    {ss : List Sketch} (hms : Draws ms ss) :
    Draws [.element "svg" (svgAttributes h width height viewBox) ms]
      [.element "svg" (some h.id) "" ss] :=
  hms.element (by decide) (by decide)
    (Anonymous.identifies_cons (by simp [plainNames]) h.id)

lemma draws_svgNode (s : SvgLeaf) :
    Draws (svgNode c h s).markup [leafSketch c.values h (.svg s)] := by
  have hmask : Draws (s.mask.map (maskMarkup h)).toList
      (if s.mask.isSome then [maskSketch] else []) := by
    cases s.mask with
    | none => exact draws_nil
    | some m => exact draws_maskMarkup h m
  unfold svgNode
  rw [leafSketch, ← svgReference?_isSome]
  cases hr : svgReference? c h s with
  | none => exact draws_svg (hmask.append draws_nil)
  | some reference => exact draws_svg (hmask.append (draws_clippedImage s h _))

lemma draws_outlineMarkup (s : ShapeLeaf) {paint : List (String × String)}
    (hpaint : Anonymous paint) :
    Draws [.closed (outlineMarkup s).1 ((outlineMarkup s).2 ++ paint)]
      [.element (outlineTag s.shape) none "" []] := by
  unfold outlineMarkup outlineTag
  cases s.shape with
  | rectangle radius =>
    dsimp only
    refine draws_closed (by decide) (Anonymous.identifies ?_)
    split <;> simp [plainNames, hpaint]
  | ellipse =>
    dsimp only
    exact draws_closed (by decide) (Anonymous.identifies (by simp [plainNames, hpaint]))
  | vector path viewBox =>
    dsimp only
    exact draws_closed (by decide) (Anonymous.identifies (by simp [plainNames, hpaint]))

/-- The names of attributes that a stroke is written with. -/
def strokeNames : List String := ["stroke", "stroke-width"]

/-- A shape is written as its outline with its paint, and nothing is reported of it. -/
lemma exists_painted {s : ShapeLeaf} {e : Emitted} (he : shapeNode c h s = .ok e) :
    ∃ fill stroke, (∀ a ∈ stroke, a.1 ∈ strokeNames) ∧
      e = ⟨[.element "svg" (svgAttributes h s.width s.height (shapeViewBox s))
        [.closed (outlineMarkup s).1 ((outlineMarkup s).2 ++ [("fill", fill)] ++ stroke)]],
        []⟩ := by
  unfold shapeNode at he
  dsimp only at he
  split at he
  all_goals
    obtain ⟨fill, -, he⟩ := Except.bind_eq_ok_iff.1 he
    split at he
    · obtain ⟨color, -, he⟩ := Except.bind_eq_ok_iff.1 he
      exact ⟨fill, _, by simp [strokeNames], (Except.ok.inj he).symm⟩
    · exact ⟨fill, [], by simp, (Except.ok.inj he).symm⟩

lemma draws_shapeNode {s : ShapeLeaf} {e : Emitted} (he : shapeNode c h s = .ok e) :
    Draws e.markup [leafSketch c.values h (.shape s)] := by
  obtain ⟨fill, stroke, hstroke, rfl⟩ := exists_painted he
  have hnames : ∀ name ∈ strokeNames, name ∈ plainNames ∧ name ≠ "data-node-id" := by decide
  have hpaint : Anonymous ([("fill", fill)] ++ stroke) := by
    have hanonymous : Anonymous stroke := fun a ha => hnames _ (hstroke a ha)
    simp [plainNames, hanonymous]
  rw [leafSketch, List.append_assoc]
  exact draws_svg (draws_outlineMarkup s hpaint)

lemma draws_leafNode {l : Leaf} {e : Emitted} (he : leafNode c h l = .ok e) :
    Draws e.markup [leafSketch c.values h l] := by
  cases l with
  | text t => exact draws_textNode he
  | image i =>
    rw [← Except.ok.inj he]
    exact draws_imageNode i
  | svg s =>
    rw [← Except.ok.inj he]
    exact draws_svgNode s
  | shape s => exact draws_shapeNode he

end

/-! ### Nodes -/

mutual

/-- A node's markup has the node's sketch. -/
theorem draws_emit (c : Context) (n : Node) {e : Emitted} (he : emit c n = .ok e) :
    Draws e.markup (nodeSketch c.values n) := by
  match n with
  | .container h l cs =>
    rw [emit] at he
    rw [nodeSketch]
    split at he
    · next hv =>
      rw [if_pos hv]
      obtain ⟨style, -, he⟩ := Except.bind_eq_ok_iff.1 he
      obtain ⟨inner, hinner, he⟩ := Except.bind_eq_ok_iff.1 he
      rw [← Except.ok.inj he]
      exact (draws_emitAll c cs hinner).element (by decide) (by decide)
        (Anonymous.identifies_cons (by simp) h.id)
    · next hv =>
      rw [if_neg hv, ← Except.ok.inj he]
      exact draws_nil
  | .leaf h l =>
    rw [emit] at he
    rw [nodeSketch]
    split at he
    · next hv =>
      rw [if_pos hv]
      exact draws_leafNode he
    · next hv =>
      rw [if_neg hv, ← Except.ok.inj he]
      exact draws_nil

theorem draws_emitAll (c : Context) (ns : List Node) {e : Emitted} (he : emitAll c ns = .ok e) :
    Draws e.markup (nodeSketches c.values ns) := by
  match ns with
  | [] =>
    rw [emitAll] at he
    rw [← Except.ok.inj he]
    exact draws_nil
  | n :: ns =>
    rw [emitAll] at he
    obtain ⟨first, hfirst, he⟩ := Except.bind_eq_ok_iff.1 he
    obtain ⟨rest, hrest, he⟩ := Except.bind_eq_ok_iff.1 he
    rw [← Except.ok.inj he]
    exact (draws_emit c n hfirst).append (draws_emitAll c ns hrest)

end

end VisualTemplate.Document
