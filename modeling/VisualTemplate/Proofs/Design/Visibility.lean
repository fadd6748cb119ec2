import VisualTemplate.Proofs.Design.Projection
import VisualTemplate.Proofs.Node.Rendered
import VisualTemplate.Proofs.Schema.Reload
/-!
Hidden layers of a design.

A node is visible if its layer is together with all layers above it, and it takes nothing from
paints that are hidden. But a clipped group also takes an image and an outline from its two
children, and it does not ask whether they are visible. So a flat schema shows nothing of hidden
layers just when the children of each clipped group are visible that is shown itself.
-/

namespace VisualTemplate.Design

namespace Layer

/-! ### Where nodes come from -/

/-- The places whose paints, text or outline go into a node: that of the layer, and those of its
children if the layer is clipped. -/
def carried (x : Emission) : List (Layer × List Layer) :=
  x.1 :: if x.2 = .clipped then x.1.1.children.map (·, x.1.1 :: x.1.2) else []

lemma shown_child {p : Layer × List Layer} (c : Layer) :
    shown (c, p.1 :: p.2) = (shown p && c.own.visible) := by
  rw [shown, List.all_cons, shown, Bool.and_comm p.1.own.visible]

end Layer

open Layer

/-! ### What goes into a node -/

/-- The paint, if there is one, is that of a visible plain fill. -/
def Surroundings.Tints (s : Surroundings) (fs : List Fill) (paint : Option Paint) : Prop :=
  ∀ x ∈ paint, ∃ f ∈ fs, f.visible = true ∧ f.kind = .solid ∧ ∃ c, f.color? = some c ∧ x = s.paint c

/-- What a leaf takes from a layer, and from the layer's children if it is clipped. -/
inductive Surroundings.Carries (s : Surroundings) (l : Layer) : Product → Leaf → Prop
  | text {t : TextLeaf} {paint : Option Paint} (content : t.content = l.own.characters.getD "")
      (color : t.color = paint.getD .black) (tints : s.Tints l.own.fills paint) :
      Carries s l .text (.text t)
  | image {i : ImageLeaf} {f : Fill} (mem : f ∈ l.own.fills)
      (visible : f.visible = true ∧ f.kind = .image) (reference : f.imageRef = some i.src) :
      Carries s l .image (.image i)
  | fill {x : ShapeLeaf} (outline : x.shape = .rectangle (l.own.cornerRadius.getD 0))
      (tints : s.Tints l.own.fills x.fill) (stroke : x.stroke = none) : Carries s l .fill (.shape x)
  | shape {x : ShapeLeaf} (outline : x.shape = s.outlineOf l) (tints : s.Tints l.own.fills x.fill)
      (stroke : s.Tints l.own.strokes (x.stroke.map (·.color))) : Carries s l .shape (.shape x)
  | clipped {x : SvgLeaf} {shape image : Layer} {f : Fill}
      (children : l.children = [shape, image] ∨ l.children = [image, shape])
      (mem : f ∈ image.own.fills) (visible : f.visible = true ∧ f.kind = .image)
      (reference : f.imageRef = x.image) (mask : x.mask = some (s.maskOf l shape).1) :
      Carries s l .clipped (.svg x)

/-- The node stands for the place: it is visible if the place is shown, and takes what the layer
there becomes. -/
def Surroundings.Drawn (s : Surroundings) (x : Emission) (n : Node) : Prop :=
  ∃ leaf, n = s.place x.1.1 (shown x.1) leaf ∧ s.Carries x.1.1 x.2 leaf

lemma Layer.mem_of_image? {l : Layer} {f : Fill} (h : l.image? = some f) :
    f ∈ l.own.fills ∧ (f.visible = true ∧ f.kind = .image) ∧
      f.imageRef = some (f.imageRef.getD "") := by
  refine ⟨List.mem_of_find?_eq_some h, ?_⟩
  have himage := List.find?_some h
  simp only [Fill.isImage, Bool.and_eq_true, beq_iff_eq] at himage
  obtain ⟨ref, href⟩ := Option.isSome_iff_exists.1 himage.2
  exact ⟨himage.1, by rw [href]; rfl⟩

namespace Surroundings

variable {s : Surroundings}

lemma tints_firstColor? (fs : List Fill) : s.Tints fs ((Fill.firstColor? fs).map s.paint) := by
  intro x hx
  obtain ⟨c, hc, rfl⟩ := Option.map_eq_some_iff.1 hx
  obtain ⟨f, hf, hfc⟩ := List.exists_of_findSome?_eq_some hc
  simp only [List.mem_filter, Bool.and_eq_true, beq_iff_eq] at hf
  exact ⟨f, hf.1, hf.2.1, hf.2.2, c, hfc, rfl⟩

lemma carries_image {l : Layer} {f : Fill} (h : l.image? = some f) (field : Option String)
    (visible : Bool) : ∃ leaf, (s.image l f field visible).nodes = [s.place l visible leaf] ∧
      s.Carries l .image leaf := by
  obtain ⟨hmem, hvisible, href⟩ := mem_of_image? h
  exact ⟨_, rfl, .image hmem hvisible href⟩

variable (s) in
lemma carries_shape (l : Layer) (visible : Bool) :
    ∃ leaf, s.shape l visible = s.place l visible leaf ∧ s.Carries l .shape leaf := by
  refine ⟨_, rfl, .shape rfl (tints_firstColor? _) ?_⟩
  have hstroke := tints_firstColor? (s := s) l.own.strokes
  simpa only [Option.map_map, Function.comp_def] using hstroke

lemma carries_clipped {l shape image : Layer} (field : Option String) (visible : Bool)
    (h : maskedPair? role l.children = some (shape, image)) :
    ∃ leaf, (s.clipped l shape image field visible).nodes = [s.place l visible leaf] ∧
      s.Carries l .clipped leaf := by
  obtain ⟨hchildren, -, hrole⟩ := children_of_maskedPair? h
  obtain ⟨f, hf⟩ := Option.isSome_iff_exists.1
    ((image?_isSome image).2 (role_eq_image.1 hrole).2)
  obtain ⟨hmem, hvisible, -⟩ := mem_of_image? hf
  exact ⟨_, rfl, .clipped hchildren hmem hvisible (by rw [hf]; rfl) rfl⟩

/-- What is left of a place is drawn from it. -/
lemma drawn_of_leaves {p : Layer × List Layer} {k : Option Product} {f : Flat}
    (h : s.Leaves p k f) : List.Forall₂ s.Drawn (k.map (p, ·)).toList f.nodes := by
  have htints := tints_firstColor? (s := s) p.1.own.fills
  cases h with
  | nothing => exact .nil
  | text => exact .cons ⟨_, rfl, .text rfl rfl htints⟩ .nil
  | clipped hpair =>
    obtain ⟨leaf, hnodes, hleaf⟩ := carries_clipped (s := s) _ (shown p) hpair
    rw [hnodes]
    exact .cons ⟨leaf, rfl, hleaf⟩ .nil
  | image hfill =>
    obtain ⟨leaf, hnodes, hleaf⟩ := carries_image (s := s) hfill p.1.field? (shown p)
    rw [hnodes]
    exact .cons ⟨leaf, rfl, hleaf⟩ .nil
  | fill hcolor =>
    rw [← color?, hcolor] at htints
    exact .cons ⟨_, rfl, .fill rfl htints rfl⟩ .nil
  | shape =>
    obtain ⟨leaf, hnode, hleaf⟩ := carries_shape s p.1 (shown p)
    rw [hnode]
    exact .cons ⟨leaf, rfl, hleaf⟩ .nil

end Surroundings

/-! ### Imports -/

/-- A visible node carries shown places only. -/
def Discreet (x : Emission) (n : Node) : Prop :=
  n.visible = true → ∀ q ∈ carried x, shown q = true

/-- The walk over an export draws one node from each place that leaves one. -/
lemma drawn_flatten (tokens : Tokens) (assets : Assets) (e : Export) (root : Layer) :
    List.Forall₂ (Surroundings.around tokens assets e root).Drawn root.emissions
      (flatten tokens assets e root).nodes :=
  flatten_induction (motive := fun xs f =>
      List.Forall₂ (Surroundings.around tokens assets e root).Drawn xs f.nodes)
    .nil (fun _ _ _ _ hf hg => List.rel_append hf hg) fun _ _ _ h => Surroundings.drawn_of_leaves h

lemma discreet_iff {s : Surroundings} {xs : List Emission} {ns : List Node}
    (h : List.Forall₂ s.Drawn xs ns) : List.Forall₂ Discreet xs ns ↔
      ∀ x ∈ xs, shown x.1 = true → ∀ q ∈ carried x, shown q = true := by
  induction h with
  | nil => simp
  | cons hx _ ih =>
    obtain ⟨leaf, rfl, -⟩ := hx
    rw [List.forall₂_cons, ih, List.forall_mem_cons]
    rfl

/-- The nodes are leaves, so those that are rendered are those that are visible. -/
lemma renderedIn_drawn {s : Surroundings} {xs : List Emission} {ns : List Node}
    (h : List.Forall₂ s.Drawn xs ns) : Node.renderedIn ns = ns.filter (·.visible) := by
  induction h with
  | nil => rfl
  | @cons x n _ ns hx _ ih =>
    obtain ⟨leaf, rfl, -⟩ := hx
    rw [Node.renderedIn, ih, List.filter_cons]
    cases shown x.1 <;> simp [Surroundings.place, Node.rendered, Node.visible, Node.head]

/-- A place leaves a clipped image just if it is a pair that is reached and not the root. -/
lemma mem_emissions_clipped {root : Layer} {p : Layer × List Layer} :
    (p, Product.clipped) ∈ root.emissions ↔ p ∈ root.places [] ∧ Reached p ∧ p.2 ≠ [] ∧
      p.1.kind.isContainer = true ∧ p.1.IsMasked := by
  rw [mem_emissions]
  constructor
  · rintro ⟨hp, hreached, hproduct⟩
    obtain ⟨hroot, hcontainer, hmasked⟩ := product?_eq_clipped hproduct
    exact ⟨hp, hreached, List.isEmpty_eq_false_iff.1 hroot, hcontainer, hmasked⟩
  · rintro ⟨hp, hreached, hroot, hcontainer, hmasked⟩
    refine ⟨hp, hreached, ?_⟩
    rw [List.isEmpty_eq_false_iff.2 hroot]
    exact product?_of_isMasked hcontainer hmasked

/-- What nodes carry is shown wherever the children of the shown pairs are visible. -/
lemma carried_shown_iff (root : Layer) :
    (∀ x ∈ root.emissions, shown x.1 = true → ∀ q ∈ carried x, shown q = true) ↔
      ∀ p ∈ root.places [], Reached p → p.2 ≠ [] → p.1.kind.isContainer = true → p.1.IsMasked →
        shown p = true → ∀ c ∈ p.1.children, c.own.visible = true := by
  constructor
  · intro h p hp hreached hroot hcontainer hmasked hshown c hc
    have hmem := mem_emissions_clipped.2 ⟨hp, hreached, hroot, hcontainer, hmasked⟩
    have hchild : (c, p.1 :: p.2) ∈ carried (p, .clipped) :=
      List.mem_cons_of_mem _ (List.mem_map_of_mem hc)
    have hboth := h _ hmem hshown _ hchild
    rw [shown_child, Bool.and_eq_true] at hboth
    exact hboth.2
  · rintro h ⟨p, k⟩ hx hshown q hq
    rcases List.mem_cons.1 hq with rfl | hq
    · exact hshown
    · split at hq
      · next hk =>
        obtain rfl : k = .clipped := hk
        obtain ⟨c, hc, rfl⟩ := List.mem_map.1 hq
        obtain ⟨hp, hreached, hroot, hcontainer, hmasked⟩ := mem_emissions_clipped.1 hx
        rw [shown_child, hshown, h p hp hreached hroot hcontainer hmasked hshown c hc]
        rfl
      · exact absurd hq List.not_mem_nil

/-- **When hidden layers stay hidden.** The nodes of an imported design are drawn from the places
that leave a node, in order: each takes what its layer shows with its visible paints, and is visible
if the layer is together with all above it. Without a variant the visible nodes are rendered. None
of them carries anything of a hidden layer just when each clipped group that is shown has two
visible children. -/
theorem Export.discreet_iff_children_visible {config : DesignConfig} {id : String} {e : Export}
    {i : Import} (h : e.toImport config id = .ok i) :
    ∃ root nodes, e.layers = [root] ∧ i.schema.nodesFor none = .ok nodes ∧
      List.Forall₂ (Surroundings.around config.tokens i.assets e root).Drawn root.emissions nodes ∧
      Node.renderedIn nodes = nodes.filter (·.visible) ∧
      (List.Forall₂ Discreet root.emissions nodes ↔
        ∀ p ∈ root.places [], Reached p → p.2 ≠ [] → p.1.kind.isContainer = true → p.1.IsMasked →
          shown p = true → ∀ c ∈ p.1.children, c.own.visible = true) := by
  obtain ⟨root, hlayers, htop⟩ := exists_top h
  have hdrawn := drawn_flatten config.tokens i.assets e root
  rw [← htop] at hdrawn
  exact ⟨root, i.schema.top, hlayers, rfl, hdrawn, renderedIn_drawn hdrawn,
    (discreet_iff hdrawn).trans (carried_shown_iff root)⟩

theorem Export.discreet_iff_poster : ∃ i root nodes,
    poster.toImport {} "poster" = .ok i ∧ poster.layers = [root] ∧
      i.schema.nodesFor none = .ok nodes ∧
      (Node.renderedIn nodes).map (·.id) = ["root", "title"] ∧
      List.Forall₂ Discreet root.emissions nodes := by
  have hcheck : (poster.toImport {} "poster").toOption.any
      (fun i => (i.schema.top.filter (·.visible)).map (·.id) == ["root", "title"]) = true := by
    decide +kernel
  obtain ⟨i, hi, hids⟩ := exists_ok_of_any hcheck
  obtain ⟨root, nodes, hlayers, hnodes, -, hrendered, hdiscreet⟩ :=
    Export.discreet_iff_children_visible hi
  obtain rfl : i.schema.top = nodes := Except.ok.inj hnodes
  refine ⟨i, root, i.schema.top, hi, hlayers, hnodes, ?_, hdiscreet.2 ?_⟩
  · rw [hrendered]
    exact beq_iff_eq.1 hids
  · -- the only pair is hidden itself
    obtain rfl := (List.cons.inj hlayers).1
    decide +kernel

/-- A design with a clipped photo that is hidden. -/
def portrait : Export where
  name := "Poster"
  width := 4
  height := 3
  layers := [.mk { id := "root", kind := .frame }
    [.mk { id := "team", kind := .group, width := 4, height := 3 }
      [.mk { id := "face", kind := .rectangle, visible := false, width := 4, height := 3
             fills := [{ kind := .image, imageRef := some "face" }] } [],
        .mk { id := "hole", kind := .ellipse, width := 4, height := 3 } []]]]
  images := .ofList [("face", "data:image/png;base64,AQI=")]

/-- A hidden photo is shown by the node of its group. -/
theorem Export.hidden_photo_drawn : ∃ i root nodes,
    portrait.toImport {} "poster" = .ok i ∧ portrait.layers = [root] ∧
      i.schema.nodesFor none = .ok nodes ∧
      (Node.renderedIn nodes).filterMap (fun n => match n with
        | .leaf h (.svg s) => some (h.id, s.image)
        | _ => none) = [("team", some "face")] ∧
      ((root.places []).filter fun p => !shown p).map (·.1.id) = ["face"] ∧
      ¬ List.Forall₂ Discreet root.emissions nodes := by
  have hcheck : (portrait.toImport {} "poster").toOption.any (fun i =>
      (Node.renderedIn i.schema.top).filterMap (fun n => match n with
        | .leaf h (.svg s) => some (h.id, s.image)
        | _ => none) == [("team", some "face")]) = true := by
    decide +kernel
  obtain ⟨i, hi, himages⟩ := exists_ok_of_any hcheck
  obtain ⟨root, hlayers, htop⟩ := exists_top hi
  refine ⟨i, root, i.schema.top, hi, hlayers, rfl, beq_iff_eq.1 himages, ?_, ?_⟩
  · obtain rfl := (List.cons.inj hlayers).1
    decide +kernel
  · have hdrawn := drawn_flatten .empty i.assets portrait root
    rw [htop, discreet_iff hdrawn, carried_shown_iff]
    obtain rfl := (List.cons.inj hlayers).1
    decide +kernel

end VisualTemplate.Design
