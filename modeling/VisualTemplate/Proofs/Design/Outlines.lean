import VisualTemplate.Proofs.Decimal.Single
import VisualTemplate.Proofs.Design.Visibility
/-!
Outlines of clipped images, and what an import reports.

A clipped image shows through the outline of a shape. The shape's own drawing tells it, placed where
the shape stands in the group; else the drawing of the group does; and where neither has a path, it
is the ellipse that fills the shape's box. Only that is reported about outlines. Of assets it is
reported which the nodes refer to and the export does not have, each beside the node that refers to
it, in the order of the nodes.
-/

namespace VisualTemplate

open Decimal

/-! ### Ellipses as paths -/

/-- Half of a number, as near as single precision comes to it. -/
def half (x : ℚ) : ℚ := rounded (x / 2)

/-- The number is half of another. Only the smallest numbers have no exact half. -/
structure Halves (r x : ℚ) : Prop where
  near : r = half x
  exact : x = 0 ∨ 2 ^ (-125 : ℤ) ≤ x → r = x / 2

lemma half_eq {a : Float32} {x : ℚ} (h : a.Is x) (hx : x = 0 ∨ 2 ^ (-125 : ℤ) ≤ x) :
    half x = x / 2 := by
  rcases hx with rfl | hx
  · rw [half, zero_div, rounded_zero]
  · exact Has.rounded_half h hx

lemma half_le {a : Float32} {x : ℚ} (h : a.Is x) : half x ≤ x := by
  have hx : 0 ≤ x := Has.nonneg h
  calc half x ≤ rounded x := rounded_mono (by positivity) (by linarith)
    _ = x := Has.rounded_eq h

namespace Vector

/-- The path of an ellipse with these half axes that touches both axes of coordinates: it goes from
the middle `m` of the left side `l` of its box to that of the right side `r`, and back. -/
def IsEllipse (path : String) (rx ry : ℚ) : Prop :=
  ∃ l r m a b : Float32,
    path = s!"M{l.plain} {m.plain}A{a.plain} {b.plain} 0 1 0 {r.plain} {m.plain}"
      ++ s!"A{a.plain} {b.plain} 0 1 0 {l.plain} {m.plain}Z" ∧
    l.Is 0 ∧ r.Is (rx + rx) ∧ m.Is ry ∧ a.Is rx ∧ b.Is ry

lemma is_two : (2 : Float32).Is 2 :=
  Float32.is_of_unpack (2 ^ 23) (-22) (by norm_num) rfl (by norm_num)

lemma half_is {a : Float32} {x : ℚ} (h : a.Is x) : (a / 2).Is (half x) :=
  h.div is_two (by norm_num) ((half_le h).trans_lt h.lt_two_pow)

lemma half_add_half_lt {a : Float32} {x : ℚ} (h : a.Is x) : half x + half x < 2 ^ 128 := by
  by_cases hx : 2 ^ (-125 : ℤ) ≤ x
  · rw [half_eq h (.inr hx), add_halves]
    exact h.lt_two_pow
  · have hsmall : x < 1 := (not_le.1 hx).trans (by norm_num)
    have hle := half_le h
    linarith

/-- The path that is made up for a box is the ellipse that fills it. -/
lemma isEllipse_ellipse {width height : Float32} {w h : ℚ} (hw : width.Is w) (hh : height.Is h) :
    IsEllipse (ellipse width height) (half w) (half h) := by
  have hrx := half_is hw
  have hry := half_is hh
  have hleft := hrx.sub hrx le_rfl (by rw [sub_self, rounded_zero]; norm_num)
  rw [sub_self, rounded_zero] at hleft
  have htwice := Has.rounded_add_self hrx
  have hright := hrx.add hrx (htwice.trans_lt (half_add_half_lt hw))
  rw [htwice] at hright
  exact ⟨_, _, _, _, _, rfl, hleft, hright, hry, hrx, hry⟩

example : ellipse 4 2 = "M0 1A2 1 0 1 0 4 1A2 1 0 1 0 0 1Z" := by decide +kernel

end Vector

/-- Two positions are the same, or their numbers are equal; zeros of either sign are. -/
def Position.Same (p q : Position) : Prop := p = q ∨ (p == q) = true

/-- How far a mask is moved. -/
def Mask.shift (m : Mask) : Position := m.offset.getD ⟨0, 0⟩

namespace Design

open Layer

/-! ### Outlines and reports -/

/-- The path of a layer's drawing, if there is one with an outline. -/
def Export.path? (e : Export) (id : String) : Option String :=
  (e.drawings.get? id).bind Vector.path?

/-- Where a layer stands in a group. -/
def Layer.offsetIn (l group : Layer) : Position :=
  ⟨l.own.x - group.own.x, l.own.y - group.own.y⟩

/-- The mask is the outline of a shape in a group, in the coordinates of the group. -/
inductive Outlines (e : Export) (group shape : Layer) (m : Mask) : Prop
  | own (drawn : e.path? shape.id = some m.path) (placed : (shape.offsetIn group).Same m.shift)
  | group (blank : e.path? shape.id = none) (drawn : e.path? group.id = some m.path)
      (placed : m.shift = ⟨0, 0⟩)
  | ellipse (blank : e.path? shape.id = none) (blank_group : e.path? group.id = none)
      (drawn : m.path = Vector.ellipse shape.own.width shape.own.height)
      (fills : ∀ w h, shape.own.width.Is w → shape.own.height.Is h →
        ∃ rx ry, Halves rx w ∧ Halves ry h ∧ Vector.IsEllipse m.path rx ry)
      (placed : (shape.offsetIn group).Same m.shift)

/-- No drawing of the group and of the shape in it has a path. -/
def Undrawn (e : Export) (group : Layer) : Prop :=
  e.path? group.id = none ∧ ∀ c ∈ group.children, c.role = .shape → e.path? c.id = none

instance (e : Export) : DecidablePred (Undrawn e) := fun group =>
  inferInstanceAs (Decidable
    (e.path? group.id = none ∧ ∀ c ∈ group.children, c.role = .shape → e.path? c.id = none))

/-- The report of an asset that an export does not have. -/
def Export.missing (e : Export) (reference nodeId : String) : List Diagnostic :=
  if e.images.contains reference then [] else [.missingAsset reference (some nodeId)]

/-- What is to be reported about a node. -/
def Export.reported (e : Export) (x : Emission) : Node → List Diagnostic
  | .leaf h (.image i) => e.missing i.src h.id
  | .leaf h (.svg s) =>
    (if Undrawn e x.1.1 then [.maskFallback h.id] else []) ++
      s.image.toList.flatMap fun r => e.missing r h.id
  | _ => []

/-- The node has the id of the layer at its place. If the layer is clipped it is clipped to the
outline of the shape in it, and nothing else is clipped. -/
structure Outlined (e : Export) (x : Emission) (n : Node) : Prop where
  id : n.id = x.1.1.id
  clipped : ∀ h s, n = .leaf h (.svg s) → x.2 = .clipped
  outline : x.2 = .clipped → ∃ shape ∈ x.1.1.children, shape.role = .shape ∧
    ∃ s m, n = .leaf n.head (.svg s) ∧ s.mask = some m ∧ Outlines e x.1.1 shape m

variable {tokens : Tokens} {assets : Assets} {e : Export} {root : Layer}

lemma same_of_moved (p : Position) :
    p.Same ((if p.isOrigin then none else some p).getD ⟨0, 0⟩) := by
  by_cases h : p.isOrigin = true
  · rw [if_pos h]
    exact .inr h
  · rw [if_neg h]
    exact .inl rfl

/-- The mask of a group is the outline of its shape. -/
lemma outlines_maskOf (group shape : Layer) :
    Outlines e group shape ((Surroundings.around tokens assets e root).maskOf group shape).1 := by
  have hpath (id : String) : (Surroundings.around tokens assets e root).path? id = e.path? id := rfl
  unfold Surroundings.maskOf
  simp only [hpath]
  split
  · next path hshape => exact .own hshape (same_of_moved _)
  · next path hshape hgroup => exact .group hshape hgroup rfl
  · next hshape hgroup =>
    refine .ellipse hshape hgroup rfl (fun w h hw hh => ?_) (same_of_moved _)
    exact ⟨half w, half h, ⟨rfl, half_eq hw⟩, ⟨rfl, half_eq hh⟩, Vector.isEllipse_ellipse hw hh⟩

/-- It is reported just where no drawing tells the outline. -/
lemma reports_maskOf {group shape image : Layer}
    (h : maskedPair? role group.children = some (shape, image)) :
    ((Surroundings.around tokens assets e root).maskOf group shape).2 =
      if Undrawn e group then [.maskFallback group.id] else [] := by
  have hpath (id : String) : (Surroundings.around tokens assets e root).path? id = e.path? id := rfl
  have hundrawn : Undrawn e group ↔ e.path? shape.id = none ∧ e.path? group.id = none := by
    obtain ⟨hchildren, hshape, himage⟩ := children_of_maskedPair? h
    rcases hchildren with hcs | hcs <;> simp [Undrawn, hcs, hshape, himage, and_comm]
  unfold Surroundings.maskOf
  simp only [hpath, hundrawn]
  split
  · next path hshape => simp [hshape]
  · next path hshape hgroup => simp [hgroup]
  · next hshape hgroup => simp [hshape, hgroup]

lemma diagnostics_clipped (s : Surroundings) (group shape image : Layer) (field : Option String)
    (visible : Bool) : (s.clipped group shape image field visible).diagnostics =
      (s.maskOf group shape).2 ++
        (image.image?.bind (·.imageRef)).toList.flatMap fun r => s.missing r group.id := by
  unfold Surroundings.clipped
  dsimp only
  cases image.image?.bind (·.imageRef) <;> simp

lemma missing_eq (hknown : ∀ r, assets.contains r = e.images.contains r) (reference id : String) :
    (Surroundings.around tokens assets e root).missing reference id = e.missing reference id := by
  unfold Surroundings.missing Export.missing
  rw [← hknown]
  rfl

lemma outlined_place {s : Surroundings} {p : Layer × List Layer} {k : Product} {leaf : Leaf}
    (hk : k ≠ .clipped) (hleaf : ∀ x, leaf ≠ .svg x) (visible : Bool) :
    Outlined e (p, k) (s.place p.1 visible leaf) where
  id := rfl
  clipped _ x hx := absurd (Node.leaf.inj hx).2 (hleaf x)
  outline h := absurd h hk

/-- What is left of a place is outlined and reported as it should be. -/
lemma outlined_of_leaves (hknown : ∀ r, assets.contains r = e.images.contains r)
    {p : Layer × List Layer} {k : Option Product} {f : Flat}
    (h : (Surroundings.around tokens assets e root).Leaves p k f) :
    List.Forall₂ (Outlined e) (k.map (p, ·)).toList f.nodes ∧
      f.diagnostics = (List.zipWith e.reported (k.map (p, ·)).toList f.nodes).flatten := by
  cases h with
  | nothing => exact ⟨.nil, rfl⟩
  | text => exact ⟨.cons (outlined_place (by simp) (by simp) _) .nil, rfl⟩
  | @clipped shape image hpair =>
    obtain ⟨hchildren, hshape, -⟩ := children_of_maskedPair? hpair
    have hmem : shape ∈ p.1.children := by rcases hchildren with hcs | hcs <;> simp [hcs]
    refine ⟨.cons ⟨rfl, fun _ _ _ => rfl, fun _ => ⟨shape, hmem, hshape, _, _, rfl, rfl,
      outlines_maskOf p.1 shape⟩⟩ .nil, ?_⟩
    rw [diagnostics_clipped, reports_maskOf hpair]
    simp only [missing_eq hknown]
    exact (List.append_nil _).symm
  | @image fill hfill =>
    refine ⟨.cons (outlined_place (by simp) (by simp) _) .nil, ?_⟩
    show Surroundings.missing _ _ _ = e.missing _ _ ++ []
    rw [missing_eq hknown, List.append_nil]
  | fill _ => exact ⟨.cons (outlined_place (by simp) (by simp) _) .nil, rfl⟩
  | shape => exact ⟨.cons (outlined_place (by simp) (by simp) _) .nil, rfl⟩

/-- The walk over an export outlines and reports as it should. -/
lemma outlined_flatten (hknown : ∀ r, assets.contains r = e.images.contains r) :
    List.Forall₂ (Outlined e) root.emissions (flatten tokens assets e root).nodes ∧
      (flatten tokens assets e root).diagnostics =
        (List.zipWith e.reported root.emissions (flatten tokens assets e root).nodes).flatten := by
  refine flatten_induction (motive := fun xs f => List.Forall₂ (Outlined e) xs f.nodes ∧
    f.diagnostics = (List.zipWith e.reported xs f.nodes).flatten) ⟨.nil, rfl⟩
    (fun xs ys f g hf hg => ⟨List.rel_append hf.1 hg.1, ?_⟩)
    fun p k f h => outlined_of_leaves hknown h
  rw [Flat.append, List.zipWith_append hf.1.length_eq, List.flatten_append, hf.2, hg.2]

/-- **What clipped images show through, and what is reported.** In an imported design each clipped
group shows through the outline of the shape in it. The reports are those about the nodes, node by
node: that an outline is made up since no drawing tells it, and then that an asset is missing. -/
theorem Export.outlined_and_reported {config : DesignConfig} {id : String} {e : Export} {i : Import}
    (h : e.toImport config id = .ok i) : ∃ root, e.layers = [root] ∧
      List.Forall₂ (Outlined e) root.emissions i.schema.top ∧
      i.diagnostics = (List.zipWith e.reported root.emissions i.schema.top).flatten := by
  obtain ⟨root, hlayers, hassets, hs, hdiagnostics⟩ := toImport_eq_ok_iff.1 h
  have htop : i.schema.top = (flatten config.tokens i.assets e root).nodes := by
    rw [Schema.top, (Draft.check_eq_ok_iff.1 hs).1]
    rfl
  rw [htop, hdiagnostics]
  exact ⟨root, hlayers, outlined_flatten (contains_assets hassets)⟩

/-- The drawing of a triangle. -/
def triangle : String := "<svg><path d=\"M0 0H4V2Z\"/></svg>"

lemma path?_triangle : Vector.path? triangle = some "M0 0H4V2Z" := by
  have hplaces : (Html.Document.ofFragment triangle).places.Pairwise fun p q =>
      p.element.serial ≤ q.element.serial := by decide +kernel
  rw [Vector.path?, Vector.drawing?, Html.Document.inOrder_eq hplaces]
  decide +kernel

/-- A group at a place with an image and a shape in it. -/
def clippedGroup (id shape image : String) (kind : Kind) : Layer :=
  .mk { id, kind := .group, x := 1, y := 1, width := 4, height := 2 }
    [.mk { id := shape, kind, x := 2, y := 3, width := 4, height := 2 } [],
      .mk { id := id ++ "-image", kind := .rectangle, fills := [.image image] } []]

/-- A design with four clipped images. Drawings tell the outlines of the last two, for one by its
shape and for the other by its group. The asset of the second is missing. -/
def gallery : Export where
  name := "Gallery"
  width := 8
  height := 4
  layers := [.mk { id := "root", kind := .frame }
    [clippedGroup "first" "hole" "a" .vector, clippedGroup "second" "dot" "b" .ellipse,
      clippedGroup "third" "star" "a" .vector, clippedGroup "fourth" "blot" "a" .vector]]
  images := .ofList [("a", "data:image/png;base64,AQI=")]
  drawings := .ofList [("star", triangle), ("fourth", triangle)]

/-- The path of the mask of a clipped image, and how far it is moved. -/
def clip? : Node → Option (String × Option (String × String))
  | .leaf _ (.svg s) => s.mask.map fun m => (m.path, m.offset.map fun o => (o.x.plain, o.y.plain))
  | _ => none

theorem Export.outlined_and_reported_gallery : ∃ i root, gallery.toImport {} "gallery" = .ok i ∧
    gallery.layers = [root] ∧ List.Forall₂ (Outlined gallery) root.emissions i.schema.top ∧
    root.emissions.map (fun x => (x.1.1.id, x.2)) = [("first", .clipped), ("second", .clipped),
      ("third", .clipped), ("fourth", .clipped)] ∧
    i.schema.top.map clip? = [some (Vector.ellipse 4 2, some ("1", "2")),
      some (Vector.ellipse 4 2, some ("1", "2")), some ("M0 0H4V2Z", some ("1", "2")),
      some ("M0 0H4V2Z", none)] ∧
    i.diagnostics = [.maskFallback "first", .maskFallback "second",
      .missingAsset "b" (some "second")] := by
  have hpath : (fun id => (gallery.drawings.get? id).bind Vector.path?) = fun id =>
      (gallery.drawings.get? id).bind fun drawing =>
        if drawing = triangle then some "M0 0H4V2Z" else Vector.path? drawing := by
    funext id
    congr 1
    funext drawing
    split
    · next h => rw [h, path?_triangle]
    · rfl
  have hcheck : (gallery.toImport {} "gallery").toOption.any (fun i =>
      i.schema.top.map clip? == [some (Vector.ellipse 4 2, some ("1", "2")),
        some (Vector.ellipse 4 2, some ("1", "2")), some ("M0 0H4V2Z", some ("1", "2")),
        some ("M0 0H4V2Z", none)] &&
      i.diagnostics == [.maskFallback "first", .maskFallback "second",
        .missingAsset "b" (some "second")]) = true := by
    simp only [Export.toImport, flatten, hpath]
    decide +kernel
  obtain ⟨i, hi, hfound⟩ := exists_ok_of_any hcheck
  obtain ⟨hclips, hreports⟩ := Bool.and_eq_true_iff.1 hfound
  obtain ⟨root, hlayers, houtlined, -⟩ := Export.outlined_and_reported hi
  refine ⟨i, root, hi, hlayers, houtlined, ?_, beq_iff_eq.1 hclips, beq_iff_eq.1 hreports⟩
  obtain rfl := (List.cons.inj hlayers).1
  decide +kernel

end Design

end VisualTemplate
