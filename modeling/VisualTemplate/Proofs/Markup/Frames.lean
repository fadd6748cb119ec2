import VisualTemplate.Proofs.Decimal.Reread
import VisualTemplate.Proofs.Markup.Collect
import VisualTemplate.Proofs.Markup.Values
import VisualTemplate.Proofs.ViewBox
/-!
The frames of clipped images.

A clipped image is drawn in the coordinates of its view box, and so is its mask. It is as large as
the view box, if that has a size, but it always stands at the origin. So it covers the view box just
when the view box begins there.
-/

namespace VisualTemplate.Document

/-! ### Frames -/

/-- An attribute is written as the number, or as one that is equal to it. -/
def Spells (written : Option String) (x : Float32) : Prop :=
  ∃ y : Float32, written = some y.plain ∧ (y = x ∨ y == x)

/-- An image with the node and the view box of the `svg` element around it, and its own corner and
size, as they are written. -/
structure Framed where
  node : Option String
  viewBox : Option String
  x : Option String
  y : Option String
  width : Option String
  height : Option String
  deriving DecidableEq

/-- The image has this corner and this size. -/
structure Framed.Covers (f : Framed) (x y width height : Float32) : Prop where
  x : Spells f.x x
  y : Spells f.y y
  width : Spells f.width width
  height : Spells f.height height

/-- An image by its attributes and those of the `svg` element around it. -/
def framed (around as : List (String × String)) : Framed where
  node := around.lookup "data-node-id"
  viewBox := around.lookup "viewBox"
  x := as.lookup "x"
  y := as.lookup "y"
  width := as.lookup "width"
  height := as.lookup "height"

/-- The images of drawings, each with the attributes of the `svg` element around it. -/
def imageFrames : Collector (List (String × String)) Framed where
  take around name as _ := if name = "image" then [framed around as] else []
  within around name as := some (if name = "svg" then as else around)

/-- The frame of a clipped image, if it has an image. -/
def framed? (values : Table Resolved) : Node → Option Framed
  | .leaf h (.svg s) =>
    if hasImage values h s then
      let size := (ViewBox.size? s.viewBox).getD (s.width, s.height)
      some ⟨h.id, s.viewBox, "0", "0", size.1.plain, size.2.plain⟩
    else none
  | _ => none

lemma spells_plain (x : Float32) : Spells (some x.plain) x := ⟨x, rfl, .inl rfl⟩

/-- The digit spells the two zeros. -/
lemma spells_zero_iff {x : Float32} : Spells (some "0") x ↔ x == 0 := by
  have hcomm : (0 : Float32) == x ↔ x == 0 := by
    simp only [Float32.beq_iff_ne_nan_and_eq]
    tauto
  constructor
  · rintro ⟨y, hy, h⟩
    obtain rfl := Float32.plain_eq_zero_iff.1 (Option.some.inj hy).symm
    rcases h with rfl | h
    · rfl
    · exact hcomm.1 h
  · exact fun h => ⟨0, congrArg some (Float32.plain_eq_zero_iff.2 rfl).symm, .inr (hcomm.2 h)⟩

/-! ### Frames in written markup -/

/-- Inside of an `svg` element the images are framed by it. -/
lemma imageFrames_svg (around as : List (String × String)) (vs : List View) :
    imageFrames.collect around [.element "svg" as vs] = imageFrames.collect as vs :=
  imageFrames.collect_inside rfl rfl

/-- An element that is neither a drawing nor an image changes nothing. -/
lemma imageFrames_other {tag : String} (hsvg : tag ≠ "svg") (himage : tag ≠ "image")
    (around as : List (String × String)) (vs : List View) :
    imageFrames.collect around [.element tag as vs] = imageFrames.collect around vs :=
  imageFrames.collect_inside (if_neg himage) (congrArg some (if_neg hsvg))

/-! ### Leaves -/

/-- The markup shows the images of the nodes in their frames wherever it stands. -/
def Frames (values : Table Resolved) (ns : List Node) (e : Emitted) : Prop :=
  ∀ around, imageFrames.collect around (allViews e.markup) = ns.filterMap (framed? values)

section

variable {c : Context} {h : Head} {e : Emitted}

lemma frames_textNode {t : TextLeaf} (he : textNode c h t = .ok e) :
    Frames c.values [.leaf h (.text t)] e := by
  obtain ⟨color, -, he⟩ := Except.bind_eq_ok_iff.1 he
  rw [← Except.ok.inj he]
  intro around
  rw [allViews_element, imageFrames_other (by decide) (by decide), imageFrames.collect_text rfl]
  rfl

lemma frames_imageNode (i : ImageLeaf) :
    Frames c.values [.leaf h (.image i)] (imageNode c h i) := by
  intro around
  dsimp only [imageNode]
  rw [allViews_void, imageFrames_other (by decide) (by decide)]
  rfl

/-- There is no image in a mask. -/
lemma imageFrames_mask (around : List (String × String)) (mask : Option Mask) :
    imageFrames.collect around (allViews (mask.map (maskMarkup h)).toList) = [] := by
  cases mask with
  | none => rfl
  | some m =>
    dsimp only [Option.map_some, Option.toList_some, maskMarkup]
    rw [allViews_element, allViews_element, allViews_closed,
      imageFrames_other (by decide) (by decide), imageFrames_other (by decide) (by decide),
      imageFrames_other (by decide) (by decide)]
    rfl

lemma imageFrames_clippedImage (s : SvgLeaf) (around : List (String × String)) (href : String) :
    imageFrames.collect around (allViews [clippedImage s h href]) =
      [⟨around.lookup "data-node-id", around.lookup "viewBox", "0", "0",
        ((ViewBox.size? s.viewBox).getD (s.width, s.height)).1.plain,
        ((ViewBox.size? s.viewBox).getD (s.width, s.height)).2.plain⟩] := by
  unfold clippedImage
  rw [allViews_closed, imageFrames.collect_childless]
  rfl

lemma frames_svgNode (s : SvgLeaf) : Frames c.values [.leaf h (.svg s)] (svgNode c h s) := by
  intro around
  have hsvg (image : List Markup) :
      imageFrames.collect around (allViews [.element "svg"
        (svgAttributes h s.width s.height s.viewBox)
        ((s.mask.map (maskMarkup h)).toList ++ image)]) =
      imageFrames.collect (svgAttributes h s.width s.height s.viewBox) (allViews image) := by
    rw [allViews_element, imageFrames_svg, allViews_append, imageFrames.collect_append,
      imageFrames_mask, List.nil_append]
  have himage := svgReference?_isSome c h s
  unfold svgNode
  cases hr : svgReference? c h s with
  | none =>
    rw [hr] at himage
    refine (hsvg []).trans ?_
    rw [List.filterMap_cons, framed?, ← himage]
    rfl
  | some reference =>
    rw [hr] at himage
    refine (hsvg _).trans ?_
    rw [imageFrames_clippedImage, List.filterMap_cons, framed?, ← himage]
    rfl

lemma frames_shapeNode {s : ShapeLeaf} (he : shapeNode c h s = .ok e) :
    Frames c.values [.leaf h (.shape s)] e := by
  obtain ⟨fill, stroke, -, rfl⟩ := exists_painted he
  have houtline : (outlineMarkup s).1 ≠ "svg" ∧ (outlineMarkup s).1 ≠ "image" := by
    unfold outlineMarkup
    cases s.shape <;> simp
  intro around
  rw [allViews_element, imageFrames_svg, allViews_closed, imageFrames_other houtline.1 houtline.2]
  rfl

lemma frames_leafNode {l : Leaf} (he : leafNode c h l = .ok e) : Frames c.values [.leaf h l] e := by
  cases l with
  | text t => exact frames_textNode he
  | image i =>
    obtain rfl := Except.ok.inj he
    exact frames_imageNode i
  | svg s =>
    obtain rfl := Except.ok.inj he
    exact frames_svgNode s
  | shape s => exact frames_shapeNode he

end

lemma compositional_frames (c : Context) : Compositional c (Frames c.values) where
  none := fun _ => rfl
  append hfirst hrest := by
    intro around
    rw [List.filterMap_append, ← hfirst around, ← hrest around, ← imageFrames.collect_append,
      ← allViews_append]
    rfl
  container _ hinner := by
    intro around
    rw [allViews_element, imageFrames_other (by decide) (by decide), hinner around]
    rfl
  leaf he := frames_leafNode he

/-! ### Compiled documents -/

lemma imageFrames_body (s : Schema) (ms : List Markup) (around : List (String × String)) :
    imageFrames.collect around (allViews (body s ms)) =
      imageFrames.collect around (allViews ms) := by
  unfold body
  cases s.version with
  | tree => rfl
  | flat =>
    dsimp only
    rw [allViews_element]
    exact imageFrames_other (by decide) (by decide) _ _ _

lemma framed?_node {values : Table Resolved} {n : Node} {f : Framed}
    (h : framed? values n = some f) : f.node = some n.id := by
  unfold framed? at h
  split at h
  · split at h
    · rw [← Option.some.inj h]
      rfl
    · cases h
  · cases h

variable {config : CompileConfig} {s : Schema} {r : FillRequest} {assets : AssetSource}
  {d : Document}

/-- The body of a document is read back with the images of the rendered nodes in their frames. -/
lemma exists_framed (hd : compile config s r assets = .ok d) :
    ∃ nodes body views, s.nodesFor r.variant = .ok nodes ∧
      d.html = page config.lang s.title (fontsCss config assets) s.canvas body ∧
      readMarkup body = some views ∧
      imageFrames.collect [] views =
        (Node.renderedIn nodes).filterMap (framed? (valuesFor r nodes)) := by
  obtain ⟨nodes, palette, emitted, hnodes, hemitted, hhtml, -⟩ := exists_emitted hd
  have hframes := (compositional_frames ⟨palette, valuesFor r nodes, assets⟩).emitAll nodes hemitted
  have hplain := (draws_body s (draws_emitAll _ _ hemitted)).plain
  exact ⟨nodes, _, _, hnodes, hhtml, readMarkup_writeAll hplain,
    (imageFrames_body s _ _).trans (hframes [])⟩

/-- **Where clipped images stand.** The body of a compiled document has one image in a drawing for
each rendered clipped image that has an image or a value for one, in pre-order, and it stands in the
drawing of its node, which has the node's view box. It begins at the origin. If the view box reads
as four numbers, it has the size that they say, and so it covers the view box just when this begins
at the origin too; else it has the size of the node. -/
theorem images_framed (hd : compile config s r assets = .ok d) :
    ∃ nodes body views, s.nodesFor r.variant = .ok nodes ∧
      d.html = page config.lang s.title (fontsCss config assets) s.canvas body ∧
      readMarkup body = some views ∧
      imageFrames.collect [] views =
        (Node.renderedIn nodes).filterMap (framed? (valuesFor r nodes)) ∧
      ((imageFrames.collect [] views).map (·.node)).Nodup ∧
      ∀ h l, .leaf h (.svg l) ∈ Node.renderedIn nodes → hasImage (valuesFor r nodes) h l = true →
        ∃ f ∈ imageFrames.collect [] views, f.node = some h.id ∧ f.viewBox = some l.viewBox ∧
          f.x = some "0" ∧ f.y = some "0" ∧
          (∀ x y width height, ViewBox.Reads l.viewBox [x, y, width, height] →
            f.width = some width.plain ∧ f.height = some height.plain ∧
              (f.Covers x y width height ↔ x == 0 ∧ y == 0)) ∧
          ((∀ x y width height, ¬ ViewBox.Reads l.viewBox [x, y, width, height]) →
            f.width = some l.width.plain ∧ f.height = some l.height.plain) := by
  obtain ⟨nodes, body, views, hnodes, hhtml, hread, hframed⟩ := exists_framed hd
  refine ⟨nodes, body, views, hnodes, hhtml, hread, hframed, ?_, fun h l hmem himage => ?_⟩
  · rw [hframed]
    exact nodup_map_filterMap hnodes fun _ _ => framed?_node
  · rw [hframed]
    refine ⟨_, List.mem_filterMap.2 ⟨_, hmem, if_pos himage⟩, rfl, rfl, rfl, rfl,
      fun x y width height hreads => ?_, fun hnot => ?_⟩
    · have hsize := ViewBox.size?_eq_some_iff.2 ⟨x, y, hreads⟩
      rw [hsize]
      refine ⟨rfl, rfl, fun hcovers => ?_, fun hzero => ?_⟩
      · exact ⟨spells_zero_iff.1 hcovers.x, spells_zero_iff.1 hcovers.y⟩
      · exact ⟨spells_zero_iff.2 hzero.1, spells_zero_iff.2 hzero.2, spells_plain width,
          spells_plain height⟩
    · have hsize := ViewBox.size?_eq_none_iff.2 hnot
      rw [hsize]
      exact ⟨rfl, rfl⟩

/-- A photo behind a mask, with the given view box. -/
def boxedPhoto (viewBox : String) : SvgLeaf where
  width := 4
  height := 4
  viewBox := viewBox
  mask := some ⟨"mask", "M10 20H14V24Z", none⟩
  image := "data:x"

def boxedAlbum (viewBox : String) : Draft where
  id := "s"
  canvas := ⟨8, 8⟩
  version := .flat
  nodes := [.leaf { id := "photo" } (.svg (boxedPhoto viewBox))]

lemma boxedAlbum_accepted (viewBox : String) : (boxedAlbum viewBox).fault? [] = none := rfl

theorem images_framed_origin :
    ∃ d body views,
      compile {} ⟨boxedAlbum "0,0 3 2", boxedAlbum_accepted _⟩ {} (fun _ => none) = .ok d ∧
      d.html = page "en" "" "" ⟨8, 8⟩ body ∧ readMarkup body = some views ∧
      ∃ f ∈ imageFrames.collect [] views, f.node = some "photo" ∧ f.Covers 0 0 3 2 := by
  obtain ⟨d, hd⟩ : ∃ d, compile {} ⟨boxedAlbum "0,0 3 2", boxedAlbum_accepted _⟩ {}
      (fun _ => none) = .ok d := ⟨_, rfl⟩
  obtain ⟨nodes, body, views, hnodes, hhtml, hread, -, -, hframes⟩ := images_framed hd
  obtain rfl : (boxedAlbum "0,0 3 2").top = nodes := Except.ok.inj hnodes
  have hreads : ViewBox.Reads "0,0 3 2" [0, 0, 3, 2] := ViewBox.numbers?_eq_some_iff.1 rfl
  obtain ⟨f, hf, hnode, -, -, -, hsize, -⟩ :=
    hframes { id := "photo" } (boxedPhoto "0,0 3 2") (List.mem_singleton.2 rfl) rfl
  exact ⟨d, body, views, hd, hhtml, hread, f, hf, hnode, (hsize 0 0 3 2 hreads).2.2.2 ⟨rfl, rfl⟩⟩

/-- An image stands beside its view box. -/
theorem image_beside_box :
    ∃ d body views,
      compile {} ⟨boxedAlbum "10 20 4 4", boxedAlbum_accepted _⟩ {} (fun _ => none) = .ok d ∧
      d.html = page "en" "" "" ⟨8, 8⟩ body ∧ readMarkup body = some views ∧
      ViewBox.Reads "10 20 4 4" [10, 20, 4, 4] ∧
      imageFrames.collect [] views = [⟨"photo", "10 20 4 4", "0", "0", "4", "4"⟩] ∧
      ∀ f ∈ imageFrames.collect [] views, ¬ f.Covers 10 20 4 4 := by
  obtain ⟨d, hd⟩ : ∃ d, compile {} ⟨boxedAlbum "10 20 4 4", boxedAlbum_accepted _⟩ {}
      (fun _ => none) = .ok d := ⟨_, rfl⟩
  obtain ⟨nodes, body, views, hnodes, hhtml, hread, hframed⟩ := exists_framed hd
  obtain rfl : (boxedAlbum "10 20 4 4").top = nodes := Except.ok.inj hnodes
  have hone : imageFrames.collect [] views = [⟨"photo", "10 20 4 4", "0", "0", "4", "4"⟩] := by
    rw [hframed]
    decide +kernel
  refine ⟨d, body, views, hd, hhtml, hread, ViewBox.numbers?_eq_some_iff.1 rfl, hone, ?_⟩
  rw [hone, List.forall_mem_singleton]
  intro hcovers
  have hzero : (10 : Float32) == 0 := spells_zero_iff.1 hcovers.x
  exact absurd hzero (by decide)

end VisualTemplate.Document
