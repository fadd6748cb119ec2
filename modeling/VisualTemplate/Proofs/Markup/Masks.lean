import VisualTemplate.Proofs.Markup.Collect
import VisualTemplate.Proofs.Markup.SelfContained
/-!
The masks of a document.

A clipped image is written as one `svg` element that holds its mask and an image with the address of
the mask. The id of the mask is made of the node's id and the mask's own, joined by a hyphen. Ids
may hold hyphens themselves, so two nodes with different ids may have masks of one id. This happens
just when one of them has the other's id with a hyphen and more behind it, and that is what the
other's mask begins with.
-/

namespace VisualTemplate.Document

/-! ### Joined ids -/

/-- A node's id and that of its mask, as they are joined. -/
def joinedId (p : String × String) : String := p.1 ++ "-" ++ p.2

/-- The second node's id continues the first one's, and the first mask's id makes up for it. -/
def Entangled (p q : String × String) : Prop :=
  ∃ middle, q.1 = p.1 ++ "-" ++ middle ∧ p.2 = middle ++ "-" ++ q.2

lemma joinedId_eq_of_entangled {p q : String × String} (h : Entangled p q) :
    joinedId p = joinedId q := by
  obtain ⟨middle, hnode, hmask⟩ := h
  rw [joinedId, joinedId, hnode, hmask]
  simp only [String.append_assoc]

lemma Entangled.ne {p q : String × String} (h : Entangled p q) : p.1 ≠ q.1 := by
  obtain ⟨middle, hnode, -⟩ := h
  intro heq
  have hlength := congrArg String.length (heq.trans hnode)
  simp only [String.length_append] at hlength
  have hhyphen : "-".length = 1 := rfl
  omega

/-- Only a mask's id with a hyphen can be entangled. -/
lemma Entangled.hyphen_mem {p q : String × String} (h : Entangled p q) : '-' ∈ p.2.toList := by
  obtain ⟨middle, -, hmask⟩ := h
  rw [hmask]
  simp

/-- Where one node's id ends before the other's, the rest of the other ends with a hyphen. -/
lemma entangled_of_append {p q : String × String} {rest : List Char}
    (hnode : q.1.toList ++ ['-'] = p.1.toList ++ ['-'] ++ rest)
    (hmask : p.2.toList = rest ++ q.2.toList) : p = q ∨ Entangled p q := by
  rcases List.eq_nil_or_concat rest with rfl | ⟨middle, c, rfl⟩
  · rw [List.append_nil] at hnode
    exact .inl (Prod.ext (String.toList_injective (List.append_cancel_right hnode).symm)
      (String.toList_injective hmask))
  · -- the last character of the rest is the hyphen behind the longer id
    rw [List.concat_eq_append, ← List.append_assoc] at hnode
    obtain ⟨hfront, hhyphen⟩ := List.append_inj' hnode rfl
    obtain rfl : '-' = c := by simpa using hhyphen
    refine .inr ⟨.ofList middle, String.toList_injective ?_, String.toList_injective ?_⟩
    · simpa using hfront
    · simpa using hmask

lemma joinedId_eq_iff {p q : String × String} :
    joinedId p = joinedId q ↔ p = q ∨ Entangled p q ∨ Entangled q p := by
  constructor
  · intro heq
    have hchars : p.1.toList ++ ['-'] ++ p.2.toList = q.1.toList ++ ['-'] ++ q.2.toList := by
      simpa [joinedId] using congrArg String.toList heq
    -- the front parts, each with its hyphen, begin alike: one continues the other
    rcases List.append_eq_append_iff.1 hchars with ⟨rest, hnode, hmask⟩ | ⟨rest, hnode, hmask⟩
    · exact (entangled_of_append hnode hmask).imp_right .inl
    · exact (entangled_of_append hnode hmask).imp Eq.symm .inr
  · rintro (rfl | h | h)
    · rfl
    · exact joinedId_eq_of_entangled h
    · exact (joinedId_eq_of_entangled h).symm

/-- Joined ids of nodes with different ids are different unless two of them are entangled. -/
lemma nodup_joinedId_iff {ps : List (String × String)} (h : (ps.map Prod.fst).Nodup) :
    (ps.map joinedId).Nodup ↔ ∀ p ∈ ps, ∀ q ∈ ps, ¬ Entangled p q := by
  rw [List.nodup_map_iff_inj_on h.of_map]
  constructor
  · intro hinjective p hp q hq hentangled
    have heq := hinjective p hp q hq (joinedId_eq_of_entangled hentangled)
    exact hentangled.ne (congrArg Prod.fst heq)
  · intro hfree p hp q hq heq
    rcases joinedId_eq_iff.1 heq with heq | hentangled | hentangled
    · exact heq
    · exact absurd hentangled (hfree p hp q hq)
    · exact absurd hentangled (hfree q hq p hp)

/-! ### Masks in a text -/

/-- The values of some attributes. -/
def attributeValues (wanted : String → String → Bool) : Collector Unit String where
  take _ name as _ := (as.filter fun a => wanted name a.1).map (·.2)
  within _ _ _ := some ()

/-- The ids of masks. -/
def maskIds : Collector Unit String := attributeValues fun tag name => tag == "mask" && name == "id"

/-- The addresses of masks. -/
def maskAddresses : Collector Unit String := attributeValues fun _ name => name == "mask"

/-- An `svg` element with the id of its node, the ids of the masks in it and the addresses of masks
in it. -/
structure Drawing where
  node : Option String
  masks : List String
  addresses : List String
  deriving DecidableEq

/-- The `svg` elements. None is looked for in another one. -/
def svgDrawings : Collector Unit Drawing where
  take _ name as vs :=
    if name = "svg" then
      [⟨as.lookup "data-node-id", maskIds.collect () vs, maskAddresses.collect () vs⟩]
    else []
  within _ name _ := if name = "svg" then none else some ()

/-! ### Masks in written markup -/

/-- The masks among the views have these ids, and these are the addresses of masks there. -/
structure Masking (vs : List View) (ids addresses : List String) : Prop where
  masks : maskIds.collect () vs = ids
  addresses : maskAddresses.collect () vs = addresses

/-- All masks among the views and all addresses of masks stand in the drawings. -/
structure Holding (vs : List View) (ds : List Drawing) : Prop
    extends Masking vs (ds.flatMap (·.masks)) (ds.flatMap (·.addresses)) where
  drawings : svgDrawings.collect () vs = ds

/-- The attributes hold no address of a mask. -/
def Unmasked (as : List (String × String)) : Prop := ∀ a ∈ as, a.1 ≠ "mask"

section

variable {vs ws : List View} {ids ids' addresses addresses' : List String} {ds es : List Drawing}
  {tag : String} {as : List (String × String)}

@[simp] lemma unmasked_nil : Unmasked [] := by simp [Unmasked]

@[simp] lemma unmasked_cons {a : String × String} :
    Unmasked (a :: as) ↔ a.1 ≠ "mask" ∧ Unmasked as := List.forall_mem_cons

@[simp] lemma unmasked_append {bs : List (String × String)} :
    Unmasked (as ++ bs) ↔ Unmasked as ∧ Unmasked bs := List.forall_mem_append

@[simp] lemma unmasked_styled (s : Style) : Unmasked (styled s) := by
  unfold styled
  split <;> simp

@[simp] lemma unmasked_svgAttributes (h : Head) (width height : Float32) (viewBox : String) :
    Unmasked (svgAttributes h width height viewBox) := by
  simp [svgAttributes]

lemma masking_nil : Masking [] [] [] := ⟨rfl, rfl⟩

lemma Masking.append (h : Masking vs ids addresses) (h' : Masking ws ids' addresses') :
    Masking (vs ++ ws) (ids ++ ids') (addresses ++ addresses') where
  masks := by rw [Collector.collect_append, h.masks, h'.masks]
  addresses := by rw [Collector.collect_append, h.addresses, h'.addresses]

lemma addresses_element (has : Unmasked as) (tag : String) (vs : List View) :
    maskAddresses.collect () [.element tag as vs] = maskAddresses.collect () vs := by
  refine maskAddresses.collect_inside (List.map_eq_nil_iff.2 (List.filter_eq_nil_iff.2 ?_)) rfl
  exact fun a ha => by simpa using has a ha

lemma masks_element (htag : tag ≠ "mask") (as : List (String × String)) (vs : List View) :
    maskIds.collect () [.element tag as vs] = maskIds.collect () vs :=
  maskIds.collect_inside (by simp [maskIds, attributeValues, htag]) rfl

/-- An element that is no mask has the masks of its children. -/
lemma Masking.element (h : Masking vs ids addresses) (hmask : tag ≠ "mask") (has : Unmasked as) :
    Masking [.element tag as vs] ids addresses where
  masks := (masks_element hmask as vs).trans h.masks
  addresses := (addresses_element has tag vs).trans h.addresses

lemma Masking.mask (h : Masking vs [] []) (id : String) :
    Masking [.element "mask" [("id", id)] vs] [id] [] where
  masks := by
    rw [maskIds.collect_element rfl, h.masks]
    rfl
  addresses := (addresses_element (by simp) _ vs).trans h.addresses

lemma holding_nil : Holding [] [] := ⟨masking_nil, rfl⟩

lemma Holding.append (h : Holding vs ds) (h' : Holding ws es) : Holding (vs ++ ws) (ds ++ es) where
  toMasking := by
    rw [List.flatMap_append, List.flatMap_append]
    exact h.toMasking.append h'.toMasking
  drawings := by rw [Collector.collect_append, h.drawings, h'.drawings]

lemma Holding.element (h : Holding vs ds) (hsvg : tag ≠ "svg") (hmask : tag ≠ "mask")
    (has : Unmasked as) : Holding [.element tag as vs] ds where
  toMasking := h.toMasking.element hmask has
  drawings := (svgDrawings.collect_inside (if_neg hsvg) (if_neg hsvg)).trans h.drawings

/-- An `svg` element is a drawing with the masks and the addresses in it. -/
lemma Masking.svg (h : Masking vs ids addresses) (has : Unmasked as) :
    Holding [.element "svg" as vs] [⟨as.lookup "data-node-id", ids, addresses⟩] where
  toMasking := by
    rw [List.flatMap_singleton, List.flatMap_singleton]
    exact h.element (by decide) has
  drawings := by
    rw [svgDrawings.collect_passed rfl, ← h.masks, ← h.addresses]
    rfl

/-- A text has no masks in it. -/
lemma holding_text (content : String) : Holding (allViews [.text content]) [] where
  masks := maskIds.collect_text rfl content
  addresses := maskAddresses.collect_text rfl content
  drawings := svgDrawings.collect_text rfl content

end

/-! ### Leaves -/

/-- The drawing of a clipped image: its mask if it has one, and the address of the mask if it has an
image besides. -/
def clippedDrawing (values : Table Resolved) (h : Head) (s : SvgLeaf) : Drawing where
  node := h.id
  masks := (s.mask.map (maskId h)).toList
  addresses := if hasImage values h s then
    (s.mask.map fun m => "url(#" ++ maskId h m ++ ")").toList else []

/-- The drawing that a node is written as. -/
def drawing? (values : Table Resolved) : Node → Option Drawing
  | .leaf h (.svg s) => some (clippedDrawing values h s)
  | .leaf h (.shape _) => some ⟨h.id, [], []⟩
  | _ => none

section

variable {c : Context} {h : Head}

lemma masking_maskMarkup (h : Head) (m : Mask) :
    Masking (allViews [maskMarkup h m]) [maskId h m] [] := by
  have hmask (moved : List (String × String)) (hmoved : Unmasked moved) :
      Masking (allViews [.element "defs" [] [.element "mask" [("id", maskId h m)]
        [.closed "path" ([("d", m.path), ("fill", "#ffffff")] ++ moved)]]]) [maskId h m] [] := by
    have hpath : Unmasked ([("d", m.path), ("fill", "#ffffff")] ++ moved) := by simp [hmoved]
    rw [allViews_element, allViews_element, allViews_closed]
    exact ((masking_nil.element (by decide) hpath).mask _).element (by decide) unmasked_nil
  unfold maskMarkup
  apply hmask
  cases m.offset with
  | none => simp
  | some o =>
    simp only
    split <;> simp

lemma masking_clippedImage (s : SvgLeaf) (h : Head) (href : String) :
    Masking (allViews [clippedImage s h href]) []
      (s.mask.map fun m => "url(#" ++ maskId h m ++ ")").toList := by
  unfold clippedImage
  rw [allViews_closed]
  refine ⟨masks_element (by decide) .., ?_⟩
  rw [Collector.collect_childless]
  cases s.mask <;> rfl

lemma holding_svgNode (s : SvgLeaf) :
    Holding (allViews (svgNode c h s).markup) [clippedDrawing c.values h s] := by
  have hmasks : Masking (allViews (s.mask.map (maskMarkup h)).toList)
      (s.mask.map (maskId h)).toList [] := by
    cases s.mask with
    | none => exact masking_nil
    | some m => exact masking_maskMarkup h m
  have hsvg (image : List Markup) (addresses : List String)
      (himage : Masking (allViews image) [] addresses) :
      Holding (allViews [.element "svg" (svgAttributes h s.width s.height s.viewBox)
          ((s.mask.map (maskMarkup h)).toList ++ image)])
        [⟨h.id, (s.mask.map (maskId h)).toList, addresses⟩] := by
    have hinner := hmasks.append himage
    rw [List.append_nil, List.nil_append] at hinner
    rw [allViews_element, allViews_append]
    exact hinner.svg (unmasked_svgAttributes _ _ _ _)
  unfold svgNode clippedDrawing
  rw [← svgReference?_isSome]
  cases hr : svgReference? c h s with
  | none => exact hsvg [] [] masking_nil
  | some reference => exact hsvg _ _ (masking_clippedImage s h _)

lemma holding_shapeNode {s : ShapeLeaf} {e : Emitted} (he : shapeNode c h s = .ok e) :
    Holding (allViews e.markup) [⟨h.id, [], []⟩] := by
  obtain ⟨fill, stroke, hstroke, rfl⟩ := exists_painted he
  have houtline : (outlineMarkup s).1 ≠ "mask" ∧ Unmasked (outlineMarkup s).2 := by
    unfold outlineMarkup
    cases s.shape with
    | rectangle radius =>
      dsimp only
      split <;> simp
    | ellipse => simp
    | vector path viewBox => simp
  have hnames : ∀ name ∈ strokeNames, name ≠ "mask" := by decide
  have hpaint : Unmasked stroke := fun a ha => hnames _ (hstroke a ha)
  have hattributes : Unmasked ((outlineMarkup s).2 ++ [("fill", fill)] ++ stroke) := by
    simp [houtline.2, hpaint]
  rw [allViews_element, allViews_closed]
  exact (masking_nil.element houtline.1 hattributes).svg (unmasked_svgAttributes _ _ _ _)

lemma holding_leafNode {l : Leaf} {e : Emitted} (he : leafNode c h l = .ok e) :
    Holding (allViews e.markup) ([.leaf h l].filterMap (drawing? c.values)) := by
  cases l with
  | text t =>
    obtain ⟨color, hcolor, he⟩ := Except.bind_eq_ok_iff.1 he
    rw [← Except.ok.inj he, allViews_element]
    exact (holding_text _).element (by decide) (by decide) (by simp)
  | image i =>
    obtain rfl := Except.ok.inj he
    dsimp only [imageNode]
    rw [allViews_void]
    exact holding_nil.element (by decide) (by decide) (by simp)
  | svg s =>
    obtain rfl := Except.ok.inj he
    exact holding_svgNode s
  | shape s => exact holding_shapeNode he

end

/-! ### Nodes -/

lemma compositional_holding (c : Context) : Compositional c fun ns e =>
    Holding (allViews e.markup) (ns.filterMap (drawing? c.values)) where
  none := holding_nil
  append hfirst hrest := by
    dsimp only [Emitted.append]
    rw [List.filterMap_append, allViews_append]
    exact hfirst.append hrest
  container _ hinner := by
    rw [List.filterMap_cons_none rfl, allViews_element]
    exact hinner.element (by decide) (by decide) (by simp)
  leaf he := holding_leafNode he

/-- The drawings of written nodes are those of the rendered nodes, in pre-order. -/
lemma holding_emitAll (c : Context) (ns : List Node) {e : Emitted} (he : emitAll c ns = .ok e) :
    Holding (allViews e.markup) ((Node.renderedIn ns).filterMap (drawing? c.values)) :=
  (compositional_holding c).emitAll ns he

/-! ### Compiled documents -/

/-- The id of a clipped image with a mask and that of its mask. -/
def mask? : Node → Option (String × String)
  | .leaf h (.svg s) => s.mask.map fun m => (h.id, m.id)
  | _ => none

/-- The rendered nodes with masks, each with the id of its mask, in pre-order. -/
def maskedIds (ns : List Node) : List (String × String) := (Node.renderedIn ns).filterMap mask?

lemma masks_drawing? (values : Table Resolved) (n : Node) :
    (drawing? values n).toList.flatMap (·.masks) = (mask? n).toList.map joinedId := by
  cases n with
  | container h l cs => rfl
  | leaf h l =>
    cases l with
    | svg s => cases hm : s.mask <;> simp [drawing?, clippedDrawing, mask?, hm, maskId, joinedId]
    | text t => rfl
    | image i => rfl
    | shape s => rfl

lemma flatMap_masks (values : Table Resolved) (ns : List Node) :
    (ns.filterMap (drawing? values)).flatMap (·.masks) = (ns.filterMap mask?).map joinedId := by
  rw [List.filterMap_eq_flatMap_toList, List.filterMap_eq_flatMap_toList, List.flatMap_assoc,
    List.map_flatMap]
  exact List.flatMap_congr fun n _ => masks_drawing? values n

lemma mask?_fst {n : Node} {p : String × String} (h : mask? n = some p) : p.1 = n.id := by
  unfold mask? at h
  split at h
  · obtain ⟨m, -, rfl⟩ := Option.map_eq_some_iff.1 h
    rfl
  · cases h

/-- Masked nodes have ids of their own. -/
lemma maskedIds_nodup {s : Schema} {variant : Option String} {nodes : List Node}
    (h : s.nodesFor variant = .ok nodes) : ((maskedIds nodes).map Prod.fst).Nodup :=
  (Schema.rendered_nodup h).sublist (sublist_map_filterMap (fun _ _ => mask?_fst) _)

lemma holding_body (s : Schema) {ms : List Markup} {ds : List Drawing}
    (h : Holding (allViews ms) ds) : Holding (allViews (body s ms)) ds := by
  unfold body
  cases s.version with
  | tree => exact h
  | flat =>
    dsimp only
    rw [allViews_element]
    exact h.element (by decide) (by decide) (by simp)

/-- An address in a drawing is that of the one mask in it. -/
lemma addresses_drawing? {values : Table Resolved} {n : Node} {x : Drawing}
    (h : drawing? values n = some x) :
    ∀ a ∈ x.addresses, ∃ id, x.masks = [id] ∧ a = "url(#" ++ id ++ ")" := by
  unfold drawing? at h
  split at h
  · next s =>
    obtain rfl := Option.some.inj h
    intro a ha
    unfold clippedDrawing at ha ⊢
    dsimp only at ha ⊢
    split at ha
    · obtain ⟨m, hm, rfl⟩ := Option.map_eq_some_iff.1 (Option.mem_toList.1 ha)
      exact ⟨_, by rw [hm]; rfl, rfl⟩
    · exact absurd ha List.not_mem_nil
  · obtain rfl := Option.some.inj h
    exact fun a ha => absurd ha List.not_mem_nil
  · cases h

variable {config : CompileConfig} {s : Schema} {r : FillRequest} {assets : AssetSource}
  {d : Document}

/-- The body of a document is read back with the drawings of the rendered nodes. -/
lemma exists_holding (hd : compile config s r assets = .ok d) :
    ∃ nodes body views, s.nodesFor r.variant = .ok nodes ∧
      d.html = page config.lang s.title (fontsCss config assets) s.canvas body ∧
      readMarkup body = some views ∧
      Holding views ((Node.renderedIn nodes).filterMap (drawing? (valuesFor r nodes))) := by
  obtain ⟨nodes, palette, emitted, hnodes, hemitted, hhtml, -⟩ := exists_emitted hd
  have hplain := (draws_body s (draws_emitAll _ _ hemitted)).plain
  exact ⟨nodes, _, _, hnodes, hhtml, readMarkup_writeAll hplain,
    holding_body s (holding_emitAll _ nodes hemitted)⟩

/-- **When masks have ids of their own.** The body of a compiled document holds one drawing for each
rendered clipped image and shape, in pre-order, with the id of its node. All masks stand in the
drawings, and so do all addresses of masks: each of them is the address of the one mask in the same
drawing. The ids of the masks are different from each other just when no two of the masked nodes are
entangled. -/
theorem maskIds_nodup_iff (hd : compile config s r assets = .ok d) :
    ∃ nodes body views, s.nodesFor r.variant = .ok nodes ∧
      d.html = page config.lang s.title (fontsCss config assets) s.canvas body ∧
      readMarkup body = some views ∧
      svgDrawings.collect () views =
        (Node.renderedIn nodes).filterMap (drawing? (valuesFor r nodes)) ∧
      maskIds.collect () views = (svgDrawings.collect () views).flatMap (·.masks) ∧
      maskIds.collect () views = (maskedIds nodes).map joinedId ∧
      maskAddresses.collect () views = (svgDrawings.collect () views).flatMap (·.addresses) ∧
      (∀ x ∈ svgDrawings.collect () views, ∀ a ∈ x.addresses, ∃ id, x.masks = [id] ∧
        a = "url(#" ++ id ++ ")") ∧
      ((maskIds.collect () views).Nodup ↔
        ∀ p ∈ maskedIds nodes, ∀ q ∈ maskedIds nodes, ¬ Entangled p q) := by
  obtain ⟨nodes, body, views, hnodes, hhtml, hread, hholding⟩ := exists_holding hd
  have hmasks : maskIds.collect () views = (maskedIds nodes).map joinedId :=
    hholding.masks.trans (flatMap_masks _ _)
  refine ⟨nodes, body, views, hnodes, hhtml, hread, hholding.drawings, ?_, hmasks, ?_, ?_, ?_⟩
  · rw [hholding.drawings, hholding.masks]
  · rw [hholding.drawings, hholding.addresses]
  · intro x hx
    rw [hholding.drawings, List.mem_filterMap] at hx
    obtain ⟨n, -, hn⟩ := hx
    exact addresses_drawing? hn
  · rw [hmasks]
    exact nodup_joinedId_iff (maskedIds_nodup hnodes)

/-- A square photo behind a mask. -/
def maskedPhoto (p : String × String) (path image : String) : Node :=
  .leaf { id := p.1 } (.svg
    { width := 4, height := 4, viewBox := "0 0 4 4", mask := some ⟨p.2, path, none⟩, image })

/-- Two photos with the ids of their masks. -/
def duo (p q : String × String) : Draft where
  id := "s"
  canvas := ⟨8, 4⟩
  version := .flat
  nodes := [maskedPhoto p "M0 0H4V4Z" "data:x", maskedPhoto q "M4 4H0V0Z" "data:y"]

lemma duo_faces_accepted : (duo ("a", "face") ("a-b", "face")).fault? [] = none := by
  decide +kernel

theorem maskIds_nodup_iff_faces :
    ∃ d body views,
      compile {} ⟨duo ("a", "face") ("a-b", "face"), duo_faces_accepted⟩ {} (fun _ => none) =
        .ok d ∧
      d.html = page "en" "" "" ⟨8, 4⟩ body ∧ readMarkup body = some views ∧
      maskIds.collect () views = ["a-face", "a-b-face"] ∧ (maskIds.collect () views).Nodup := by
  obtain ⟨d, hd⟩ : ∃ d, compile {} ⟨duo ("a", "face") ("a-b", "face"), duo_faces_accepted⟩ {}
      (fun _ => none) = .ok d := ⟨_, rfl⟩
  obtain ⟨nodes, body, views, hnodes, hhtml, hread, -, -, hids, -, -, hnodup⟩ :=
    maskIds_nodup_iff hd
  obtain rfl : (duo ("a", "face") ("a-b", "face")).top = nodes := Except.ok.inj hnodes
  have hmasked : maskedIds (duo ("a", "face") ("a-b", "face")).top =
      [("a", "face"), ("a-b", "face")] := by decide +kernel
  rw [hmasked] at hids hnodup
  refine ⟨d, body, views, hd, hhtml, hread, hids, hnodup.2 fun p hp q hq hentangled => ?_⟩
  have hface : '-' ∉ p.2.toList := by
    have hall : ∀ p ∈ [("a", "face"), ("a-b", "face")], '-' ∉ p.2.toList := by decide
    exact hall p hp
  exact hface hentangled.hyphen_mem

lemma duo_entangled_accepted : (duo ("a", "b-mask") ("a-b", "mask")).fault? [] = none := by
  decide +kernel

/-- Two photos with different ids are clipped by masks of one id. -/
theorem masks_of_one_id :
    ∃ d body views,
      compile {} ⟨duo ("a", "b-mask") ("a-b", "mask"), duo_entangled_accepted⟩ {} (fun _ => none) =
        .ok d ∧
      d.html = page "en" "" "" ⟨8, 4⟩ body ∧ readMarkup body = some views ∧
      svgDrawings.collect () views = [⟨"a", ["a-b-mask"], ["url(#a-b-mask)"]⟩,
        ⟨"a-b", ["a-b-mask"], ["url(#a-b-mask)"]⟩] := by
  obtain ⟨d, hd⟩ : ∃ d, compile {} ⟨duo ("a", "b-mask") ("a-b", "mask"), duo_entangled_accepted⟩ {}
      (fun _ => none) = .ok d := ⟨_, rfl⟩
  obtain ⟨nodes, body, views, hnodes, hhtml, hread, hholding⟩ := exists_holding hd
  obtain rfl : (duo ("a", "b-mask") ("a-b", "mask")).top = nodes := Except.ok.inj hnodes
  refine ⟨d, body, views, hd, hhtml, hread, hholding.drawings.trans ?_⟩
  decide +kernel

end VisualTemplate.Document
