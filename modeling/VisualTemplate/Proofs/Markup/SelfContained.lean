import VisualTemplate.Proofs.Markup.References
import VisualTemplate.Proofs.Markup.Values
/-!
Documents that need nothing from outside.

If no asset is reported as missing, every image of a document holds its data. The styles take over
some texts of the nodes and the fonts as they are, so the document refers to nothing outside of it
just when none of these texts does.
-/

namespace VisualTemplate.Document

/-! ### Leaves -/

/-- The colour that a value gives to a text. -/
def recolored? (values : Table Resolved) (h : Head) (t : TextLeaf) : Option Color :=
  match t.binding, values.get? h.id with
  | some b, some v => if b.kind = .color then Color.ofText? v.value else none
  | _, _ => none

/-- The texts that the styles of a leaf take over: the family of its font, its colour unless a token
or a value stands for it, and the id of the mask of its image. -/
def leafTexts (values : Table Resolved) (h : Head) : Leaf → List String
  | .text t => withoutQuotes t.font.family ::
      (if (recolored? values h t).isSome then [] else t.color.literals)
  | .svg s => if hasImage values h s then (s.mask.map (maskId h)).toList else []
  | .image _ => []
  | .shape _ => []

/-- The texts that the styles of a node take over. -/
def nodeTexts (values : Table Resolved) : Node → List String
  | .container _ l _ => l.literals
  | .leaf h l => leafTexts values h l

section

variable {c : Context} {h : Head} {e : Emitted}

lemma staysInner_filledText {t : TextLeaf} {color : String}
    (hcolor : staysInner color.toList = allInner t.color.literals) :
    staysInner (filledText c h t color).2.1.toList =
      allInner (if (recolored? c.values h t).isSome then [] else t.color.literals) := by
  unfold filledText recolored?
  cases hb : t.binding with
  | none => exact hcolor
  | some b =>
    cases hv : c.values.get? h.id with
    | none => simpa [valueOf, hv] using hcolor
    | some v =>
      rw [valueOf_eq hv]
      cases hkind : b.kind with
      | text => simpa [hkind] using hcolor
      | image => simpa [hkind] using hcolor
      | color =>
        cases hk : Color.ofText? v.value with
        | none => simpa [hkind, hk] using hcolor
        | some k => simp [hkind, hk, k.staysInner_css, allInner]

lemma refers_id (tag : String) (h : Head) : Refers tag [("data-node-id", h.id)] [] :=
  refers_others (by simp [otherNames, plainNames])

lemma embeds_textNode {t : TextLeaf} (he : textNode c h t = .ok e) :
    Embeds (writeAll e.markup).toList (leafTexts c.values h (.text t)) := by
  obtain ⟨color, hcolor, he⟩ := Except.bind_eq_ok_iff.1 he
  have htext := staysInner_filledText (c := c) (h := h) (staysInner_paint hcolor)
  have hstyle := takes_textStyle h t htext
  have helement := ((refers_id "div" h).append (refers_styled hstyle)).element (by decide)
    (embeds_text (filledText c h t color).1)
  rw [← Except.ok.inj he, leafTexts]
  rw [List.append_nil] at helement
  exact helement

/-- An address of which nothing is reported holds its data. -/
lemma isSome_inlined {reference : String}
    (hfound : ∀ x ∈ (inlined c h reference).2, x.kind ≠ .missingAsset) :
    ((inlined c h reference).1.after? "data:").isSome := by
  unfold inlined at hfound ⊢
  split
  · next hdata => exact hdata
  · next hdata =>
    rw [if_neg hdata] at hfound
    cases ha : c.assets reference with
    | some a =>
      have huri : a.dataUri.toList =
          "data:".toList ++ (a.mime ++ ";base64," ++ Base64.encode a.data).toList := by
        simp only [Asset.dataUri_eq, String.toList_append, List.append_assoc]
      simp only [String.after?, huri, Text.after?_append, Option.map_some, Option.isSome_some]
    | none =>
      rw [ha] at hfound
      exact absurd rfl (hfound _ List.mem_cons_self)

lemma embeds_imageNode {i : ImageLeaf}
    (hfound : ∀ x ∈ (imageNode c h i).diagnostics, x.kind ≠ .missingAsset) :
    Embeds (writeAll (imageNode c h i).markup).toList (leafTexts c.values h (.image i)) := by
  have hsrc : Refers "img" [("src", (inlined c h (imageReference c h i.binding i.src)).1)] [] :=
    refers_source (by decide) (isSome_inlined hfound)
  have halt : Refers "img" [("alt", "")] [] := refers_others (by simp [otherNames, plainNames])
  have hwords (display : String) (hdisplay : isBare display = true) :
      Takes [("object-fit", i.fit.word), ("display", display)] [] :=
    takes_bare (by simp +decide [hdisplay])
  have hstyle (display : String) (hdisplay : isBare display = true) :=
    ((takes_placed h).append (takes_sized i.width i.height)).append (hwords display hdisplay)
  refine ((((refers_id "img" h).append hsrc).append halt).append (refers_styled (hstyle _ ?_))).img
  cases i.display <;> decide

lemma refers_svgAttributes (width height : Float32) (viewBox : String) :
    Refers "svg" (svgAttributes h width height viewBox) [] := by
  have hbox : Refers "svg" [("data-node-id", h.id), ("xmlns", "http://www.w3.org/2000/svg"),
      ("width", width.plain), ("height", height.plain), ("viewBox", viewBox)] [] :=
    refers_others (by simp [otherNames, plainNames])
  have hblock : Takes [("display", "block")] [] := takes_bare (by simp +decide)
  exact hbox.append (refers_styled ((takes_placed h).append hblock))

/-- An `svg` element holds what is inside it. -/
lemma embeds_svg {width height : Float32} {viewBox : String} {ms : List Markup}
    {texts : List String} (hms : Embeds (writeAll ms).toList texts) :
    Embeds (writeAll [.element "svg" (svgAttributes h width height viewBox) ms]).toList texts :=
  (refers_svgAttributes width height viewBox).element (by decide) hms

lemma embeds_maskMarkup (m : Mask) : Embeds (writeAll [maskMarkup h m]).toList [] := by
  have hmask (moved : List (String × String)) (hmoved : Refers "path" moved []) :
      Embeds (writeAll [.element "defs" [] [.element "mask" [("id", maskId h m)]
        [.closed "path" ([("d", m.path), ("fill", "#ffffff")] ++ moved)]]]).toList [] := by
    have hpath : Refers "path" [("d", m.path), ("fill", "#ffffff")] [] :=
      refers_others (by simp [otherNames, plainNames])
    have hid : Refers "mask" [("id", maskId h m)] [] :=
      refers_others (by simp [otherNames, plainNames])
    have hdefs : Refers "defs" [] [] := refers_others (by simp)
    exact hdefs.element (by decide)
      (hid.element (by decide) ((hpath.append hmoved).closed (by decide)))
  unfold maskMarkup
  apply hmask
  refine refers_others ?_
  cases m.offset with
  | none => simp
  | some o =>
    simp only
    split <;> simp [otherNames, plainNames]

/-- The address of a mask stays inside just when its id does. -/
lemma staysInner_mask (id : String) :
    staysInner ("url(#" ++ id ++ ")").toList = staysInner id.toList := by
  have hlist : ("url(#" ++ id ++ ")").toList =
      'u' :: 'r' :: 'l' :: '(' :: '#' :: (id.toList ++ [')']) := by simp
  have hplace : startsInner ('#' :: (id.toList ++ [')'])) = true := by
    simp [startsInner, isInner, isSheetBlank, unquoted, isQuote]
  rw [hlist, staysInner_url hplace, staysInner_cons (by decide), staysInner_concat (by decide)]

/-- The image of a clipped image takes over the id of its mask. -/
lemma embeds_clippedImage {s : SvgLeaf} {href : String} (hhref : (href.after? "data:").isSome) :
    Embeds (writeAll [clippedImage s h href]).toList (s.mask.map (maskId h)).toList := by
  have hsource : Refers "image" [("href", href)] [] := refers_source (by decide) hhref
  have hbox (width height : String) : Refers "image" [("x", "0"), ("y", "0"), ("width", width),
      ("height", height), ("preserveAspectRatio", "xMidYMid slice")] [] :=
    refers_others (by simp [otherNames, plainNames])
  refine ((hsource.append (hbox _ _)).append ?_).closed (by decide)
  cases s.mask with
  | none => exact refers_others (by simp)
  | some m =>
    refine refers_style (by decide) ?_
    rw [staysInner_mask]
    exact (allInner_singleton _).symm

lemma embeds_svgNode {s : SvgLeaf}
    (hfound : ∀ x ∈ (svgNode c h s).diagnostics, x.kind ≠ .missingAsset) :
    Embeds (writeAll (svgNode c h s).markup).toList (leafTexts c.values h (.svg s)) := by
  have hmask : Embeds (writeAll (s.mask.map (maskMarkup h)).toList).toList [] := by
    cases s.mask with
    | none => exact embeds_nil
    | some m => exact embeds_maskMarkup m
  unfold svgNode at hfound ⊢
  rw [leafTexts, ← svgReference?_isSome]
  cases hr : svgReference? c h s with
  | none => exact embeds_svg (hmask.join embeds_nil)
  | some reference =>
    rw [hr] at hfound
    exact embeds_svg (hmask.join (embeds_clippedImage (isSome_inlined hfound)))

lemma embeds_shapeNode {s : ShapeLeaf} (he : shapeNode c h s = .ok e) :
    Embeds (writeAll e.markup).toList (leafTexts c.values h (.shape s)) := by
  obtain ⟨fill, stroke, hstroke, rfl⟩ := exists_painted he
  have houtline : isPlainName (outlineMarkup s).1 = true ∧
      Refers (outlineMarkup s).1 (outlineMarkup s).2 [] := by
    unfold outlineMarkup
    cases s.shape with
    | rectangle radius =>
      dsimp only
      refine ⟨by decide, refers_others ?_⟩
      split <;> simp [otherNames, plainNames]
    | ellipse =>
      dsimp only
      exact ⟨by decide, refers_others (by simp [otherNames, plainNames])⟩
    | vector path viewBox =>
      dsimp only
      exact ⟨by decide, refers_others (by simp [otherNames, plainNames])⟩
  have hfill : Refers (outlineMarkup s).1 [("fill", fill)] [] :=
    refers_others (by simp [otherNames, plainNames])
  have hothers : ∀ name ∈ strokeNames, name ∈ otherNames := by decide
  have hpaint : Refers (outlineMarkup s).1 stroke [] :=
    refers_others fun a ha => hothers _ (hstroke a ha)
  exact embeds_svg (((houtline.2.append hfill).append hpaint).closed houtline.1)

lemma embeds_leafNode {l : Leaf} (he : leafNode c h l = .ok e)
    (hfound : ∀ x ∈ e.diagnostics, x.kind ≠ .missingAsset) :
    Embeds (writeAll e.markup).toList (leafTexts c.values h l) := by
  cases l with
  | text t => exact embeds_textNode he
  | image i =>
    obtain rfl := Except.ok.inj he
    exact embeds_imageNode hfound
  | svg s =>
    obtain rfl := Except.ok.inj he
    exact embeds_svgNode hfound
  | shape s => exact embeds_shapeNode he

end

/-! ### Nodes -/

lemma compositional_embeds (c : Context) : Compositional c fun ns e =>
    (∀ x ∈ e.diagnostics, x.kind ≠ .missingAsset) →
      Embeds (writeAll e.markup).toList (ns.flatMap (nodeTexts c.values)) where
  none _ := embeds_nil
  append hfirst hrest hfound := by
    obtain ⟨hfound, hfound'⟩ := List.forall_mem_append.1 hfound
    rw [List.flatMap_append]
    exact (hfirst hfound).join (hrest hfound')
  container {h _ _ _ _} hstyle hinner hfound := by
    rw [List.flatMap_cons]
    -- its own texts come before those of its children, as in pre-order
    have hrefers := (refers_id "div" h).append (refers_styled (takes_layoutStyle hstyle))
    exact hrefers.element (by decide) (hinner hfound)
  leaf he hfound := by
    rw [List.flatMap_singleton, nodeTexts]
    exact embeds_leafNode he hfound

/-- What is written for nodes takes over the texts of the rendered ones, and nothing else. -/
lemma embeds_emitAll (c : Context) (ns : List Node) {e : Emitted} (he : emitAll c ns = .ok e)
    (hfound : ∀ x ∈ e.diagnostics, x.kind ≠ .missingAsset) :
    Embeds (writeAll e.markup).toList ((Node.renderedIn ns).flatMap (nodeTexts c.values)) :=
  (compositional_embeds c).emitAll ns he hfound

/-! ### Compiled documents -/

section

variable {texts texts' : List String}

lemma embeds_body (s : Schema) {ms : List Markup} (h : Embeds (writeAll ms).toList texts) :
    Embeds (writeAll (body s ms)).toList texts := by
  unfold body
  cases s.version with
  | tree => exact h
  | flat =>
    have hself (s : String) : toString s = s := rfl
    have hbare : isBare s!"position:relative;width:{px s.canvas.width.toFloat32};height:{
        px s.canvas.height.toFloat32};overflow:hidden" = true := by
      simp only [hself, isBare_append, isBare_px]
      decide
    have hid : Refers "div" [("data-schema-id", s.id)] [] :=
      refers_others (by simp [otherNames, plainNames])
    have hstyle : Refers "div" [("style", s!"position:relative;width:{
        px s.canvas.width.toFloat32};height:{px s.canvas.height.toFloat32};overflow:hidden")] [] :=
      refers_style (by decide) (staysInner_of_isBare hbare)
    exact (hid.append hstyle).element (by decide) h

/-- The text of a page, tag by tag. -/
lemma toList_page (lang title css : String) (canvas : Canvas) (body : String) :
    (page lang title css canvas body).toList =
      bracketed "!DOCTYPE html".toList ++
      bracketed ("html".toList ++ attributesChars [("lang", lang)]) ++
      bracketed "head".toList ++
      bracketed ("meta".toList ++ attributesChars [("charset", "utf-8")]) ++
      bracketed "title".toList ++ title.toList.flatMap textChar ++
      bracketed ('/' :: "title".toList) ++
      (bracketed "style".toList ++ (css ++ pageRule canvas).toList ++
        bracketed ('/' :: "style".toList)) ++
      bracketed ('/' :: "head".toList) ++ bracketed "body".toList ++ body.toList ++
      bracketed ('/' :: "body".toList) ++ bracketed ('/' :: "html".toList) := by
  have hlang : attributesChars [("lang", lang)] =
      " lang=\"".toList ++ (lang.toList.flatMap attributeChar ++ ['"']) := by
    simp [attributesChars]
  have hdoctype : "<!DOCTYPE html><html lang=\"".toList =
      bracketed "!DOCTYPE html".toList ++ '<' :: ("html".toList ++ " lang=\"".toList) := rfl
  have hhead : "\"><head><meta charset=\"utf-8\"><title>".toList = '"' :: '>' ::
      (bracketed "head".toList ++
        (bracketed ("meta".toList ++ attributesChars [("charset", "utf-8")]) ++
          bracketed "title".toList)) := rfl
  have hsheet : "</title><style>".toList =
      bracketed ('/' :: "title".toList) ++ bracketed "style".toList := rfl
  have hbody : ";overflow:hidden\x7d</style></head><body>".toList =
      ";overflow:hidden\x7d".toList ++ (bracketed ('/' :: "style".toList) ++
        (bracketed ('/' :: "head".toList) ++ bracketed "body".toList)) := rfl
  have hend : "</body></html>".toList =
      bracketed ('/' :: "body".toList) ++ bracketed ('/' :: "html".toList) := rfl
  have hbracketed (cs : List Char) : bracketed ("html".toList ++ cs) =
      '<' :: ("html".toList ++ (cs ++ ['>'])) := by
    rw [bracketed, List.append_assoc]
  rw [hbracketed, hlang]
  unfold page pageRule escapeAttribute escapeText
  simp only [String.toList_append, String.toList_ofList, hdoctype, hhead, hsheet, hbody, hend,
    List.append_assoc, List.cons_append, List.nil_append]

lemma embeds_page {lang title css : String} {canvas : Canvas} {body : String}
    (htagless : isTagless css = true)
    (hcss : ∀ rest, staysInner (css.toList ++ rest) = (allInner texts && staysInner rest))
    (hbody : Embeds body.toList texts') :
    Embeds (page lang title css canvas body).toList (texts ++ texts') := by
  have hdoctype : Embeds (bracketed "!DOCTYPE html".toList) [] :=
    embeds_unread (by decide) (by decide) rfl
  have hopening {tag : String} {as : List (String × String)} (h : ∀ a ∈ as, a.1 ∈ otherNames)
      (htag : isElementName tag = true) :
      Embeds (bracketed (tag.toList ++ attributesChars as)) [] := (refers_others h).opening htag
  have hhtml : Embeds (bracketed ("html".toList ++ attributesChars [("lang", lang)])) [] :=
    hopening (by simp [otherNames]) (by decide)
  have hhead : Embeds (bracketed ("head".toList ++ attributesChars [])) [] :=
    hopening (by simp) (by decide)
  have hmeta : Embeds (bracketed ("meta".toList ++ attributesChars [("charset", "utf-8")])) [] :=
    hopening (by simp [otherNames]) (by decide)
  have htitle : Embeds (bracketed ("title".toList ++ attributesChars [])) [] :=
    hopening (by simp) (by decide)
  have hsheet : Embeds (bracketed "style".toList ++ (css ++ pageRule canvas).toList ++
      bracketed ('/' :: "style".toList)) texts := by
    have hrule := isBare_pageRule canvas
    have hfree {c : Char} (hc : c = '<' ∨ c = '>') (hnone : c ∉ css.toList) :
        c ∉ (css ++ pageRule canvas).toList := by
      rw [String.toList_append, List.mem_append, not_or]
      exact ⟨hnone, bracket_notMem_of_isBare hrule hc⟩
    have hnone := isTagless_iff.1 htagless
    refine embeds_sheet (hfree (.inl rfl) hnone.1) (hfree (.inr rfl) hnone.2) ?_
    rw [String.toList_append, hcss, staysInner_of_isBare hrule, Bool.and_true]
  have hopen : Embeds (bracketed ("body".toList ++ attributesChars [])) [] :=
    hopening (by simp) (by decide)
  have hclosing (tag : String) (htag : isPlainName tag = true) :
      Embeds (bracketed ('/' :: tag.toList)) [] := embeds_closing htag
  have hfront := ((((((hdoctype.append hhtml).append hhead).append hmeta).append htitle).append
    (embeds_line title.toList)).append (hclosing "title" (by decide))).append hsheet
  have hback := (((hfront.append (hclosing "head" (by decide))).append hopen).append hbody).append
    ((hclosing "body" (by decide)).append (hclosing "html" (by decide)))
  have hnone : attributesChars [] = [] := rfl
  rw [toList_page]
  simpa only [hnone, List.append_assoc, List.append_nil, List.nil_append] using hback

end

variable {config : CompileConfig} {s : Schema} {r : FillRequest} {assets : AssetSource}
  {d : Document}

/-- The texts that the styles of a document take over. -/
def takenTexts (config : CompileConfig) (assets : AssetSource) (r : FillRequest)
    (nodes : List Node) : List String :=
  fontTexts assets config.fonts ++
    (Node.renderedIn nodes).flatMap (nodeTexts (valuesFor r nodes))

lemma embeds_html (hd : compile config s r assets = .ok d) (hcss : config.fontCss = none)
    (hfound : ∀ x ∈ d.diagnostics, x.kind ≠ .missingAsset)
    (hfonts : ∀ t ∈ fontTexts assets config.fonts, isTagless t = true) :
    ∃ nodes, s.nodesFor r.variant = .ok nodes ∧
      Embeds d.html.toList (takenTexts config assets r nodes) := by
  obtain ⟨nodes, palette, emitted, hnodes, hemitted, hhtml, hdiagnostics⟩ := exists_emitted hd
  have hfound' : ∀ x ∈ emitted.diagnostics, x.kind ≠ .missingAsset := fun x hx =>
    hfound x (hdiagnostics ▸ List.mem_append_left _ (List.mem_append_right _ hx))
  have hsheet : fontsCss config assets = (fontRules assets config.fonts).1 := by
    rw [fontsCss, hcss, Option.getD_none, String.append_empty]
  refine ⟨nodes, hnodes, ?_⟩
  rw [hhtml, hsheet, takenTexts]
  exact embeds_page (isTagless_fontRules hfonts) (staysInner_fontRules assets config.fonts)
    (embeds_body s (embeds_emitAll _ nodes hemitted hfound'))

/-- **When a document needs nothing from outside.** Let a document be compiled without a style sheet
of its own, without a missing asset and with fonts whose texts hold no tags. Cut at its angle
brackets, it has the data of all its images in it. Its style sheet and the styles of its elements
refer to nothing outside of it just when none of the texts does that they take over: the families,
styles and media types of the embedded fonts, the families of texts, the ids of masks, and the
colours of texts and backgrounds that no token or value stands for. -/
theorem selfContained_iff (hd : compile config s r assets = .ok d) (hcss : config.fontCss = none)
    (hfound : ∀ x ∈ d.diagnostics, x.kind ≠ .missingAsset)
    (hfonts : ∀ t ∈ fontTexts assets config.fonts, isTagless t = true) :
    ∃ nodes ps, s.nodesFor r.variant = .ok nodes ∧ cutPieces none d.html.toList = some ps ∧
      (∀ v ∈ sourcesOf ps, (v.after? "data:").isSome) ∧
      (SelfContained ps ↔ ∀ t ∈ takenTexts config assets r nodes, staysInner t.toList = true) := by
  obtain ⟨nodes, hnodes, ps, hcut, hholds⟩ := embeds_html hd hcss hfound hfonts
  refine ⟨nodes, ps, hnodes, hcut.pieces, hholds.sources, ?_⟩
  rw [hholds.inner_iff, allInner, List.all_eq_true]

/-- A canvas with an image on a background. -/
def cover (background : String) : Draft where
  id := "s"
  canvas := ⟨2, 1⟩
  version := .tree
  root := some (.container { id := "root" }
    (.frame { width := 2, height := 1, background := some (.literal background) })
    [.leaf { id := "photo" } (.image { src := "cover" })])

/-- The cover's image, and a font. -/
def coverAssets (key : String) : Option Asset :=
  if key = "cover" then some ⟨"image/png", [1, 2]⟩
  else if key = "inter" then some ⟨"font/woff2", [3]⟩
  else none

lemma cover_white_accepted : (cover "white").fault? [] = none := by decide +kernel

theorem selfContained_iff_cover :
    ∃ d ps, compile { fonts := [{ family := "Inter", asset := "inter" }] }
        ⟨cover "white", cover_white_accepted⟩ {} coverAssets = .ok d ∧
      cutPieces none d.html.toList = some ps ∧ SelfContained ps := by
  obtain ⟨d, hd, hsilent⟩ : ∃ d, compile { fonts := [{ family := "Inter", asset := "inter" }] }
      ⟨cover "white", cover_white_accepted⟩ {} coverAssets = .ok d ∧ d.diagnostics = [] :=
    ⟨_, rfl, by decide +kernel⟩
  have htagless : (fontTexts coverAssets [{ family := "Inter", asset := "inter" }]).all isTagless =
      true := by decide +kernel
  obtain ⟨nodes, ps, hnodes, hcut, -, hself⟩ :=
    selfContained_iff hd rfl (by simp [hsilent]) (List.all_eq_true.1 htagless)
  obtain rfl : (cover "white").top = nodes := Except.ok.inj hnodes
  have hinner : allInner (takenTexts { fonts := [{ family := "Inter", asset := "inter" }] }
      coverAssets {} (cover "white").top) = true := by decide +kernel
  exact ⟨d, ps, hd, hcut, hself.2 (List.all_eq_true.1 hinner)⟩

lemma cover_address_accepted :
    (cover "url(https://example.com/a.png)").fault? [] = none := by decide +kernel

/-- A background with an address is written as it stands: nothing is reported, and the document
refers to something outside of it. -/
theorem background_reaches_out :
    ∃ d ps, compile {} ⟨cover "url(https://example.com/a.png)", cover_address_accepted⟩ {}
        coverAssets = .ok d ∧
      d.diagnostics = [] ∧ cutPieces none d.html.toList = some ps ∧ ¬ SelfContained ps := by
  obtain ⟨d, hd, hsilent⟩ : ∃ d,
      compile {} ⟨cover "url(https://example.com/a.png)", cover_address_accepted⟩ {} coverAssets =
        .ok d ∧ d.diagnostics = [] := ⟨_, rfl, by decide +kernel⟩
  obtain ⟨nodes, hnodes, ps, hcut, hholds⟩ :=
    embeds_html hd rfl (by simp [hsilent]) (by simp [fontTexts])
  obtain rfl : (cover "url(https://example.com/a.png)").top = nodes := Except.ok.inj hnodes
  have houter : allInner (takenTexts {} coverAssets {}
      (cover "url(https://example.com/a.png)").top) = false := by decide +kernel
  refine ⟨d, ps, hd, hsilent, hcut.pieces, ?_⟩
  rw [hholds.inner_iff, houter]
  decide

end VisualTemplate.Document
