import VisualTemplate.Proofs.Markup.Collect
import VisualTemplate.Proofs.Markup.SelfContained
/-!
The pictures of a document.

An image has a reference: its value, if it is bound as an image and has one, or else the one that is
stored. So has a clipped image, unless it has neither. The picture is written with the reference if
it holds its data, with the data of the asset that it names, or, if no such asset is known, with the
reference again; just then it is reported.
-/

namespace VisualTemplate

/-! ### References -/

/-- The asset or address that a picture shows: the value that was found for it, or its own. -/
def Leaf.reference? (value : Option String) : Leaf → Option String
  | .image i => some (value.getD i.src)
  | .svg s => value.or s.image
  | _ => none

namespace Document

/-- The value of a node that is bound as an image. -/
def pictured? (values : Table Resolved) (h : Head) : Option Binding → Option String
  | some b => if b.kind = .image then (values.get? h.id).map (·.value) else none
  | none => none

/-- The reference is its own data. -/
def isData (reference : String) : Bool := (reference.after? "data:").isSome

/-- The address that a picture with the reference has. -/
def address (assets : AssetSource) (reference : String) : String :=
  if isData reference then reference else ((assets reference).map (·.dataUri)).getD reference

/-- The reference is neither its own data nor that of a known asset. -/
def isMissing (assets : AssetSource) (reference : String) : Bool :=
  !isData reference && (assets reference).isNone

/-- The picture of a node, with the node's id. -/
def picture? (values : Table Resolved) (assets : AssetSource) :
    Node → Option (Option String × String)
  | .container _ _ _ => none
  | .leaf h l => (l.reference? (pictured? values h l.binding)).map fun reference =>
      (some h.id, address assets reference)

/-- What is reported of the picture of a node. -/
def missing? (values : Table Resolved) (assets : AssetSource) : Node → Option Diagnostic
  | .container _ _ _ => none
  | .leaf h l => ((l.reference? (pictured? values h l.binding)).filter (isMissing assets)).map
      (.missingAsset · (some h.id))

lemma picture?_fst {values : Table Resolved} {assets : AssetSource} {n : Node}
    {p : Option String × String} (h : picture? values assets n = some p) : p.1 = some n.id := by
  cases n with
  | container h' l cs => cases h
  | leaf h' l =>
    obtain ⟨reference, -, rfl⟩ := Option.map_eq_some_iff.1 h
    rfl

section

variable {c : Context} {h : Head}

/-- An image shows its reference. -/
lemma imageReference_eq_getD (c : Context) (i : ImageLeaf) :
    imageReference c h i.binding i.src = (pictured? c.values h i.binding).getD i.src := by
  unfold imageReference valueOf
  cases i.binding with
  | none => rfl
  | some b =>
    cases hv : c.values.get? h.id <;> cases hk : b.kind <;> simp [pictured?, hv, hk]

/-- So does a clipped image, if it has one. -/
lemma svgReference?_eq_reference? (c : Context) (s : SvgLeaf) :
    svgReference? c h s = (Leaf.svg s).reference? (pictured? c.values h s.binding) := by
  unfold svgReference? imageReference valueOf
  rw [Leaf.reference?]
  cases s.binding with
  | none => cases s.image <;> rfl
  | some b =>
    cases s.image <;> cases hv : c.values.get? h.id <;> cases hk : b.kind <;>
      simp [pictured?, hv, hk]

/-- A reference is written with its address, and reported if it is missing. -/
lemma inlined_eq (reference : String) : inlined c h reference = (address c.assets reference,
    if isMissing c.assets reference then [.missingAsset reference (some h.id)] else []) := by
  unfold inlined address isMissing isData
  cases (reference.after? "data:").isSome with
  | true => rfl
  | false => cases c.assets reference <;> rfl

end

/-! ### Pictures in a text -/

/-- The addresses of images, each with the id of the nearest node that it belongs to. -/
def imageAddresses : Collector (Option String) (Option String × String) where
  take around name as _ := (sourcesIn name as).map ((as.lookup "data-node-id").or around, ·)
  within around _ as := some ((as.lookup "data-node-id").or around)

/-- Only two kinds of elements have addresses of images. -/
lemma sourcesIn_eq_nil {tag : String} (himg : tag ≠ "img") (himage : tag ≠ "image")
    (as : List (String × String)) : sourcesIn tag as = [] := by
  rw [sourcesIn, List.map_eq_nil_iff, List.filter_eq_nil_iff]
  intro a _
  simp [sourceNames, himg, himage]

/-- An element of another kind shows the pictures in it. -/
lemma imageAddresses_other {tag : String} (himg : tag ≠ "img") (himage : tag ≠ "image")
    (around : Option String) (as : List (String × String)) (vs : List View) :
    imageAddresses.collect around [.element tag as vs] =
      imageAddresses.collect ((as.lookup "data-node-id").or around) vs :=
  imageAddresses.collect_inside (List.map_eq_nil_iff.2 (sourcesIn_eq_nil himg himage as)) rfl

lemma imageAddresses_childless (around : Option String) (tag : String)
    (as : List (String × String)) : imageAddresses.collect around [.element tag as []] =
      (sourcesIn tag as).map ((as.lookup "data-node-id").or around, ·) :=
  imageAddresses.collect_childless ..

/-! ### Leaves -/

/-- The markup shows the pictures of the nodes wherever it stands, and those of them are reported
that are missing. -/
structure Portrays (values : Table Resolved) (assets : AssetSource) (ns : List Node)
    (e : Emitted) : Prop where
  pictures (around : Option String) :
    imageAddresses.collect around (allViews e.markup) = ns.filterMap (picture? values assets)
  missing : e.diagnostics.filter (·.kind == .missingAsset) = ns.filterMap (missing? values assets)

section

variable {c : Context} {h : Head} {e : Emitted}

lemma portrays_one {values : Table Resolved} {assets : AssetSource} {n : Node}
    (hpicture : ∀ around,
      imageAddresses.collect around (allViews e.markup) = (picture? values assets n).toList)
    (hmissing : e.diagnostics.filter (·.kind == .missingAsset) =
      (missing? values assets n).toList) : Portrays values assets [n] e := by
  have hone {β : Type} (f : Node → Option β) : [n].filterMap f = (f n).toList := by
    rw [List.filterMap_cons]
    cases f n <;> rfl
  exact ⟨fun around => (hpicture around).trans (hone _).symm, hmissing.trans (hone _).symm⟩

lemma portrays_textNode {t : TextLeaf} (he : textNode c h t = .ok e) :
    Portrays c.values c.assets [.leaf h (.text t)] e := by
  obtain ⟨color, -, he⟩ := Except.bind_eq_ok_iff.1 he
  rw [← Except.ok.inj he]
  refine portrays_one (fun around => ?_) (List.filter_eq_nil_iff.2 fun x hx => ?_)
  · rw [allViews_element, imageAddresses_other (by decide) (by decide),
      imageAddresses.collect_text rfl]
    rfl
  · obtain ⟨field, rfl⟩ := invalid_of_mem_filledText hx
    exact Bool.false_ne_true

/-- Nothing is reported of a picture but that it is missing. -/
lemma filter_inlined (reference : String) :
    (inlined c h reference).2.filter (·.kind == .missingAsset) =
      (((some reference).filter (isMissing c.assets)).map
        (Diagnostic.missingAsset · (some h.id))).toList := by
  rw [inlined_eq]
  cases hm : isMissing c.assets reference <;>
    simp [hm, Option.filter_some, Diagnostic.missingAsset]

lemma portrays_imageNode (i : ImageLeaf) :
    Portrays c.values c.assets [.leaf h (.image i)] (imageNode c h i) := by
  have hsources (src : String) (s : Style) : sourcesIn "img"
      ([("data-node-id", h.id), ("src", src), ("alt", "")] ++ styled s) = [src] := by
    unfold styled
    split <;> simp [sourcesIn, sourceNames]
  refine portrays_one (fun around => ?_) ?_
  · dsimp only [imageNode]
    rw [allViews_void, imageAddresses_childless, hsources, inlined_eq, imageReference_eq_getD]
    rfl
  · refine (filter_inlined _).trans ?_
    rw [imageReference_eq_getD]
    rfl

/-- A mask shows no picture. -/
lemma imageAddresses_maskMarkup (around : Option String) (m : Mask) :
    imageAddresses.collect around (allViews [maskMarkup h m]) = [] := by
  unfold maskMarkup
  rw [allViews_element, allViews_element, allViews_closed,
    imageAddresses_other (by decide) (by decide), imageAddresses_other (by decide) (by decide),
    imageAddresses_other (by decide) (by decide)]
  rfl

lemma imageAddresses_clippedImage (around : Option String) (s : SvgLeaf) (href : String) :
    imageAddresses.collect around (allViews [clippedImage s h href]) = [(around, href)] := by
  unfold clippedImage
  rw [allViews_closed, imageAddresses_childless]
  cases s.mask <;> simp +decide [sourcesIn, sourceNames, List.lookup]

lemma portrays_svgNode (s : SvgLeaf) :
    Portrays c.values c.assets [.leaf h (.svg s)] (svgNode c h s) := by
  have hmask (around : Option String) :
      imageAddresses.collect around (allViews (s.mask.map (maskMarkup h)).toList) = [] := by
    cases s.mask with
    | none => rfl
    | some m => exact imageAddresses_maskMarkup around m
  -- the mask and the image belong to the node of the `svg` element
  have hsvg (around : Option String) (image : List Markup) :
      imageAddresses.collect around (allViews [.element "svg"
        (svgAttributes h s.width s.height s.viewBox)
        ((s.mask.map (maskMarkup h)).toList ++ image)]) =
      imageAddresses.collect (some h.id) (allViews image) := by
    rw [allViews_element, imageAddresses_other (by decide) (by decide), allViews_append,
      imageAddresses.collect_append, hmask]
    rfl
  have hreference : (Leaf.svg s).reference? (pictured? c.values h (Leaf.svg s).binding) =
      svgReference? c h s := (svgReference?_eq_reference? c s).symm
  unfold svgNode
  cases hr : svgReference? c h s with
  | none =>
    refine portrays_one (fun around => (hsvg around []).trans ?_) ?_
    · rw [picture?, hreference, hr]
      rfl
    · rw [missing?, hreference, hr]
      rfl
  | some reference =>
    refine portrays_one (fun around => (hsvg around _).trans ?_)
      ((filter_inlined reference).trans ?_)
    · rw [imageAddresses_clippedImage, inlined_eq, picture?, hreference, hr]
      rfl
    · rw [missing?, hreference, hr]

lemma portrays_shapeNode {s : ShapeLeaf} (he : shapeNode c h s = .ok e) :
    Portrays c.values c.assets [.leaf h (.shape s)] e := by
  obtain ⟨fill, stroke, -, rfl⟩ := exists_painted he
  have houtline : (outlineMarkup s).1 ≠ "img" ∧ (outlineMarkup s).1 ≠ "image" := by
    unfold outlineMarkup
    cases s.shape <;> simp
  refine portrays_one (fun around => ?_) rfl
  rw [allViews_element, imageAddresses_other (by decide) (by decide), allViews_closed,
    imageAddresses_other houtline.1 houtline.2]
  rfl

lemma portrays_leafNode {l : Leaf} (he : leafNode c h l = .ok e) :
    Portrays c.values c.assets [.leaf h l] e := by
  cases l with
  | text t => exact portrays_textNode he
  | image i =>
    obtain rfl := Except.ok.inj he
    exact portrays_imageNode i
  | svg s =>
    obtain rfl := Except.ok.inj he
    exact portrays_svgNode s
  | shape s => exact portrays_shapeNode he

end

lemma compositional_portrays (c : Context) :
    Compositional c (Portrays c.values c.assets) where
  none := ⟨fun _ => rfl, rfl⟩
  append hfirst hrest := by
    refine ⟨fun around => ?_, ?_⟩
    · rw [List.filterMap_append, ← hfirst.pictures around, ← hrest.pictures around,
        ← imageAddresses.collect_append, ← allViews_append]
      rfl
    · rw [List.filterMap_append, ← hfirst.missing, ← hrest.missing, ← List.filter_append]
      rfl
  container {h _ _ _ _} _ hinner := by
    refine ⟨fun around => ?_, hinner.missing⟩
    rw [allViews_element, imageAddresses_other (by decide) (by decide), hinner.pictures]
    rfl
  leaf he := portrays_leafNode he

/-! ### Fonts -/

/-- The rule of a style sheet for a font: what it is called, and where its bytes are. -/
def faceRule (f : FontFace) (a : Asset) : String :=
  "@font-face\x7b" ++ ";".intercalate
    ["font-family:'" ++ withoutQuotes f.family ++ "'",
      "font-weight:" ++ toString f.weight.toNat,
      "font-style:" ++ f.style,
      "src:url(" ++ a.dataUri ++ ") format('" ++ fontFormat a.mime ++ "')"] ++ "\x7d"

/-- The rules for the fonts that are known, in order. -/
def faceRules (assets : AssetSource) (fs : List FontFace) : List String :=
  fs.filterMap fun f => (assets f.asset).map (faceRule f)

lemma fontRule_eq_faceRule (f : FontFace) (a : Asset) : fontRule f a = faceRule f a := by
  have hfront : "@font-face\x7bfont-family:'" = "@font-face\x7b" ++ "font-family:'" := by decide
  have hweight : "';font-weight:" = "'" ++ (";" ++ "font-weight:") := by decide
  have hstyle : ";font-style:" = ";" ++ "font-style:" := by decide
  have hsource : ";src:url(" = ";" ++ "src:url(" := by decide
  have hend : "')\x7d" = "')" ++ "\x7d" := by decide
  have hjoined (family weight style source : String) :
      ";".intercalate [family, weight, style, source] =
        family ++ ";" ++ weight ++ ";" ++ style ++ ";" ++ source := rfl
  unfold fontRule faceRule
  simp only [hfront, hweight, hstyle, hsource, hend, hjoined, String.append_assoc]

/-- There is a rule for each known font, in order, and each other one is reported. -/
lemma fontRules_eq (assets : AssetSource) (fs : List FontFace) : fontRules assets fs =
    (String.join (faceRules assets fs),
      (fs.filter fun f => (assets f.asset).isNone).map fun f => .missingAsset f.asset none) := by
  induction fs with
  | nil => rfl
  | cons f fs ih =>
    rw [fontRules, ih]
    cases hf : assets f.asset with
    | none => simp [faceRules, hf]
    | some a => simp [faceRules, hf, String.join_cons, fontRule_eq_faceRule]

/-! ### Compiled documents -/

/-- The text of a page whose style sheet begins with some rules. -/
lemma page_eq (lang title rules css : String) (canvas : Canvas) (body : String) :
    page lang title (rules ++ css) canvas body =
      "<!DOCTYPE html><html lang=\"" ++ escapeAttribute lang ++
        "\"><head><meta charset=\"utf-8\"><title>" ++ escapeText title ++ "</title><style>" ++
        rules ++ css ++ pageRule canvas ++ "</style></head><body>" ++ body ++ "</body></html>" := by
  have hend : ";overflow:hidden\x7d</style></head><body>" =
      ";overflow:hidden\x7d" ++ "</style></head><body>" := by decide
  unfold page pageRule
  rw [hend]
  simp only [String.append_assoc]

lemma pictures_body (s : Schema) (ms : List Markup) :
    imageAddresses.collect none (allViews (body s ms)) =
      imageAddresses.collect none (allViews ms) := by
  unfold body
  cases s.version with
  | tree => rfl
  | flat =>
    dsimp only
    rw [allViews_element]
    exact imageAddresses_other (by decide) (by decide) _ _ _

variable {config : CompileConfig} {s : Schema} {r : FillRequest} {assets : AssetSource}
  {d : Document}

/-- **References are written with their data or reported.** The body of a compiled document shows
one picture for each rendered image, and for each rendered clipped image that has an image or a
value for one, in pre-order and with the id of its node. Its address is the reference of the node if
that holds its data, else the data of the asset that the reference names, else the reference. The
references of the last case are reported as missing with the ids of their nodes, in pre-order, and
behind them the unknown keys of fonts, in order; no others are. The style sheet begins with the
rules of the known fonts, in order. -/
theorem references_inlined_or_reported (hd : compile config s r assets = .ok d) :
    ∃ nodes body views, s.nodesFor r.variant = .ok nodes ∧
      d.html = "<!DOCTYPE html><html lang=\"" ++ escapeAttribute config.lang ++
        "\"><head><meta charset=\"utf-8\"><title>" ++ escapeText s.title ++ "</title><style>" ++
        String.join (faceRules assets config.fonts) ++ config.fontCss.getD "" ++
        pageRule s.canvas ++ "</style></head><body>" ++ body ++ "</body></html>" ∧
      readMarkup body = some views ∧
      imageAddresses.collect none views =
        (Node.renderedIn nodes).filterMap (picture? (valuesFor r nodes) assets) ∧
      ((imageAddresses.collect none views).map Prod.fst).Nodup ∧
      d.diagnostics.filter (·.kind == .missingAsset) =
        (Node.renderedIn nodes).filterMap (missing? (valuesFor r nodes) assets) ++
          (config.fonts.filter fun f => (assets f.asset).isNone).map
            fun f => .missingAsset f.asset none := by
  obtain ⟨nodes, palette, emitted, hnodes, hemitted, hhtml, hdiagnostics⟩ := exists_emitted hd
  have hportrays := (compositional_portrays ⟨palette, valuesFor r nodes, assets⟩).emitAll nodes
    hemitted
  have hpictures : imageAddresses.collect none (allViews (body s emitted.markup)) =
      (Node.renderedIn nodes).filterMap (picture? (valuesFor r nodes) assets) :=
    (pictures_body s _).trans (hportrays.pictures none)
  rw [fontsCss, fontRules_eq, page_eq] at hhtml
  refine ⟨nodes, _, _, hnodes, hhtml, readMarkup_writeAll (draws_body s
    (draws_emitAll _ _ hemitted)).plain, hpictures, ?_, ?_⟩
  · have hids : ((Node.renderedIn nodes).map fun n => some n.id).Nodup := by
      have hsome := (Schema.rendered_nodup hnodes).map (Option.some_injective String)
      rwa [List.map_map] at hsome
    rw [hpictures]
    exact hids.sublist (sublist_map_filterMap (fun _ _ => picture?_fst) _)
  · have hresolution : (Resolution.ofNodes r.submission nodes).diagnostics.filter
        (·.kind == .missingAsset) = [] := by
      rw [List.filter_eq_nil_iff]
      intro x hx
      rw [Resolution.kind_of_mem_diagnostics (Schema.nodesFor_fields_parse hnodes) hx]
      decide
    rw [hdiagnostics, List.filter_append, List.filter_append, hresolution, hportrays.missing,
      List.nil_append, fontRules_eq, List.filter_map]
    congr 2
    exact List.filter_true _

/-- An image with a reference, bound to a field. -/
def pictureLeaf (src field : String) : Leaf :=
  .image { src, binding := some ⟨field, .image, none⟩ }

/-- Three images and a clipped image. -/
def pictureWall : Draft where
  id := "s"
  canvas := ⟨8, 4⟩
  version := .flat
  nodes := [.leaf { id := "hero" } (pictureLeaf "cover" "hero"),
    .leaf { id := "photo" } (.svg photoLeaf),
    .leaf { id := "cover" } (pictureLeaf "cover" "none"),
    .leaf { id := "lost" } (pictureLeaf "elsewhere" "none")]

lemma pictureWall_accepted : pictureWall.fault? [] = none := by decide +kernel

/-- A request with a value for one of the images. -/
def heroRequest : FillRequest where
  submission := { values := .ofList [("hero", .string "data:hero")] }

theorem references_inlined_or_reported_wall :
    ∃ d body views, compile { fonts := [{ family := "Inter", asset := "inter" },
          { family := "Lost", asset := "lost" }] }
        ⟨pictureWall, pictureWall_accepted⟩ heroRequest coverAssets = .ok d ∧
      d.html = "<!DOCTYPE html><html lang=\"en\"><head><meta charset=\"utf-8\"><title></title>" ++
        "<style>@font-face\x7bfont-family:'Inter';font-weight:400;font-style:normal;" ++
        "src:url(data:font/woff2;base64,Aw==) format('woff2')\x7d" ++
        "html,body\x7bmargin:0;padding:0;width:8px;height:4px;overflow:hidden\x7d</style>" ++
        "</head><body>" ++ body ++ "</body></html>" ∧
      readMarkup body = some views ∧
      imageAddresses.collect none views = [(some "hero", "data:hero"),
        (some "cover", "data:image/png;base64,AQI="), (some "lost", "elsewhere")] ∧
      d.diagnostics.filter (·.kind == .missingAsset) =
        [.missingAsset "elsewhere" "lost", .missingAsset "lost" none] := by
  obtain ⟨d, hd⟩ : ∃ d, compile { fonts := [{ family := "Inter", asset := "inter" },
      { family := "Lost", asset := "lost" }] } ⟨pictureWall, pictureWall_accepted⟩ heroRequest
      coverAssets = .ok d := ⟨_, rfl⟩
  obtain ⟨nodes, body, views, hnodes, hhtml, hread, hpictures, -, hmissing⟩ :=
    references_inlined_or_reported hd
  obtain rfl : pictureWall.top = nodes := Except.ok.inj hnodes
  refine ⟨d, body, views, hd, hhtml.trans ?_, hread, hpictures.trans ?_, hmissing.trans ?_⟩
  · exact congrArg (· ++ body ++ "</body></html>") (by decide +kernel)
  · decide +kernel
  · decide +kernel

end Document

end VisualTemplate
