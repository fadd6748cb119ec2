import VisualTemplate.Proofs.Fill.Numbering
import VisualTemplate.Proofs.Markup.Body
import VisualTemplate.Proofs.Node.Variants
/-!
What becomes of the submitted values.

A text makes something of every value that is found for it: it shows the value, takes its colour,
or reports that it cannot. A picture looks at values for images only. Bound as a text or a colour
it stays as it is without a binding, and nothing is reported.
-/

namespace VisualTemplate

namespace Leaf

/-- The leaf makes something of the values of a binding. -/
def Reads : Leaf → BindingKind → Prop
  | .text _, _ => True
  | .image _, kind => kind = .image
  | .svg _, kind => kind = .image
  | .shape _, _ => False

/-- The leaf without its binding. -/
def unbound : Leaf → Leaf
  | .text t => .text { t with binding := none }
  | .image i => .image { i with binding := none }
  | .svg s => .svg { s with binding := none }
  | .shape s => .shape s

end Leaf

/-! ### The values of the rendered nodes -/

namespace Schema

variable {s : Schema} {variant : Option String} {nodes : List Node}

lemma nodesFor_fields_parse (h : s.nodesFor variant = .ok nodes) :
    ∀ n ∈ Node.renderedIn nodes, ∀ b ∈ n.binding, (FieldPath.ofText? b.field).isSome := by
  intro n hn b hb
  have hmem : n.binding ∈ (Node.preorders nodes).map (·.binding) :=
    List.mem_map_of_mem ((Node.sublist_preorders nodes).subset hn)
  rw [map_nodesFor Variant.binding_applyTo h, List.mem_map] at hmem
  obtain ⟨m, hm, heq⟩ := hmem
  exact (Draft.fault?_eq_none.1 s.accepted).1.fields_parse m ((Node.mem_preorders_iff m _).1 hm) b
    (heq ▸ hb)

end Schema

namespace Resolution

lemma ofNodes_eq_foldl (s : Submission) {ns : List Node}
    (hparse : ∀ n ∈ Node.renderedIn ns, ∀ b ∈ n.binding, (FieldPath.ofText? b.field).isSome) :
    ofNodes s ns = (Occurrence.numbered [] (Occurrence.rendered ns)).foldl (record s) {} := by
  rw [ofNodes, foldl_step _ hparse counted_nil, Occurrence.rendered_eq]

/-- What a resolution reports is all of one kind. -/
lemma kind_of_mem_diagnostics {s : Submission} {ns : List Node}
    (hparse : ∀ n ∈ Node.renderedIn ns, ∀ b ∈ n.binding, (FieldPath.ofText? b.field).isSome)
    {x : Diagnostic} (hx : x ∈ (ofNodes s ns).diagnostics) : x.kind = .unresolvedBinding := by
  rw [ofNodes_eq_foldl s hparse, diagnostics_foldl, List.nil_append, List.mem_filterMap] at hx
  obtain ⟨o, -, ho⟩ := hx
  unfold reported? at ho
  split at ho
  · rw [← Option.some.inj ho]
    rfl
  · cases ho

end Resolution

namespace Document

/-! ### Where the markup of a node stands -/

mutual

/-- Markup and all inside it. -/
def Markup.parts : Markup → List Markup
  | .element tag as cs => .element tag as cs :: partsIn cs
  | .void tag as => [.void tag as]
  | .closed tag as => [.closed tag as]
  | .text content => [.text content]

def partsIn : List Markup → List Markup
  | [] => []
  | m :: ms => m.parts ++ partsIn ms

end

lemma Markup.mem_parts (m : Markup) : m ∈ m.parts := by
  cases m <;> exact List.mem_cons_self

lemma partsIn_append (ms ms' : List Markup) : partsIn (ms ++ ms') = partsIn ms ++ partsIn ms' := by
  induction ms with
  | nil => rfl
  | cons m ms ih => rw [List.cons_append, partsIn, partsIn, ih, List.append_assoc]

lemma mem_partsIn_of_mem {m : Markup} {ms : List Markup} (h : m ∈ ms) : m ∈ partsIn ms := by
  induction ms with
  | nil => exact absurd h List.not_mem_nil
  | cons m' ms ih =>
    rw [partsIn]
    rcases List.mem_cons.1 h with rfl | h
    · exact List.mem_append_left _ m.mem_parts
    · exact List.mem_append_right _ (ih h)

section

variable (c : Context)

/-- What is reported of a node itself. -/
def noted : Node → List Diagnostic
  | .container _ _ _ => []
  | .leaf h l =>
    match leafNode c h l with
    | .ok e => e.diagnostics
    | .error _ => []

variable {c}

lemma compositional_noted : Compositional c fun ns e => e.diagnostics = ns.flatMap (noted c) where
  none := rfl
  append h h' := by
    rw [List.flatMap_append, ← h, ← h']
    rfl
  container _ hinner := hinner
  leaf he := by rw [List.flatMap_singleton, noted, he]

/-- Nodes are reported one after another, the rendered ones. -/
lemma diagnostics_emitAll (ns : List Node) {e : Emitted} (he : emitAll c ns = .ok e) :
    e.diagnostics = (Node.renderedIn ns).flatMap (noted c) :=
  compositional_noted.emitAll ns he

variable {h : Head} {l : Leaf}

lemma compositional_parts : Compositional c fun ns e => .leaf h l ∈ ns →
    ∃ e', leafNode c h l = .ok e' ∧ e'.markup ⊆ partsIn e.markup where
  none hl := absurd hl List.not_mem_nil
  append hfirst hrest hl := by
    rw [Emitted.append, partsIn_append]
    rcases List.mem_append.1 hl with hl | hl
    · obtain ⟨e', he', hsub⟩ := hfirst hl
      exact ⟨e', he', List.Subset.trans hsub (List.subset_append_left ..)⟩
    · obtain ⟨e', he', hsub⟩ := hrest hl
      exact ⟨e', he', List.Subset.trans hsub (List.subset_append_right ..)⟩
  container _ hinner hl := by
    obtain ⟨e', he', hsub⟩ := hinner (by simpa using hl)
    refine ⟨e', he', fun m hm => ?_⟩
    rw [partsIn, Markup.parts]
    exact List.mem_append_left _ (List.mem_cons_of_mem _ (hsub hm))
  leaf he hl := by
    obtain ⟨rfl, rfl⟩ := Node.leaf.inj (List.mem_singleton.1 hl)
    exact ⟨_, he, fun _ => mem_partsIn_of_mem⟩

/-- The markup of a rendered leaf stands in that of the nodes. -/
lemma leafNode_of_emitAll (ns : List Node) (hl : .leaf h l ∈ Node.renderedIn ns) {e : Emitted}
    (he : emitAll c ns = .ok e) :
    ∃ e', leafNode c h l = .ok e' ∧ e'.markup ⊆ partsIn e.markup :=
  compositional_parts.emitAll ns he hl

/-! ### One leaf with its value -/

/-- The element of a node shows a value as the binding says: in its text, as its colour, or as the
address of its image. -/
inductive Uses (c : Context) (h : Head) (b : Binding) (value : String) : Leaf → Markup → Prop
  | content {t : TextLeaf} {as : List (String × String)} (kind : b.kind = .text)
      (own : ("data-node-id", h.id) ∈ as) :
      Uses c h b value (.text t) (.element "div" as [.text (applyText t.content b.placeholder value)])
  | color {t : TextLeaf} {k : Color} {style : Style} {ms : List Markup} (kind : b.kind = .color)
      (parsed : Color.ofText? value = some k) :
      Uses c h b value (.text t)
        (.element "div" (("data-node-id", h.id) :: styled (style ++ [("color", k.css)])) ms)
  | source {i : ImageLeaf} {as : List (String × String)} (kind : b.kind = .image)
      (own : ("data-node-id", h.id) ∈ as) (address : ("src", (inlined c h value).1) ∈ as) :
      Uses c h b value (.image i) (.void "img" as)
  | clipped {s : SvgLeaf} {as as' : List (String × String)} {ms : List Markup}
      (kind : b.kind = .image) (own : ("data-node-id", h.id) ∈ as)
      (address : ("href", (inlined c h value).1) ∈ as') (inside : .closed "image" as' ∈ ms) :
      Uses c h b value (.svg s) (.element "svg" as ms)

variable {b : Binding} {v : Resolved} {e : Emitted}

lemma valueOf_eq (hv : c.values.get? h.id = some v) (b : Binding) :
    valueOf c h (some b) = some (b, v) := by
  simp [valueOf, hv]

lemma textNode_reads {t : TextLeaf} (he : textNode c h t = .ok e) (hb : t.binding = some b)
    (hv : c.values.get? h.id = some v) :
    (∃ m ∈ e.markup, Uses c h b v.value (.text t) m) ∨
      .invalidValue v.field h.id ∈ e.diagnostics := by
  obtain ⟨color, -, he⟩ := Except.bind_eq_ok_iff.1 he
  rw [filledText, show valueOf c h t.binding = some (b, v) by rw [hb, valueOf_eq hv]] at he
  cases hkind : b.kind with
  | text =>
    simp only [hkind] at he
    rw [← Except.ok.inj he]
    exact .inl ⟨_, List.mem_cons_self, .content hkind List.mem_cons_self⟩
  | color =>
    cases hcolor : Color.ofText? v.value with
    | some k =>
      simp only [hkind, hcolor] at he
      rw [← Except.ok.inj he, show [("text-align", t.align.word), ("color", k.css)] =
        [("text-align", t.align.word)] ++ [("color", k.css)] from rfl, ← List.append_assoc]
      exact .inl ⟨_, List.mem_cons_self, .color hkind hcolor⟩
    | none =>
      simp only [hkind, hcolor] at he
      rw [← Except.ok.inj he]
      exact .inr List.mem_cons_self
  | image =>
    simp only [hkind] at he
    rw [← Except.ok.inj he]
    exact .inr List.mem_cons_self

lemma imageReference_eq (hv : c.values.get? h.id = some v) (hkind : b.kind = .image)
    (stored : String) : imageReference c h (some b) stored = v.value := by
  simp only [imageReference, valueOf_eq hv, hkind, if_true]

lemma imageNode_reads {i : ImageLeaf} (hb : i.binding = some b)
    (hv : c.values.get? h.id = some v) (hkind : b.kind = .image) :
    ∃ m ∈ (imageNode c h i).markup, Uses c h b v.value (.image i) m := by
  refine ⟨_, List.mem_cons_self, .source hkind List.mem_cons_self ?_⟩
  rw [hb, imageReference_eq hv hkind]
  exact List.mem_append_left _ (List.mem_cons_of_mem _ List.mem_cons_self)

lemma svgNode_reads {s : SvgLeaf} (hb : s.binding = some b)
    (hv : c.values.get? h.id = some v) (hkind : b.kind = .image) :
    ∃ m ∈ (svgNode c h s).markup, Uses c h b v.value (.svg s) m := by
  have hreference : svgReference? c h s = some v.value := by
    unfold svgReference?
    cases s.image with
    | some src => simp only [hb, imageReference_eq hv hkind]
    | none => simp only [hb, valueOf_eq hv, hkind, if_true]
  obtain ⟨as, himage⟩ : ∃ as, clippedImage s h (inlined c h v.value).1 =
      .closed "image" (("href", (inlined c h v.value).1) :: as) := ⟨_, rfl⟩
  have huses (ms : List Markup) (hms : clippedImage s h (inlined c h v.value).1 ∈ ms) :
      Uses c h b v.value (.svg s) (.element "svg" (svgAttributes h s.width s.height s.viewBox) ms) := by
    rw [himage] at hms
    exact .clipped hkind List.mem_cons_self List.mem_cons_self hms
  refine ⟨_, List.mem_cons_self, huses _ (List.mem_append_right _ ?_)⟩
  rw [hreference]
  exact List.mem_cons_self

/-- A leaf that reads its value shows it or reports it. -/
lemma leafNode_reads (he : leafNode c h l = .ok e) (hb : l.binding = some b)
    (hv : c.values.get? h.id = some v) (hreads : l.Reads b.kind) :
    (∃ m ∈ e.markup, Uses c h b v.value l m) ∨ .invalidValue v.field h.id ∈ e.diagnostics := by
  cases l with
  | text t => exact textNode_reads he hb hv
  | image i => exact .inl (Except.ok.inj he ▸ imageNode_reads hb hv hreads)
  | svg s => exact .inl (Except.ok.inj he ▸ svgNode_reads hb hv hreads)
  | shape s => cases hb

/-- A leaf that does not read its value is written as one without a binding. -/
lemma leafNode_unbound (hb : l.binding = some b) (hreads : ¬ l.Reads b.kind) :
    leafNode c h l.unbound = leafNode c h l := by
  cases l with
  | text t => exact absurd trivial hreads
  | image i =>
    have hreference : imageReference c h i.binding i.src = i.src := by
      rw [show i.binding = some b from hb, imageReference, valueOf]
      cases c.values.get? h.id with
      | none => rfl
      | some v => exact if_neg hreads
    simp only [leafNode, Leaf.unbound, imageNode, hreference]
    rfl
  | svg s =>
    have hreference : svgReference? c h s = s.image := by
      unfold svgReference? imageReference
      rw [show s.binding = some b from hb, valueOf]
      cases s.image <;> cases c.values.get? h.id <;> simp [show b.kind ≠ .image from hreads]
    simp only [leafNode, Leaf.unbound, svgNode, hreference]
    cases s.image <;> rfl
  | shape s => cases hb

/-! ### What is reported of a leaf -/

lemma kind_of_mem_inlined {reference : String} {x : Diagnostic}
    (hx : x ∈ (inlined c h reference).2) : x.kind = .missingAsset := by
  unfold inlined at hx
  split at hx
  · exact absurd hx List.not_mem_nil
  · split at hx
    · exact absurd hx List.not_mem_nil
    · rw [List.mem_singleton.1 hx]
      rfl

/-- A text reports nothing but values that do not suit it. -/
lemma invalid_of_mem_filledText {t : TextLeaf} {color : String} {x : Diagnostic}
    (hx : x ∈ (filledText c h t color).2.2) : ∃ field, x = .invalidValue field h.id := by
  unfold filledText at hx
  split at hx
  · exact absurd hx List.not_mem_nil
  · split at hx
    · exact absurd hx List.not_mem_nil
    · split at hx
      · exact absurd hx List.not_mem_nil
      · exact ⟨_, List.mem_singleton.1 hx⟩
    · exact ⟨_, List.mem_singleton.1 hx⟩

lemma diagnostics_shapeNode {s : ShapeLeaf} {e : Emitted} (he : shapeNode c h s = .ok e) :
    e.diagnostics = [] := by
  obtain ⟨fill, stroke, -, rfl⟩ := exists_painted he
  rfl

/-- Only a text reports that a value does not suit it. -/
lemma text_of_invalid_mem_noted {n : Node} {field id : String}
    (hx : .invalidValue field id ∈ noted c n) : ∃ h t, n = .leaf h (.text t) ∧ h.id = id := by
  cases n with
  | container h l cs => exact absurd hx List.not_mem_nil
  | leaf h l =>
    rw [noted] at hx
    cases he : leafNode c h l with
    | error e =>
      rw [he] at hx
      exact absurd hx List.not_mem_nil
    | ok e =>
      rw [he] at hx
      cases l with
      | text t =>
        obtain ⟨color, -, he⟩ := Except.bind_eq_ok_iff.1 he
        rw [← Except.ok.inj he] at hx
        obtain ⟨field', heq⟩ := invalid_of_mem_filledText hx
        exact ⟨h, t, rfl, (Option.some.inj (congrArg Diagnostic.nodeId heq)).symm⟩
      | image i =>
        rw [← Except.ok.inj he] at hx
        cases kind_of_mem_inlined hx
      | svg s =>
        rw [← Except.ok.inj he] at hx
        dsimp only [svgNode] at hx
        split at hx
        · cases kind_of_mem_inlined hx
        · exact absurd hx List.not_mem_nil
      | shape s =>
        dsimp only at hx
        rw [diagnostics_shapeNode he] at hx
        exact absurd hx List.not_mem_nil

end

lemma kind_of_mem_fontRules {assets : AssetSource} {fs : List FontFace} {x : Diagnostic}
    (hx : x ∈ (fontRules assets fs).2) : x.kind = .missingAsset := by
  induction fs with
  | nil => exact absurd hx List.not_mem_nil
  | cons f fs ih =>
    rw [fontRules] at hx
    cases hf : assets f.asset with
    | some a => exact ih (by simpa only [hf] using hx)
    | none =>
      rcases List.mem_cons.1 (by simpa only [hf] using hx) with rfl | hx
      · rfl
      · exact ih hx

/-! ### Compiled documents -/

section

variable {s : Schema} {r : FillRequest} {nodes : List Node} {h : Head} {l : Leaf} {b : Binding}

/-- A rendered bound leaf has its place among the occurrences, with a path. -/
lemma exists_path (hl : .leaf h l ∈ Node.renderedIn nodes) (hb : l.binding = some b) :
    ∃ path, (⟨h.id, b.field⟩, path) ∈ Occurrence.numbered [] (Occurrence.rendered nodes) := by
  have hoccurs : (⟨h.id, b.field⟩ : Occurrence) ∈ Occurrence.rendered nodes := by
    rw [Occurrence.rendered_eq, List.mem_filterMap]
    exact ⟨_, hl, Option.map_eq_some_iff.2 ⟨b, hb, rfl⟩⟩
  rw [← Occurrence.map_fst_numbered [] (Occurrence.rendered nodes), List.mem_map] at hoccurs
  obtain ⟨⟨o, path⟩, hpath, rfl⟩ := hoccurs
  exact ⟨path, hpath⟩

/-- The value that is found at the path of an occurrence is the value of its node. -/
lemma get?_valuesFor (hnodes : s.nodesFor r.variant = .ok nodes) {o : Occurrence}
    {path : FieldPath} (hpath : (o, path) ∈ Occurrence.numbered [] (Occurrence.rendered nodes))
    {value : String} {origin : Origin} (hvalue : r.submission.lookup path = some (value, origin)) :
    (valuesFor r nodes).get? o.nodeId = some ⟨path.text, value⟩ := by
  have hids := Occurrence.nodup_numbered (Schema.nodesFor_ids_nodup hnodes)
  rw [valuesFor, Resolution.ofNodes_eq_foldl _ (Schema.nodesFor_fields_parse hnodes),
    Resolution.get?_foldl hids hpath {} rfl, hvalue, Option.map_some]

/-- Of two rendered nodes with one id, both are the same. -/
lemma eq_of_mem_renderedIn (hnodes : s.nodesFor r.variant = .ok nodes) {n m : Node}
    (hn : n ∈ Node.renderedIn nodes) (hm : m ∈ Node.renderedIn nodes) (hid : n.id = m.id) :
    n = m :=
  List.inj_on_of_nodup_map (Schema.rendered_nodup hnodes) hn hm hid

/-- What is told of rendered nodes by their ids is told of each of them only once. -/
lemma nodup_map_filterMap (hnodes : s.nodesFor r.variant = .ok nodes) {α : Type}
    {f : Node → Option α} {name : α → Option String}
    (h : ∀ n a, f n = some a → name a = some n.id) :
    (((Node.renderedIn nodes).filterMap f).map name).Nodup := by
  have hids := (Schema.rendered_nodup hnodes).map (Option.some_injective String)
  rw [List.map_map] at hids
  exact hids.sublist (sublist_map_filterMap h _)

end

variable {config : CompileConfig} {s : Schema} {r : FillRequest} {assets : AssetSource}
  {d : Document}

/-- A document is made of the markup of its nodes. -/
lemma exists_emitted (hd : compile config s r assets = .ok d) :
    ∃ nodes palette emitted, s.nodesFor r.variant = .ok nodes ∧
      emitAll ⟨palette, valuesFor r nodes, assets⟩ nodes = .ok emitted ∧
      d.html = page config.lang s.title (fontsCss config assets) s.canvas
        (writeAll (body s emitted.markup)) ∧
      d.diagnostics = (Resolution.ofNodes r.submission nodes).diagnostics ++
        emitted.diagnostics ++ (fontRules assets config.fonts).2 := by
  obtain ⟨nodes, hnodes, hd⟩ := Except.bind_eq_ok_iff.1 hd
  obtain ⟨palette, -, hd⟩ := Except.bind_eq_ok_iff.1 hd
  obtain ⟨emitted, hemitted, hd⟩ := Except.bind_eq_ok_iff.1 hd
  refine ⟨nodes, palette, emitted, hnodes, hemitted, ?_, ?_⟩
  · rw [← Except.ok.inj hd]
    rfl
  · rw [← Except.ok.inj hd]

/-- **What becomes of a value.** Each rendered bound leaf of a compiled document has its path. If a
value is found there, a leaf that reads values of its binding uses it, or it is reported with the
path. A leaf that does not, which is an image or a clipped image bound as a text or as a colour, is
written as if it had no binding, and nothing is reported of its value. -/
theorem values_used_or_reported (hd : compile config s r assets = .ok d) :
    ∃ nodes ms c, s.nodesFor r.variant = .ok nodes ∧ c.assets = assets ∧
      d.html = page config.lang s.title (fontsCss config assets) s.canvas
        (writeAll (body s ms)) ∧
      ∀ h l b, .leaf h l ∈ Node.renderedIn nodes → l.binding = some b →
        ∃ path, (⟨h.id, b.field⟩, path) ∈ Occurrence.numbered [] (Occurrence.rendered nodes) ∧
          ∀ value origin, r.submission.lookup path = some (value, origin) →
            (l.Reads b.kind → (∃ m ∈ partsIn ms, Uses c h b value l m) ∨
              .invalidValue path.text h.id ∈ d.diagnostics) ∧
            (¬ l.Reads b.kind → (∃ e, leafNode c h l.unbound = .ok e ∧ e.markup ⊆ partsIn ms) ∧
              ∀ field, .invalidValue field h.id ∉ d.diagnostics) := by
  obtain ⟨nodes, palette, emitted, hnodes, hemitted, hhtml, hdiagnostics⟩ := exists_emitted hd
  refine ⟨nodes, emitted.markup, ⟨palette, valuesFor r nodes, assets⟩, hnodes, rfl, hhtml,
    fun h l b hl hb => ?_⟩
  obtain ⟨path, hpath⟩ := exists_path hl hb
  refine ⟨path, hpath, fun value origin hvalue => ?_⟩
  have hv := get?_valuesFor hnodes hpath hvalue
  obtain ⟨e, he, hparts⟩ := leafNode_of_emitAll nodes hl hemitted
  refine ⟨fun hreads => ?_, fun hunread => ⟨⟨e, ?_, hparts⟩, fun field hx => ?_⟩⟩
  · rcases leafNode_reads he hb hv hreads with ⟨m, hm, huses⟩ | hreported
    · exact .inl ⟨m, hparts hm, huses⟩
    · refine .inr ?_
      rw [hdiagnostics, diagnostics_emitAll nodes hemitted]
      refine List.mem_append_left _ (List.mem_append_right _ (List.mem_flatMap.2 ⟨_, hl, ?_⟩))
      rwa [noted, he]
  · rw [leafNode_unbound hb hunread, he]
  · -- a report of a value would be that of a text with the same id
    rw [hdiagnostics, diagnostics_emitAll nodes hemitted] at hx
    rcases List.mem_append.1 hx with hx | hx
    · rcases List.mem_append.1 hx with hx | hx
      · cases Resolution.kind_of_mem_diagnostics (Schema.nodesFor_fields_parse hnodes) hx
      · obtain ⟨n, hn, hx⟩ := List.mem_flatMap.1 hx
        obtain ⟨h', t, rfl, hid⟩ := text_of_invalid_mem_noted hx
        obtain ⟨-, rfl⟩ := Node.leaf.inj (eq_of_mem_renderedIn hnodes hl hn hid.symm)
        exact hunread trivial
    · cases kind_of_mem_fontRules hx

theorem values_used_or_reported_sample :
    ∃ d ms as, compile {} ⟨sample, sample_accepted⟩ twoLines (fun _ => none) = .ok d ∧
      d.html = page "en" "" "" ⟨2, 1⟩ (writeAll (body ⟨sample, sample_accepted⟩ ms)) ∧
      .element "div" as [.text "a < b\r\nc"] ∈ partsIn ms := by
  obtain ⟨d, hd, hsilent⟩ : ∃ d,
      compile {} ⟨sample, sample_accepted⟩ twoLines (fun _ => none) = .ok d ∧
        d.diagnostics = [] := ⟨_, rfl, by decide +kernel⟩
  obtain ⟨nodes, ms, c, hnodes, -, hhtml, hleaves⟩ := values_used_or_reported hd
  obtain rfl : sample.top = nodes := Except.ok.inj hnodes
  obtain ⟨path, hpath, hvalues⟩ := hleaves { id := "title" }
    (.text { content := "Title", binding := some ⟨"title", .text, none⟩ }) _
    (by simp [sample, Draft.top, Node.renderedIn, Node.rendered]) rfl
  obtain rfl : path = ⟨[.key "title"]⟩ := by
    have hnumbered : Occurrence.numbered [] (Occurrence.rendered sample.top) =
        [(⟨"title", "title"⟩, ⟨[.key "title"]⟩)] := by decide +kernel
    rw [hnumbered] at hpath
    exact (Prod.mk.inj (List.mem_singleton.1 hpath)).2
  have hvalue : twoLines.submission.lookup ⟨[.key "title"]⟩ = some ("a < b\r\nc", .literal) := by
    decide +kernel
  rcases (hvalues _ _ hvalue).1 trivial with ⟨m, hm, huses⟩ | hreported
  · cases huses with
    | content kind own => exact ⟨d, ms, _, hd, hhtml, hm⟩
    | color kind parsed => cases kind
  · rw [hsilent] at hreported
    exact absurd hreported List.not_mem_nil

/-- An image that is bound as a text. -/
def captionedLeaf : ImageLeaf where
  src := "data:a"
  binding := some ⟨"photo", .text, none⟩

def captionedSchema : Schema :=
  ⟨{ id := "s", canvas := ⟨1, 1⟩, version := .flat,
     nodes := [.leaf { id := "photo" } (.image captionedLeaf)] }, by decide +kernel⟩

def captionedMarkup : List Markup :=
  [.void "img" ([("data-node-id", "photo"), ("src", "data:a"), ("alt", "")] ++
    styled [("object-fit", "cover"), ("display", "block")])]

lemma emitAll_captioned (c : Context) :
    emitAll c captionedSchema.top = .ok ⟨captionedMarkup, []⟩ := by
  have hnode : imageNode c { id := "photo" } captionedLeaf = ⟨captionedMarkup, []⟩ := by
    have hreference : imageReference c { id := "photo" } captionedLeaf.binding "data:a" =
        "data:a" := by
      rw [captionedLeaf, imageReference, valueOf]
      cases c.values.get? "photo" <;> rfl
    have hinlined : inlined c { id := "photo" } "data:a" = ("data:a", []) :=
      if_pos (by decide +kernel)
    rw [imageNode, show captionedLeaf.src = "data:a" from rfl, hreference, hinlined]
    rfl
  show Except.ok ((imageNode c { id := "photo" } captionedLeaf).append .none) = _
  rw [hnode]
  rfl

/-- A value for an image that is bound as a text is found, and lost: the markup is the one without
a value, and nothing is reported. -/
theorem captioned_value_lost :
    ∃ d d', compile {} captionedSchema (photoRequest "data:b") (fun _ => none) = .ok d ∧
      compile {} captionedSchema {} (fun _ => none) = .ok d' ∧
      Occurrence.numbered [] (Occurrence.rendered captionedSchema.top) =
        [(⟨"photo", "photo"⟩, ⟨[.key "photo"]⟩)] ∧
      (photoRequest "data:b").submission.lookup ⟨[.key "photo"]⟩ = some ("data:b", .literal) ∧
      d.html = d'.html ∧ d.diagnostics = [] ∧
      d'.diagnostics = [.unresolved "photo" "photo"] := by
  obtain ⟨d, hd, hsilent⟩ : ∃ d,
      compile {} captionedSchema (photoRequest "data:b") (fun _ => none) = .ok d ∧
        d.diagnostics = [] := ⟨_, rfl, by decide +kernel⟩
  obtain ⟨d', hd', hreported⟩ : ∃ d, compile {} captionedSchema {} (fun _ => none) = .ok d ∧
      d.diagnostics = [.unresolved "photo" "photo"] := ⟨_, rfl, by decide +kernel⟩
  have hhtml {r : FillRequest} {d : Document} (hr : r.variant = none)
      (hd : compile {} captionedSchema r (fun _ => none) = .ok d) :
      d.html = page "en" "" "" ⟨1, 1⟩ (writeAll (body captionedSchema captionedMarkup)) := by
    obtain ⟨nodes, palette, emitted, hnodes, hemitted, hhtml, -⟩ := exists_emitted hd
    rw [hr] at hnodes
    obtain rfl : captionedSchema.top = nodes := Except.ok.inj hnodes
    rw [emitAll_captioned] at hemitted
    rw [hhtml, ← Except.ok.inj hemitted]
    rfl
  refine ⟨d, d', hd, hd', ?_, ?_, (hhtml rfl hd).trans (hhtml rfl hd').symm, hsilent, hreported⟩
  · decide +kernel
  · decide +kernel

end Document

end VisualTemplate
