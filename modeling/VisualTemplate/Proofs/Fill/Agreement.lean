import VisualTemplate.Proofs.Json.Records
import VisualTemplate.Proofs.Markup.Failure
import VisualTemplate.Proofs.Markup.Pictures
/-!
What a fill looks at.

Of the data a fill looks at the paths of the rendered bound nodes, of the replacements at those of
the stored tokens that rendered colours are derived from, and of the assets at those that rendered
pictures and the fonts name. Fills that agree on these give the same document or the same error.
-/

namespace VisualTemplate

/-- The colour of a stored token: that of its replacement, or else of its default. -/
def Tokens.colorUnder? (ts : Tokens) (overrides : Table String) (name : String) : Option Color :=
  ((overrides.get? name).or ((ts.get? name).bind (·.default_))).bind Color.ofText?

namespace Document

/-- Two fills of a schema with the same nodes agree on all that these nodes and the fonts look
at. -/
structure Agree (config : CompileConfig) (s : Schema) (nodes : List Node) (r r' : FillRequest)
    (assets assets' : AssetSource) : Prop where
  values : ∀ o path, (o, path) ∈ Occurrence.numbered [] (Occurrence.rendered nodes) →
    (r.submission.lookup path).map (·.1) = (r'.submission.lookup path).map (·.1)
  colors : ∀ n ∈ Node.renderedIn nodes, ∀ name, .token name ∈ n.paints →
    ∀ stored, Relation.ReflTransGen s.tokens.DerivesFrom name stored →
      s.tokens.sourceOf? stored = none →
      s.tokens.colorUnder? r.tokens stored = s.tokens.colorUnder? r'.tokens stored
  pictures : ∀ h l, .leaf h l ∈ Node.renderedIn nodes →
    ∀ reference, l.reference? (pictured? (valuesFor r nodes) h l.binding) = some reference →
      (reference.after? "data:").isNone → assets reference = assets' reference
  fonts : ∀ f ∈ config.fonts, assets f.asset = assets' f.asset

end Document

/-! ### Values -/

namespace Resolution

variable {s s' : Submission}

lemma record_congr {o : Occurrence × FieldPath}
    (h : (s.lookup o.2).map (·.1) = (s'.lookup o.2).map (·.1)) (r : Resolution) :
    record s r o = record s' r o := by
  unfold record
  cases hs : s.lookup o.2 <;> cases hs' : s'.lookup o.2 <;> simp_all

lemma foldl_record_congr {os : List (Occurrence × FieldPath)}
    (h : ∀ o ∈ os, (s.lookup o.2).map (·.1) = (s'.lookup o.2).map (·.1)) (r : Resolution) :
    os.foldl (record s) r = os.foldl (record s') r := by
  induction os generalizing r with
  | nil => rfl
  | cons o os ih =>
    rw [List.foldl_cons, List.foldl_cons, record_congr (h o List.mem_cons_self),
      ih fun x hx => h x (List.mem_cons_of_mem _ hx)]

/-- The values of two submissions are the same if what is found at the paths is. -/
lemma ofNodes_congr {ns : List Node}
    (hparse : ∀ n ∈ Node.renderedIn ns, ∀ b ∈ n.binding, (FieldPath.ofText? b.field).isSome)
    (h : ∀ o path, (o, path) ∈ Occurrence.numbered [] (Occurrence.rendered ns) →
      (s.lookup path).map (·.1) = (s'.lookup path).map (·.1)) :
    ofNodes s ns = ofNodes s' ns := by
  rw [ofNodes_eq_foldl s hparse, ofNodes_eq_foldl s' hparse]
  exact foldl_record_congr (fun o ho => h o.1 o.2 ho) _

end Resolution

/-! ### Colours -/

namespace Palette

variable {ts : Tokens} {overrides overrides' : Table String} {p p' : Palette} {name : String}

/-- Replacements that are allowed are the colours of their texts. -/
lemma replacements_eq_ok {es : List (String × String)} {cs : List (String × Color)}
    (h : replacements ts es = .ok cs) : cs.map Prod.fst = es.map Prod.fst ∧
      ∀ name, cs.lookup name = (es.lookup name).bind Color.ofText? := by
  induction es generalizing cs with
  | nil =>
    rw [← Except.ok.inj h]
    exact ⟨rfl, fun name => rfl⟩
  | cons e es ih =>
    obtain ⟨name, text⟩ := e
    obtain ⟨c, hc, h⟩ := Except.bind_eq_ok_iff.1 h
    obtain ⟨rest, hrest, h⟩ := Except.bind_eq_ok_iff.1 h
    obtain ⟨hnames, hcolors⟩ := ih hrest
    have htext : Color.ofText? text = some c := by
      unfold replacement at hc
      split at hc
      · cases hc
      · split at hc
        · cases hc
        · unfold Color.ofText at hc
          split at hc
          · next hcolor => rw [hcolor, Except.ok.inj hc]
          · cases hc
    rw [← Except.ok.inj h]
    refine ⟨by rw [List.map_cons, List.map_cons, hnames], fun other => ?_⟩
    rw [List.lookup_cons, List.lookup_cons]
    cases other == name with
    | true => simp only [Option.bind_some, htext]
    | false => exact hcolors other

/-- What replaces a token is the colour of the text that the request has for it. -/
lemma get?_replaced (h : ofTokens ts overrides = .ok p) (name : String) :
    p.replaced.get? name = (overrides.get? name).bind Color.ofText? := by
  obtain ⟨cs, hcs, hp⟩ := Except.bind_eq_ok_iff.1 h
  obtain ⟨hnames, hcolors⟩ := replacements_eq_ok hcs
  have hsorted : cs.Pairwise (·.1 < ·.1) := by
    rw [← List.pairwise_map (f := Prod.fst), hnames, List.pairwise_map]
    exact overrides.sorted
  rw [← Except.ok.inj hp]
  exact (congrArg (Table.get? · name) (Table.ofList_entries ⟨cs, hsorted⟩)).trans (hcolors name)

/-- The colour of a stored token, or the error without one. -/
lemma resolveWithin_stored (h : ofTokens ts overrides = .ok p) {t : Token}
    (ht : ts.get? name = some t) (hstored : t.derivation = none) (n : ℕ) :
    p.resolveWithin (n + 1) name =
      match ts.colorUnder? overrides name with
      | some c => .ok c
      | none => match t.default_ with
        | some text => .error (.invalidColor text.trimmed)
        | none => .error (.tokenWithoutValue name) := by
  have hreplaced : ∀ text, overrides.get? name = some text → (Color.ofText? text).isSome := by
    intro text htext
    have hall : failure? (ofTokens ts overrides) = _ := Palette.failure?_ofTokens overrides
    rw [h, failure?_ok, eq_comm, List.findSome?_eq_none_iff] at hall
    have hname := hall (name, text) (Table.mem_entries_iff.2 htext)
    rw [failure?_eq_none, replacement_eq_ok] at hname
    obtain ⟨-, -, -, -, hcolor⟩ := hname
    exact hcolor
  have htokens := tokens_of_ofTokens h
  rw [resolveWithin, htokens, get?_replaced h, Tokens.colorUnder?]
  simp only [ht, hstored, Option.bind_some]
  cases ho : overrides.get? name with
  | some text =>
    obtain ⟨c, hc⟩ := Option.isSome_iff_exists.1 (hreplaced text ho)
    simp [hc]
  | none =>
    cases hd : t.default_ with
    | none => simp
    | some text => cases hc : Color.ofText? text <;> simp [Color.ofText, hc]

/-- Colours are the same if those of the stored tokens are that they are derived from. -/
lemma resolveWithin_congr (h : ofTokens ts overrides = .ok p) (h' : ofTokens ts overrides' = .ok p')
    (n : ℕ) (hstored : ∀ stored, Relation.ReflTransGen ts.DerivesFrom name stored →
      ts.sourceOf? stored = none →
      ts.colorUnder? overrides stored = ts.colorUnder? overrides' stored) :
    p.resolveWithin n name = p'.resolveWithin n name := by
  have htokens := tokens_of_ofTokens h
  have htokens' := tokens_of_ofTokens h'
  induction n generalizing name with
  | zero => rfl
  | succ n ih =>
    cases ht : ts.get? name with
    | none => simp only [resolveWithin, htokens, htokens', ht]
    | some t =>
      cases hd : t.derivation with
      | none =>
        have hsource : ts.sourceOf? name = none := by simp [Tokens.sourceOf?, ht, hd]
        rw [resolveWithin_stored h ht hd, resolveWithin_stored h' ht hd,
          hstored name .refl hsource]
      | some d =>
        obtain ⟨source, percent⟩ := d
        have hstep : ts.DerivesFrom name source := by
          simp [Tokens.DerivesFrom, Tokens.sourceOf?, ht, hd, Derivation.source]
        simp only [resolveWithin, htokens, htokens', ht, hd]
        rw [ih fun stored hreach => hstored stored (.head hstep hreach)]

lemma css_congr (h : ofTokens ts overrides = .ok p) (h' : ofTokens ts overrides' = .ok p')
    {paint : Paint} (hstored : ∀ name, paint = .token name → ∀ stored,
      Relation.ReflTransGen ts.DerivesFrom name stored → ts.sourceOf? stored = none →
      ts.colorUnder? overrides stored = ts.colorUnder? overrides' stored) :
    p.css paint = p'.css paint := by
  cases paint with
  | literal text => rfl
  | token name =>
    rw [css, css, resolve, resolve, tokens_of_ofTokens h, tokens_of_ofTokens h',
      resolveWithin_congr h h' _ (hstored name rfl)]

end Palette

namespace Document

/-! ### Nodes -/

section

variable {p p' : Palette} {values : Table Resolved} {assets assets' : AssetSource} {h : Head}

lemma background_congr {paint : Option Paint} (hcss : ∀ x ∈ paint, p.css x = p'.css x) :
    background p paint = background p' paint := by
  cases paint with
  | none => rfl
  | some x => rw [background, background, hcss x rfl]

lemma layoutStyle_congr {l : Layout} (hcss : ∀ x ∈ l.paints, p.css x = p'.css x) :
    layoutStyle p h l = layoutStyle p' h l := by
  cases l <;>
    rw [layoutStyle, layoutStyle, background_congr fun x hx => hcss x (Option.mem_toList.2 hx)]

lemma shapeNode_congr {s : ShapeLeaf} (hcss : ∀ x ∈ (Leaf.shape s).paints, p.css x = p'.css x) :
    shapeNode ⟨p, values, assets⟩ h s = shapeNode ⟨p', values, assets'⟩ h s := by
  have hfill : ∀ x, s.fill = some x → p.css x = p'.css x := fun x hx =>
    hcss x (List.mem_append_left _ (by simp [hx]))
  have hstroke : ∀ st, s.stroke = some st → p.css st.color = p'.css st.color := fun st hst =>
    hcss st.color (List.mem_append_right _ (by simp [hst]))
  unfold shapeNode
  cases hf : s.fill with
  | none =>
    cases hs : s.stroke with
    | none => rfl
    | some st => simp only [hstroke st hs]
  | some x =>
    cases hs : s.stroke with
    | none => simp only [hfill x hf]
    | some st => simp only [hfill x hf, hstroke st hs]

lemma inlined_congr {reference : String}
    (hassets : (reference.after? "data:").isNone → assets reference = assets' reference) :
    inlined ⟨p, values, assets⟩ h reference = inlined ⟨p', values, assets'⟩ h reference := by
  unfold inlined
  split
  · rfl
  · next hdata => simp only [hassets (by simpa using hdata)]

lemma leafNode_congr {l : Leaf} (hcss : ∀ x ∈ l.paints, p.css x = p'.css x)
    (hassets : ∀ reference, l.reference? (pictured? values h l.binding) = some reference →
      (reference.after? "data:").isNone → assets reference = assets' reference) :
    leafNode ⟨p, values, assets⟩ h l = leafNode ⟨p', values, assets'⟩ h l := by
  cases l with
  | text t =>
    rw [leafNode, leafNode, textNode, textNode, hcss t.color List.mem_cons_self]
    rfl
  | image i =>
    have hinlined : inlined ⟨p, values, assets⟩ h _ = inlined ⟨p', values, assets'⟩ h _ :=
      inlined_congr (hassets ((pictured? values h i.binding).getD i.src) rfl)
    simp only [leafNode, imageNode, imageReference_eq_getD, hinlined]
  | svg s =>
    rw [leafNode, leafNode, svgNode, svgNode, svgReference?_eq_reference?,
      svgReference?_eq_reference?]
    dsimp only
    cases hr : (Leaf.svg s).reference? (pictured? values h s.binding) with
    | none => rfl
    | some reference =>
      have hinlined : inlined ⟨p, values, assets⟩ h _ = inlined ⟨p', values, assets'⟩ h _ :=
        inlined_congr (hassets reference hr)
      simp only [hinlined]
  | shape s => exact shapeNode_congr hcss

mutual

lemma emit_congr (n : Node) (hcss : ∀ m ∈ n.rendered, ∀ x ∈ m.paints, p.css x = p'.css x)
    (hassets : ∀ h l, .leaf h l ∈ n.rendered → ∀ reference,
      l.reference? (pictured? values h l.binding) = some reference →
      (reference.after? "data:").isNone → assets reference = assets' reference) :
    emit ⟨p, values, assets⟩ n = emit ⟨p', values, assets'⟩ n := by
  match n with
  | .container h l cs =>
    rw [Node.rendered] at hcss hassets
    rw [emit, emit]
    split
    · next hv =>
      rw [if_pos hv] at hcss hassets
      rw [List.forall_mem_cons] at hcss
      rw [layoutStyle_congr hcss.1, emitAll_congr cs hcss.2 fun h' l' hl =>
        hassets h' l' (List.mem_cons_of_mem _ hl)]
    · rfl
  | .leaf h l =>
    rw [Node.rendered] at hcss hassets
    rw [emit, emit]
    split
    · next hv =>
      rw [if_pos hv] at hcss hassets
      exact leafNode_congr (hcss _ List.mem_cons_self) (hassets h l List.mem_cons_self)
    · rfl

/-- Nodes are written alike if the rendered ones find the same colours and assets. -/
lemma emitAll_congr (ns : List Node)
    (hcss : ∀ m ∈ Node.renderedIn ns, ∀ x ∈ m.paints, p.css x = p'.css x)
    (hassets : ∀ h l, .leaf h l ∈ Node.renderedIn ns → ∀ reference,
      l.reference? (pictured? values h l.binding) = some reference →
      (reference.after? "data:").isNone → assets reference = assets' reference) :
    emitAll ⟨p, values, assets⟩ ns = emitAll ⟨p', values, assets'⟩ ns := by
  match ns with
  | [] => rfl
  | n :: ns =>
    rw [Node.renderedIn] at hcss hassets
    rw [List.forall_mem_append] at hcss
    rw [emitAll, emitAll,
      emit_congr n hcss.1 fun h l hl => hassets h l (List.mem_append_left _ hl),
      emitAll_congr ns hcss.2 fun h l hl => hassets h l (List.mem_append_right _ hl)]

end

end

lemma fontRules_congr {assets assets' : AssetSource} {fs : List FontFace}
    (h : ∀ f ∈ fs, assets f.asset = assets' f.asset) :
    fontRules assets fs = fontRules assets' fs := by
  induction fs with
  | nil => rfl
  | cons f fs ih =>
    rw [List.forall_mem_cons] at h
    rw [fontRules, fontRules, h.1, ih h.2]

/-! ### Documents -/

variable {config : CompileConfig} {s : Schema} {r r' : FillRequest} {assets assets' : AssetSource}

/-- **Only what the rendered nodes refer to counts.** Two requests for one variant of a schema, with
replacements that are allowed, give the same document or the same error if they agree on the values
at the paths of the rendered bound nodes, on the colours of the stored tokens that rendered colours
are derived from, and on the assets of rendered pictures and of the fonts. -/
theorem compile_eq_of_agree (hvariant : r.variant = r'.variant)
    (hr : ∃ p, Palette.ofTokens s.tokens r.tokens = .ok p)
    (hr' : ∃ p, Palette.ofTokens s.tokens r'.tokens = .ok p)
    (hagree : ∀ nodes, s.nodesFor r.variant = .ok nodes →
      Agree config s nodes r r' assets assets') :
    compile config s r assets = compile config s r' assets' := by
  obtain ⟨p, hp⟩ := hr
  obtain ⟨p', hp'⟩ := hr'
  unfold compile
  rw [← hvariant]
  cases hnodes : s.nodesFor r.variant with
  | error e => rfl
  | ok nodes =>
    have hsame := hagree nodes hnodes
    have hvalues := Resolution.ofNodes_congr (Schema.nodesFor_fields_parse hnodes) hsame.values
    have hemit : emitAll ⟨p, valuesFor r nodes, assets⟩ nodes =
        emitAll ⟨p', valuesFor r nodes, assets'⟩ nodes := by
      refine emitAll_congr nodes (fun n hn x hx => Palette.css_congr hp hp' ?_) hsame.pictures
      rintro name rfl
      exact hsame.colors n hn name hx
    rw [valuesFor] at hemit
    simp only [bind, Except.bind, hp, hp', ← hvalues, hemit, fontRules_congr hsame.fonts]

/-- A frame in a derived colour around the name of the first of some people and a picture. No node
is in the accent colour. -/
def badge : Draft where
  id := "s"
  canvas := ⟨2, 1⟩
  version := .tree
  root := some (.container { id := "root" }
    (.frame { width := 2, height := 1, background := some (.token "light") })
    [.leaf { id := "name" }
        (.text { content := "Name", binding := some ⟨"people[].name", .text, none⟩ }),
      .leaf { id := "logo" } (.image { src := "logo" })])
  tokens := .ofList [("accent", .ofEditable "#445566"), ("light", .ofLighten "primary" 10),
    ("primary", .ofEditable "#112233")]

def badgeSchema : Schema := ⟨badge, by decide +kernel⟩

/-- A request for one person. -/
def oneGuest : FillRequest where
  submission := { values := .ofList [("people", .array [.object [("name", .string "Ada")]])] }

/-- The same with a second person, a note and another accent colour. -/
def twoGuests : FillRequest where
  submission := { values := .ofList [("note", .string "Late"),
    ("people", .array [.object [("name", .string "Ada")], .object [("name", .string "Bob")]])] }
  tokens := .ofList [("accent", "#fff")]

/-- An asset for every key but that of the logo. -/
def spareAssets : AssetSource := fun key => if key = "logo" then none else some (.ofBytes [])

lemma reached_badge {stored : String}
    (h : Relation.ReflTransGen badgeSchema.tokens.DerivesFrom "light" stored) :
    stored = "light" ∨ stored = "primary" := by
  have hlight : badgeSchema.tokens.sourceOf? "light" = some "primary" := by decide +kernel
  have hprimary : badgeSchema.tokens.sourceOf? "primary" = none := by decide +kernel
  rcases h.cases_head with rfl | ⟨source, hstep, h⟩
  · exact .inl rfl
  · obtain rfl : "primary" = source := Option.some.inj (hlight.symm.trans hstep)
    rcases h.cases_head with rfl | ⟨source, hstep, -⟩
    · exact .inr rfl
    · cases hprimary.symm.trans hstep

lemma agree_badge :
    Agree {} badgeSchema badgeSchema.top oneGuest twoGuests (fun _ => none) spareAssets where
  values := by
    have hnumbered : Occurrence.numbered [] (Occurrence.rendered badgeSchema.top) =
        [(⟨"name", "people[].name"⟩, ⟨[.key "people", .index 0, .key "name"]⟩)] := by
      decide +kernel
    intro o path hpath
    rw [hnumbered] at hpath
    obtain ⟨-, rfl⟩ := Prod.mk.inj (List.mem_singleton.1 hpath)
    decide +kernel
  colors := by
    have hpaints : ∀ n ∈ Node.renderedIn badgeSchema.top, ∀ name, .token name ∈ n.paints →
        name = "light" := by
      simp [Schema.top, badgeSchema, badge, Draft.top, Node.renderedIn, Node.rendered, Node.paints,
        Leaf.paints, Layout.paints, Paint.black]
    have hsame : ∀ stored ∈ ["light", "primary"],
        badgeSchema.tokens.colorUnder? oneGuest.tokens stored =
          badgeSchema.tokens.colorUnder? twoGuests.tokens stored := by decide +kernel
    intro n hn name hname stored hreach _
    obtain rfl := hpaints n hn name hname
    exact hsame stored (by simpa using reached_badge hreach)
  pictures := by
    have hpicture : ∀ h l, .leaf h l ∈ Node.renderedIn badgeSchema.top → ∀ reference,
        l.reference? (pictured? (valuesFor oneGuest badgeSchema.top) h l.binding) =
          some reference → reference = "logo" := by
      intro h l hl reference hreference
      simp only [Schema.top, badgeSchema, badge, Draft.top, Node.renderedIn, Node.rendered,
        if_true, List.append_nil, List.mem_cons, List.not_mem_nil, or_false,
        reduceCtorEq, false_or, List.singleton_append, Node.leaf.injEq] at hl
      rcases hl with ⟨-, rfl⟩ | ⟨-, rfl⟩
      · cases hreference
      · simp only [Leaf.reference?, pictured?, Option.some.injEq] at hreference
        exact hreference.symm
    intro h l hl reference hreference _
    rw [hpicture h l hl reference hreference]
    rfl
  fonts := fun f hf => absurd hf List.not_mem_nil

theorem compile_eq_of_agree_badge :
    Agree {} badgeSchema badgeSchema.top oneGuest twoGuests (fun _ => none) spareAssets ∧
      compile {} badgeSchema oneGuest (fun _ => none) =
        compile {} badgeSchema twoGuests spareAssets := by
  have hplain : ∃ p, Palette.ofTokens badgeSchema.tokens oneGuest.tokens = .ok p := ⟨_, rfl⟩
  have haccent : ∃ p, Palette.ofTokens badgeSchema.tokens twoGuests.tokens = .ok p :=
    failure?_eq_none.1 (by decide +kernel)
  refine ⟨agree_badge, compile_eq_of_agree rfl hplain haccent fun nodes hnodes => ?_⟩
  obtain rfl : badgeSchema.top = nodes := Except.ok.inj hnodes
  exact agree_badge

end Document

end VisualTemplate
