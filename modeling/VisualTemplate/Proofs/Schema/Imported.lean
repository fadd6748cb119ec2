import VisualTemplate.Proofs.Design.Places
import VisualTemplate.Proofs.Markup.Failure
import VisualTemplate.Proofs.Node.Variants
import VisualTemplate.Proofs.Schema.Reload
/-!
Whatever is imported can be compiled.

All colours of an import are literals or refer to declared tokens, since each of them is read with
the tokens that the schema gets. So a request is only refused for a variant or a replacement.
-/

namespace VisualTemplate

variable {ts : Tokens}

/-! ### Designs -/

namespace Design

namespace Surroundings

variable (s : Surroundings)

lemma declared_paint (c : Color) : (s.paint c).Declared s.tokens := Paint.declared_ofText _

lemma declared_place {l : Layer} {visible : Bool} {leaf : Leaf}
    (h : ∀ p ∈ leaf.paints, p.Declared s.tokens) : (s.place l visible leaf).Declared s.tokens :=
  Node.declared_leaf.2 h

lemma declared_text (l : Layer) (field : Option String) (visible : Bool) :
    (s.text l field visible).Declared s.tokens := by
  refine s.declared_place (List.forall_mem_singleton.2 ?_)
  dsimp only
  cases l.color? with
  | none => exact .literal _
  | some c =>
    rw [Option.map_some, Option.getD_some]
    exact s.declared_paint c

lemma declared_shape (l : Layer) (visible : Bool) : (s.shape l visible).Declared s.tokens := by
  refine s.declared_place fun p hp => ?_
  simp only [Leaf.paints, List.mem_append, Option.mem_toList, Option.map_eq_some_iff,
    Option.map_map, Function.comp_def] at hp
  rcases hp with ⟨c, -, hc⟩ | ⟨c, -, hc⟩ <;> rw [← hc] <;> exact s.declared_paint c

variable {s} in
/-- What is left of a place refers to declared tokens only. -/
lemma declared_of_leaves {p : Layer × List Layer} {k : Option Layer.Product} {f : Flat}
    (h : s.Leaves p k f) : ∀ n ∈ f.nodes, n.Declared s.tokens := by
  cases h with
  | nothing => exact fun _ hn => absurd hn List.not_mem_nil
  | text => exact List.forall_mem_singleton.2 (s.declared_text ..)
  | clipped _ => exact List.forall_mem_singleton.2 (s.declared_place (by simp [Leaf.paints]))
  | image _ => exact List.forall_mem_singleton.2 (s.declared_place (by simp [Leaf.paints]))
  | fill _ =>
    refine List.forall_mem_singleton.2 (s.declared_place ?_)
    simpa [Leaf.paints] using s.declared_paint _
  | shape => exact List.forall_mem_singleton.2 (s.declared_shape ..)

end Surroundings

/-- The leaves of an export refer to declared tokens only. -/
lemma declared_flatten (tokens : Tokens) (assets : Assets) (e : Export) (root : Layer) :
    ∀ n ∈ (flatten tokens assets e root).nodes, n.Declared tokens :=
  flatten_induction (motive := fun _ f => ∀ n ∈ f.nodes, n.Declared tokens)
    (fun _ hn => absurd hn List.not_mem_nil)
    (fun _ _ _ _ hf hg => List.forall_mem_append.2 ⟨hf, hg⟩)
    fun _ _ _ h => Surroundings.declared_of_leaves h

end Design

/-! ### Pages -/

namespace Page

open Html

variable (c : MarkupConfig)

lemma declared_below {settings : TextSettings} (h : settings.color.Declared ts) (tag : String)
    (style : InlineStyle) : (settings.below ts tag style).color.Declared ts := by
  unfold TextSettings.below
  dsimp only
  split
  · exact Paint.declared_ofText _
  · exact h

lemma declared_background (style : InlineStyle) :
    ∀ p ∈ (backgroundOf c style).toList, p.Declared c.tokens := by
  simp only [backgroundOf, Option.mem_toList, Option.map_eq_some_iff]
  rintro p ⟨text, -, rfl⟩
  exact Paint.declared_ofText _

lemma declared_fillOf (p : Place) : ∀ paint ∈ (fillOf c p).toList, paint.Declared c.tokens := by
  unfold fillOf
  dsimp only
  split
  · simp
  · simpa using Paint.declared_ofText _

lemma declared_drawing (s : Progress) (style : InlineStyle) (p : Place) :
    ∀ n ∈ (drawing c s style p).1, n.Declared c.tokens := by
  unfold drawing
  split
  · exact List.forall_mem_singleton.2 (Node.declared_leaf.2 (by simp [Leaf.paints]))
  · split
    · exact fun n hn => absurd hn List.not_mem_nil
    · refine List.forall_mem_singleton.2 (Node.declared_leaf.2 ?_)
      simpa [Leaf.paints] using declared_fillOf c p

lemma declared_layoutOf (style : InlineStyle) :
    ∀ p ∈ (layoutOf c style).paints, p.Declared c.tokens := by
  unfold layoutOf
  dsimp only
  split <;> exact declared_background c style

/-- Hiding nodes changes no colour. -/
lemma declared_shown {hidden : Bool} {ns : List Node} (h : ∀ n ∈ ns, n.Declared ts) :
    ∀ n ∈ (if hidden then ns.map Node.hide else ns), n.Declared ts := by
  split
  · exact List.forall_mem_map.2 fun n hn => Node.declared_hide (h n hn)
  · exact h

variable [Engine]

lemma declared_linesOf (s : Progress) {settings : TextSettings}
    (h : settings.color.Declared ts) (style : InlineStyle) (width height : Length)
    (contents : List String) :
    ∀ n ∈ (linesOf s settings style width height contents).1, n.Declared ts := by
  induction contents generalizing s with
  | nil => exact fun n hn => absurd hn List.not_mem_nil
  | cons content rest ih =>
    refine List.forall_mem_cons.2 ⟨Node.declared_leaf.2 ?_, ih _⟩
    exact List.forall_mem_singleton.2 h

lemma declared_text (s : Progress) {settings : TextSettings} (h : settings.color.Declared ts)
    (style : InlineStyle) (ds : List Dom) :
    ∀ n ∈ (text s settings style ds).1, n.Declared ts := by
  unfold text
  split <;> exact declared_linesOf s h style _ _ _

mutual

lemma declared_nodes (around : List Element) {settings : TextSettings}
    (h : settings.color.Declared c.tokens) (s : Progress) (d : Dom) :
    ∀ n ∈ (nodes c around settings s d).1, n.Declared c.tokens := by
  match d with
  | .text t =>
    rw [nodes]
    split
    · exact fun n hn => absurd hn List.not_mem_nil
    · exact declared_linesOf s h {} .auto .auto _
  | .element e cs =>
    rw [nodes]
    split
    · exact fun n hn => absurd hn List.not_mem_nil
    · dsimp only
      have hbelow := declared_below h e.tag (styleOf e)
      refine declared_shown ?_
      -- an image, a drawing, a text, or a container around what is below it
      split
      · exact List.forall_mem_singleton.2 (Node.declared_leaf.2 (by simp [Leaf.paints]))
      · split
        · exact declared_drawing c s _ _
        · split
          · exact declared_text s hbelow _ cs
          · refine List.forall_mem_singleton.2 (Node.declared_container.2 ?_)
            exact ⟨declared_layoutOf c _, declared_nodesIn (e :: around) hbelow _ cs⟩
  | .contents cs =>
    rw [nodes]
    exact fun n hn => absurd hn List.not_mem_nil
  | .other =>
    rw [nodes]
    exact fun n hn => absurd hn List.not_mem_nil

lemma declared_nodesIn (around : List Element) {settings : TextSettings}
    (h : settings.color.Declared c.tokens) (s : Progress) (ds : List Dom) :
    ∀ n ∈ (nodesIn c around settings s ds).1, n.Declared c.tokens := by
  match ds with
  | [] =>
    rw [nodesIn]
    exact fun n hn => absurd hn List.not_mem_nil
  | d :: ds =>
    rw [nodesIn]
    exact List.forall_mem_append.2 ⟨declared_nodes around h s d, declared_nodesIn around h _ ds⟩

end

/-- The frame of a page and all in it refer to declared tokens only. -/
lemma declared_frame (s : Progress) (root : Place) : (frame c s root).1.Declared c.tokens := by
  have hsettings : (({} : TextSettings).below c.tokens root.element.tag
      (styleOf root.element)).color.Declared c.tokens := declared_below (.literal _) _ _
  unfold frame
  dsimp only
  refine Node.declared_container.2 ⟨declared_background c _, ?_⟩
  split
  · refine List.forall_mem_singleton.2 (Node.declared_container.2 ⟨by simp [Layout.paints, flexOf], ?_⟩)
    exact declared_nodesIn c _ hsettings _ root.children
  · exact declared_nodesIn c _ hsettings _ root.children

end Page

/-! ### Requests for imports -/

namespace Schema

variable (s : Schema)

/-- All references to tokens, rendered or not, are to declared ones. -/
def ReferencesDeclared : Prop :=
  ∀ n, Node.Within n s.top → ∀ name, .token name ∈ n.paints → ∃ t, s.tokens.get? name = some t

/-- A schema is compiled for all data, options and assets, if the variant is declared and the
replacements are allowed. -/
def AlwaysCompiles : Prop :=
  ∀ r : FillRequest, (∀ id ∈ r.variant, ∃ v ∈ s.variants, v.id = id) →
    (∀ name text, r.tokens.get? name = some text → Palette.Replaceable s.tokens name text) →
    ∀ (config : CompileConfig) (assets : AssetSource),
      ∃ d, Document.compile config s r assets = .ok d

variable {s}

lemma referencesDeclared_of_declared (h : ∀ n ∈ s.top, n.Declared s.tokens) :
    s.ReferencesDeclared := by
  intro n hn name hname
  rw [← Node.mem_preorders_iff, Node.preorders_eq_flatMap, List.mem_flatMap] at hn
  obtain ⟨m, hm, hn⟩ := hn
  cases (h m hm).paints n hn _ hname with
  | token ht => exact ⟨_, ht⟩

/-- What a rendered node refers to, some node of the schema refers to. -/
lemma ReferencesDeclared.of_refers (h : s.ReferencesDeclared) {variant : Option String}
    {name : String} (hrefers : s.Refers variant name) : ∃ t, s.tokens.get? name = some t := by
  obtain ⟨nodes, hnodes, place, hplace, -, hname⟩ := hrefers
  have hmem : place.1.paints ∈ (Node.preorders nodes).map Node.paints := by
    rw [← Node.map_fst_placesIn []]
    exact List.mem_map_of_mem (List.mem_map_of_mem hplace)
  rw [map_nodesFor Variant.paints_applyTo hnodes, List.mem_map] at hmem
  obtain ⟨n, hn, heq⟩ := hmem
  rw [← heq] at hname
  exact h n ((Node.mem_preorders_iff n _).1 hn) name hname

lemma ReferencesDeclared.alwaysCompiles (h : s.ReferencesDeclared) : s.AlwaysCompiles :=
  fun r hvariant hreplace config assets => (Document.exists_compile_iff config s r assets).2
    ⟨hvariant, hreplace, fun _ hrefers => h.of_refers hrefers⟩

end Schema

/-- The schema of a design holds its leaves and the configured tokens. -/
lemma Design.Export.draft_toImport {config : DesignConfig} {id : String} {e : Design.Export}
    {i : Import} (h : e.toImport config id = .ok i) : i.schema.tokens = config.tokens ∧
      ∃ assets root, i.schema.top = (flatten config.tokens assets e root).nodes := by
  obtain ⟨root, -, -, hs, -⟩ := toImport_eq_ok_iff.1 h
  have hdraft := (Draft.check_eq_ok_iff.1 hs).1
  refine ⟨?_, i.assets, root, ?_⟩
  · rw [Schema.tokens, hdraft]
    rfl
  · rw [Schema.top, hdraft]
    rfl

/-- The schema of a page holds its frame and the configured tokens. -/
lemma Html.Document.draft_toImport [Engine] {config : MarkupConfig} {id : String}
    {d : Html.Document} {i : Import} (h : d.toImport config id = .ok i) :
    i.schema.tokens = config.tokens ∧
      ∃ s root, i.schema.top = [(Page.frame config s root).1] := by
  unfold toImport at h
  split at h
  · cases h
  · next root _ =>
    obtain ⟨inference, -, h⟩ := Except.bind_eq_ok_iff.1 h
    obtain ⟨⟨variants, unmatched⟩, -, h⟩ := Except.bind_eq_ok_iff.1 h
    obtain ⟨s, hs, h⟩ := Except.bind_eq_ok_iff.1 h
    rw [← Except.ok.inj h]
    have hdraft := (Draft.check_eq_ok_iff.1 hs).1
    refine ⟨?_, { inference }, root, ?_⟩
    · rw [Schema.tokens, hdraft]
    · rw [Schema.top, hdraft]
      rfl

/-- **Imports are compiled.** In the schema of an imported design or page all references to tokens
are to declared ones, so that it is compiled for every variant that it declares and for all allowed
replacements, whatever the data, the options and the assets are. -/
theorem Import.compiles [Engine] (id : String) :
    (∀ (config : DesignConfig) (e : Design.Export) (i : Import), e.toImport config id = .ok i →
      i.schema.ReferencesDeclared ∧ i.schema.AlwaysCompiles) ∧
    ∀ (config : MarkupConfig) (d : Html.Document) (i : Import), d.toImport config id = .ok i →
      i.schema.ReferencesDeclared ∧ i.schema.AlwaysCompiles := by
  constructor
  · intro config e i h
    obtain ⟨htokens, assets, root, htop⟩ := Design.Export.draft_toImport h
    have hdeclared : i.schema.ReferencesDeclared := Schema.referencesDeclared_of_declared (by
      rw [htop, htokens]
      exact Design.declared_flatten config.tokens assets e root)
    exact ⟨hdeclared, hdeclared.alwaysCompiles⟩
  · intro config d i h
    obtain ⟨htokens, s, root, htop⟩ := Html.Document.draft_toImport h
    have hdeclared : i.schema.ReferencesDeclared := Schema.referencesDeclared_of_declared (by
      rw [htop, htokens]
      exact List.forall_mem_singleton.2 (Page.declared_frame config s root))
    exact ⟨hdeclared, hdeclared.alwaysCompiles⟩

/-! ### Samples -/

def primaryTokens : Tokens := .ofList [("primary", .ofEditable "#ff0000")]

/-- A request for another colour. -/
def repainted : FillRequest := { tokens := .ofList [("primary", "#00f")] }

/-- A design with one bar in the colour of the token. -/
def barExport : Design.Export where
  name := "Bar"
  width := 10
  height := 10
  layers := [.mk { id := "root", kind := .frame }
    [.mk { id := "bar", kind := .rectangle, fills := [.solid 1 0 0] } []]]

/-- A page of one pixel in a colour that it names. -/
def namedPage : Html.Document where
  children := [.element (.make 0 (Html.html "div")
    [⟨.plain, "style", "width:1px;height:1px;background:var(--primary)"⟩]) []]

def painted : MarkupConfig := { canvas := ⟨1, 1⟩, tokens := primaryTokens }

/-- The schema has a node in the colour of the token. -/
def usesPrimary (s : Schema) : Bool :=
  s.preorder.any fun n => n.paints.any fun p => p == .token "primary"

/-- The token of an import may be replaced, where it is declared. -/
lemma replaceable_primary {s : Schema} (h : s.tokens = primaryTokens) :
    ∀ name text, repainted.tokens.get? name = some text →
      Palette.Replaceable s.tokens name text := by
  intro name text hname
  have hprimary : name = "primary" ∧ text = "#00f" := by
    simpa [repainted, Table.ofList, eq_comm] using hname
  rw [h, hprimary.1, hprimary.2, ← Palette.replacement_eq_ok, ← failure?_eq_none]
  decide +kernel

theorem Import.compiles_bar_page :
    (∃ i d, barExport.toImport { tokens := primaryTokens } "bar" = .ok i ∧
      usesPrimary i.schema = true ∧
      Document.compile {} i.schema repainted (fun _ => none) = .ok d) ∧
    ∃ i d, namedPage.toImport painted "page" = .ok i ∧ usesPrimary i.schema = true ∧
      Document.compile {} i.schema repainted (fun _ => none) = .ok d := by
  have hbar : (barExport.toImport { tokens := primaryTokens } "bar").toOption.any
      (fun i => usesPrimary i.schema) = true := by decide +kernel
  have hplaces : namedPage.places.Pairwise fun p q => p.element.serial ≤ q.element.serial := by
    decide +kernel
  have hpage : (namedPage.toImport painted "page").toOption.any
      (fun i => usesPrimary i.schema) = true := by
    simp only [Html.Document.toImport, Page.root?, Page.title?, Html.Document.inOrder_eq hplaces]
    decide +kernel
  obtain ⟨i, hi, huses⟩ := exists_ok_of_any hbar
  obtain ⟨j, hj, huses'⟩ := exists_ok_of_any hpage
  obtain ⟨d, hd⟩ := ((Import.compiles "bar").1 _ _ i hi).2 repainted (by simp [repainted])
    (replaceable_primary (Design.Export.draft_toImport hi).1) {} fun _ => none
  obtain ⟨d', hd'⟩ := ((Import.compiles "page").2 _ _ j hj).2 repainted (by simp [repainted])
    (replaceable_primary (Html.Document.draft_toImport hj).1) {} fun _ => none
  exact ⟨⟨i, d, hi, huses, hd⟩, j, d', hj, huses', hd'⟩

end VisualTemplate
