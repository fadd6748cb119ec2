import VisualTemplate.Document
import VisualTemplate.Proofs.Fill.Palette
import VisualTemplate.Proofs.Node.Paints
/-!
When a schema cannot be filled.

Compiling stops at the first of these: an unknown variant, a replacement of a colour that is not
allowed, a rendered node with a reference to a token that is not declared. Nothing else can fail,
and no value or asset has a part in it.
-/

namespace VisualTemplate

namespace Document

section

variable (c : Context)

/-- The error of the first colour that is not found. -/
def firstFailure? (p : Palette) (paints : List Paint) : Option Error :=
  paints.findSome? fun paint => failure? (p.css paint)

lemma firstFailure?_append (p : Palette) (paints more : List Paint) :
    firstFailure? p (paints ++ more) =
      (firstFailure? p paints).or (firstFailure? p more) := List.findSome?_append

lemma firstFailure?_toList (p : Palette) (paint : Option Paint) :
    firstFailure? p paint.toList = paint.bind fun paint => failure? (p.css paint) := by
  cases paint with
  | none => rfl
  | some paint => simp [firstFailure?]

lemma failure?_background (p : Palette) (paint : Option Paint) :
    failure? (background p paint) = firstFailure? p paint.toList := by
  rw [firstFailure?_toList]
  cases paint with
  | none => rfl
  | some paint =>
    rw [background, failure?_bind fun _ _ => failure?_pure _, Option.or_none]
    rfl

lemma failure?_layoutStyle (p : Palette) (h : Head) (l : Layout) :
    failure? (layoutStyle p h l) = firstFailure? p l.paints := by
  cases l <;>
    rw [layoutStyle, failure?_bind fun _ _ => failure?_pure _, failure?_background,
      Option.or_none, Layout.paints]

lemma failure?_shapeNode (h : Head) (s : ShapeLeaf) :
    failure? (shapeNode c h s) = firstFailure? c.palette (Leaf.shape s).paints := by
  rw [Leaf.paints, firstFailure?_append, firstFailure?_toList, firstFailure?_toList, shapeNode]
  cases s.fill with
  | none =>
    cases s.stroke with
    | none => rfl
    | some st => exact (failure?_bind fun _ _ => failure?_ok _).trans (Option.or_none)
  | some paint =>
    cases s.stroke with
    | none => exact failure?_bind fun _ _ => failure?_ok _
    | some st =>
      exact failure?_bind fun _ _ => (failure?_bind fun _ _ => failure?_ok _).trans Option.or_none

lemma failure?_leafNode (h : Head) (l : Leaf) :
    failure? (leafNode c h l) = firstFailure? c.palette l.paints := by
  cases l with
  | text t =>
    rw [leafNode, textNode, failure?_bind fun _ _ => failure?_ok _]
    simp [firstFailure?, Leaf.paints]
  | image i => rfl
  | svg s => rfl
  | shape s => exact failure?_shapeNode c h s

mutual

lemma failure?_emit (n : Node) :
    failure? (emit c n) = firstFailure? c.palette (n.rendered.flatMap Node.paints) := by
  match n with
  | .container h l cs =>
    rw [emit, Node.rendered]
    split
    · rw [failure?_bind fun _ _ => failure?_bind fun _ _ => failure?_ok _, failure?_layoutStyle,
        failure?_emitAll cs, Option.or_none, List.flatMap_cons, firstFailure?_append, Node.paints]
    · rfl
  | .leaf h l =>
    rw [emit, Node.rendered]
    split
    · rw [failure?_leafNode, List.flatMap_singleton, Node.paints]
    · rfl

/-- Nodes cannot be written for the first colour of a rendered one that is not found. -/
lemma failure?_emitAll (ns : List Node) : failure? (emitAll c ns) =
    firstFailure? c.palette ((Node.renderedIn ns).flatMap Node.paints) := by
  match ns with
  | [] => rfl
  | n :: ns =>
    rw [emitAll, failure?_bind fun _ _ => failure?_bind fun _ _ => failure?_ok _, failure?_emit n,
      failure?_emitAll ns, Option.or_none, Node.renderedIn, List.flatMap_append,
      firstFailure?_append]

end

end

end Document

namespace Schema

variable (s : Schema) (variant : Option String) (overrides : Table String)

/-- A rendered node refers to a token: one that is visible together with all nodes around it, once
the variant is applied. -/
def Refers (name : String) : Prop :=
  ∃ nodes, s.nodesFor variant = .ok nodes ∧
    ∃ place ∈ Node.placesIn [] nodes, Node.Exposed place ∧ .token name ∈ place.1.paints

/-- What a request must be for a schema, its data apart. -/
structure Fillable : Prop where
  variant_declared : ∀ id ∈ variant, ∃ v ∈ s.variants, v.id = id
  replaceable : ∀ name text, overrides.get? name = some text →
    Palette.Replaceable s.tokens name text
  references_declared : ∀ name, s.Refers variant name → ∃ t, s.tokens.get? name = some t

/-- What a request may be refused for. -/
inductive Obstacle : Error → Prop
  | unknownVariant {id : String} : variant = some id → (∀ v ∈ s.variants, v.id ≠ id) →
    Obstacle (.unknownVariant id)
  | unknownToken {name text : String} : overrides.get? name = some text →
    s.tokens.get? name = none → Obstacle (.unknownToken name)
  | tokenNotEditable {name text : String} {t : Token} : overrides.get? name = some text →
    s.tokens.get? name = some t → (t.editable = false ∨ t.derivation.isSome) →
    Obstacle (.tokenNotEditable name)
  | invalidColor {name text : String} : overrides.get? name = some text →
    Color.ofText? text = none → Obstacle (.invalidColor text.trimmed)
  | unknownReference {name : String} : s.Refers variant name → s.tokens.get? name = none →
    Obstacle (.unknownToken name)

/-- The first obstacle: the variant, then the replacements, then the references. -/
def obstacle? : Option Error :=
  match s.nodesFor variant with
  | .error e => some e
  | .ok nodes =>
    (overrides.entries.findSome? fun o => failure? (Palette.replacement s.tokens o.1 o.2)).or
      (((Node.renderedIn nodes).flatMap Node.paints).findSome? fun paint =>
        (paint.undeclared? s.tokens).map .unknownToken)

variable {s variant overrides} {nodes : List Node} {name : String} {e : Error}

lemma variant?_eq_none {id : String} : s.variant? id = none ↔ ∀ v ∈ s.variants, v.id ≠ id := by
  simp [variant?]

lemma nodesFor_eq_error (h : s.nodesFor variant = .error e) :
    ∃ id, variant = some id ∧ (∀ v ∈ s.variants, v.id ≠ id) ∧ e = .unknownVariant id := by
  unfold nodesFor at h
  split at h
  · cases h
  · next id =>
    split at h
    · next hv => exact ⟨id, rfl, variant?_eq_none.1 hv, (Except.error.inj h).symm⟩
    · cases h

/-- The tree for a variant is found just when the variant is declared. -/
lemma exists_nodesFor_iff :
    (∃ nodes, s.nodesFor variant = .ok nodes) ↔ ∀ id ∈ variant, ∃ v ∈ s.variants, v.id = id := by
  constructor
  · rintro ⟨nodes, h⟩ id hid
    obtain rfl := Option.mem_def.1 hid
    by_contra hnone
    have hundeclared : s.variant? id = none :=
      variant?_eq_none.2 fun v hv hvid => hnone ⟨v, hv, hvid⟩
    simp [nodesFor, hundeclared] at h
  · intro h
    cases hn : s.nodesFor variant with
    | ok nodes => exact ⟨nodes, rfl⟩
    | error e =>
      obtain ⟨id, rfl, hnone, -⟩ := nodesFor_eq_error hn
      obtain ⟨v, hv, hid⟩ := h id rfl
      exact absurd hid (hnone v hv)

lemma refers_iff (hnodes : s.nodesFor variant = .ok nodes) : s.Refers variant name ↔
    .token name ∈ (Node.renderedIn nodes).flatMap Node.paints := by
  simp only [Refers, hnodes, Except.ok.injEq, exists_eq_left', List.mem_flatMap,
    Node.mem_renderedIn_iff]
  constructor
  · rintro ⟨place, hplace, hexposed, hname⟩
    exact ⟨place.1, ⟨place, hplace, hexposed, rfl⟩, hname⟩
  · rintro ⟨n, ⟨place, hplace, hexposed, rfl⟩, hname⟩
    exact ⟨place, hplace, hexposed, hname⟩

lemma undeclared?_eq_some {ts : Tokens} {paint : Paint} :
    paint.undeclared? ts = some name ↔ paint = .token name ∧ ts.get? name = none := by
  cases paint with
  | literal text => simp [Paint.undeclared?]
  | token other =>
    rw [Paint.undeclared?, Table.contains, Paint.token.injEq]
    by_cases h : other = name
    · subst h
      cases ts.get? other <;> simp
    · simp [h]

/-- All replacements are allowed just when none of them fails. -/
lemma replacements_eq_none :
    (overrides.entries.findSome? fun o => failure? (Palette.replacement s.tokens o.1 o.2)) = none ↔
      ∀ name text, overrides.get? name = some text → Palette.Replaceable s.tokens name text := by
  simp only [List.findSome?_eq_none_iff, Prod.forall, Table.mem_entries_iff, failure?_eq_none,
    Palette.replacement_eq_ok]

lemma references_eq_none (hnodes : s.nodesFor variant = .ok nodes) :
    (((Node.renderedIn nodes).flatMap Node.paints).findSome? fun paint =>
        (paint.undeclared? s.tokens).map Error.unknownToken) = none ↔
      ∀ name, s.Refers variant name → ∃ t, s.tokens.get? name = some t := by
  simp only [List.findSome?_eq_none_iff, Option.map_eq_none_iff, refers_iff hnodes]
  constructor
  · intro h name hname
    have hdeclared := h _ hname
    rw [Paint.undeclared?] at hdeclared
    split at hdeclared
    · next hc => exact Table.contains_iff.1 hc
    · cases hdeclared
  · intro h paint hpaint
    cases paint with
    | literal text => rfl
    | token name => rw [Paint.undeclared?, if_pos (Table.contains_iff.2 (h name hpaint))]

lemma obstacle?_eq_none : s.obstacle? variant overrides = none ↔ s.Fillable variant overrides := by
  unfold obstacle?
  cases hn : s.nodesFor variant with
  | error e =>
    simp only [reduceCtorEq, false_iff]
    intro h
    obtain ⟨nodes, hok⟩ := exists_nodesFor_iff.2 h.variant_declared
    rw [hn] at hok
    cases hok
  | ok nodes =>
    simp only [Option.or_eq_none_iff, replacements_eq_none, references_eq_none hn]
    have hvariant := exists_nodesFor_iff.1 ⟨nodes, hn⟩
    exact ⟨fun ⟨hreplace, hrefs⟩ => ⟨hvariant, hreplace, hrefs⟩,
      fun h => ⟨h.replaceable, h.references_declared⟩⟩

/-- An obstacle that is found is one. -/
lemma Obstacle.of_obstacle? (h : s.obstacle? variant overrides = some e) :
    s.Obstacle variant overrides e := by
  unfold obstacle? at h
  cases hn : s.nodesFor variant with
  | error e' =>
    simp only [hn, Option.some.injEq] at h
    obtain ⟨id, hid, hnone, he⟩ := nodesFor_eq_error hn
    rw [← h, he]
    exact .unknownVariant hid hnone
  | ok nodes =>
    simp only [hn, Option.or_eq_some_iff] at h
    rcases h with h | ⟨-, h⟩
    · -- a replacement that is not allowed
      obtain ⟨⟨name, text⟩, ho, hfail⟩ := List.exists_of_findSome?_eq_some h
      rw [Table.mem_entries_iff] at ho
      obtain ⟨hnone, rfl⟩ | ⟨t, ht, hfixed, rfl⟩ | ⟨hcolor, rfl⟩ :=
        Palette.replacement_eq_error (failure?_eq_some.1 hfail)
      · exact .unknownToken ho hnone
      · exact .tokenNotEditable ho ht hfixed
      · exact .invalidColor ho hcolor
    · -- a reference of a rendered node
      obtain ⟨paint, hpaint, hfail⟩ := List.exists_of_findSome?_eq_some h
      obtain ⟨name, hname, rfl⟩ := Option.map_eq_some_iff.1 hfail
      obtain ⟨rfl, hnone⟩ := undeclared?_eq_some.1 hname
      exact .unknownReference ((refers_iff hn).2 hpaint) hnone

end Schema

namespace Document

variable (config : CompileConfig) (s : Schema) (r : FillRequest) (assets : AssetSource)

/-- With the tokens of a schema, colours are missing only where a token is not declared. -/
lemma firstFailure?_ofTokens {overrides : Table String} {palette : Palette}
    (h : Palette.ofTokens s.tokens overrides = .ok palette) (paints : List Paint) :
    firstFailure? palette paints =
      paints.findSome? fun paint => (paint.undeclared? s.tokens).map .unknownToken := by
  have hvalid := (Draft.fault?_eq_none.1 s.accepted).1
  have htokens : palette.tokens = s.draft.tokens := Palette.tokens_of_ofTokens h
  unfold firstFailure?
  congr 1
  funext paint
  rw [Palette.failure?_css (htokens ▸ hvalid.tokens_valid) (htokens ▸ hvalid.tokens_acyclic),
    htokens]
  rfl

/-- Compiling fails just for the first obstacle. -/
lemma failure?_compile :
    failure? (compile config s r assets) = s.obstacle? r.variant r.tokens := by
  unfold compile Schema.obstacle?
  cases s.nodesFor r.variant with
  | error e => rfl
  | ok nodes =>
    dsimp only
    rw [← Palette.failure?_ofTokens]
    show failure? (Palette.ofTokens s.tokens r.tokens >>= _) = _
    refine failure?_bind fun palette hpalette => (failure?_bind fun _ _ => failure?_ok _).trans ?_
    rw [failure?_emitAll, Option.or_none, firstFailure?_ofTokens s hpalette]

lemma exists_compile_iff :
    (∃ d, compile config s r assets = .ok d) ↔ s.Fillable r.variant r.tokens := by
  rw [← failure?_eq_none, failure?_compile, Schema.obstacle?_eq_none]

/-- **When compiling fails.** A schema is compiled just when the variant is declared, all
replacements are allowed and all tokens that rendered nodes refer to are declared. Else the error
names one of these that does not hold. Data, assets and options have no part in it. -/
theorem compile_ok_iff_fillable :
    ((∃ d, compile config s r assets = .ok d) ↔ s.Fillable r.variant r.tokens) ∧
    (∀ e, compile config s r assets = .error e → s.Obstacle r.variant r.tokens e) ∧
    ∀ (other : CompileConfig) (submission : Submission) (source : AssetSource),
      failure? (compile other s { r with submission } source) =
        failure? (compile config s r assets) := by
  refine ⟨exists_compile_iff config s r assets, fun e he => ?_, fun other submission source => ?_⟩
  · rw [← failure?_eq_some, failure?_compile] at he
    exact .of_obstacle? he
  · rw [failure?_compile, failure?_compile]

/-- A frame in a derived colour around a text in a colour that is not declared, which one variant
hides. -/
def themed : Draft where
  id := "s"
  canvas := ⟨2, 1⟩
  version := .tree
  root := some (.container { id := "root" }
    (.frame { width := 2, height := 1, background := some (.token "light") })
    [.leaf { id := "note" } (.text { content := "Note", color := .token "gone" })])
  tokens := .ofList [("light", .ofLighten "primary" 10), ("primary", .ofEditable "#112233")]
  variants := [⟨"quiet", "Quiet", [⟨"note", .hide⟩]⟩]

def themedSchema : Schema := ⟨themed, by decide +kernel⟩

/-- A request for the variant without the text, in another colour. -/
def quietRequest : FillRequest where
  variant := some "quiet"
  tokens := .ofList [("primary", "#fff")]

theorem compile_ok_iff_fillable_themed :
    themedSchema.Fillable (some "quiet") (.ofList [("primary", "#fff")]) ∧
      ¬ ∃ d, compile {} themedSchema {} (fun _ => none) = .ok d := by
  have hquiet : ∃ d, compile {} themedSchema quietRequest (fun _ => none) = .ok d :=
    failure?_eq_none.1 (by decide +kernel)
  refine ⟨(compile_ok_iff_fillable {} themedSchema quietRequest fun _ => none).1.1 hquiet,
    fun hplain => ?_⟩
  have hfillable := (compile_ok_iff_fillable {} themedSchema {} fun _ => none).1.1 hplain
  have hnodes : themedSchema.nodesFor none = .ok themedSchema.top := rfl
  have hrefers : themedSchema.Refers none "gone" := by
    rw [Schema.refers_iff hnodes]
    simp [Schema.top, themedSchema, themed, Draft.top, Node.renderedIn, Node.rendered, Node.paints,
      Leaf.paints]
  obtain ⟨t, ht⟩ := hfillable.references_declared "gone" hrefers
  have hnone : themedSchema.tokens.get? "gone" = none := by decide +kernel
  rw [hnone] at ht
  cases ht

end Document

end VisualTemplate
