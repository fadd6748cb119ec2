import VisualTemplate.Proofs.Page.Growth
import VisualTemplate.Proofs.Schema.Faults
import VisualTemplate.Proofs.Schema.Reload
/-!
The draft of a page is well formed by construction.

Its ids are numbered in pre-order, its variants name nodes that there are, and the frame of the root
is the only one. So the gate can refuse it for nothing but the canvas, the fields of the rules for
images that were used, repeated variants and the tokens.
-/

namespace VisualTemplate

/-! ### What the gate can refuse a well-formed draft for -/

/-- The fault lies in the frame or in the version. -/
def StructureFault.isOfTree : StructureFault → Bool
  | rootInFlat | containerInFlat _ _ | rootMissing | nodesBesideRoot | rootNotFrame _ _
  | nestedFrame _ => true
  | duplicateVariant _ | tokenWithoutSource _ | derivedTokenWithDefault _ | unknownSource _ _
  | cyclicDerivation _ => false

/-- The error is a repeated id, a reference to no node, or a fault of the frame or the version. -/
def Error.isOfTree : Error → Bool
  | duplicateNodeId _ | danglingReference _ _ => true
  | structural fault => fault.isOfTree
  | _ => false

/-- All tokens are valid, and none is derived from itself. -/
def Tokens.Valid (ts : Tokens) : Prop :=
  (∀ name t, ts.get? name = some t → t.Valid ts) ∧ ts.Acyclic

/-- The error is about a token. -/
def Error.isOfTokens : Error → Bool
  | invalidColor _ => true
  | structural fault =>
    match fault with
    | .tokenWithoutSource _ | .derivedTokenWithDefault _ | .unknownSource _ _
    | .cyclicDerivation _ => true
    | _ => false
  | _ => false

lemma Tokens.isOfTokens_firstFault {ts : Tokens} {e : Error} (h : ts.firstFault? = some e) :
    e.isOfTokens = true := by
  rcases Option.or_eq_some_iff.1 h with h | ⟨-, h⟩
  · obtain ⟨⟨name, t⟩, -, ht⟩ := List.exists_of_findSome?_eq_some h
    dsimp only at ht
    unfold Tokens.fault? at ht
    split at ht
    · rw [← Option.some.inj ht]; rfl
    · rw [← Option.some.inj ht]; rfl
    · split at ht
      · cases ht
      · rw [← Option.some.inj ht]; rfl
    · split at ht
      · cases ht
      · rw [← Option.some.inj ht]; rfl
  · obtain ⟨name, -, rfl⟩ := Option.map_eq_some_iff.1 h
    rfl

lemma Error.isOfTree_of_isOfTokens {e : Error} (h : e.isOfTokens = true) : e.isOfTree = false := by
  cases e with
  | structural fault => cases fault <;> first | rfl | cases h
  | _ => first | rfl | cases h

namespace Draft

variable {d : Draft}

/-- A draft with distinct ids, references to nodes and one frame is refused for something else. -/
lemma isOfTree_fault {e : Error} (hstructured : d.Structured)
    (hids : (d.preorder.map (·.id)).Nodup)
    (hnames : ∀ v ∈ d.variants, ∀ o ∈ v.overrides, d.Names o.nodeId)
    (h : d.fault? [] = some e) : e.isOfTree = false := by
  cases hasFault_of_fault? h with
  | canvas empty => rfl
  | tree found =>
    rw [structureFault?_eq_none.2 hstructured] at found
    cases found
  | repeatedId repeated => exact absurd hids repeated
  | path within bound unread => rfl
  | row stored dangling => exact absurd stored List.not_mem_nil
  | repeatedVariant declared => rfl
  | override declared listed dangling => exact absurd (hnames _ declared _ listed) dangling
  | token found => exact Error.isOfTree_of_isOfTokens (Tokens.isOfTokens_firstFault found)

lemma exists_build_iff : (∃ s, d.build = .ok s) ↔ d.Valid := by
  rw [build, exists_check_iff]
  exact and_iff_left fun _ h => absurd h List.not_mem_nil

end Draft

namespace Page

open Html

/-! ### Variants -/

variable (d : Html.Document) (made : List (ℕ × List String))

variable {d made} in
lemma exists_made {operation : Visibility} {s : Selector} {o : Override}
    (h : o ∈ overridesOf d made operation s) : ∃ p ∈ made, o.nodeId ∈ p.2 := by
  obtain ⟨p, -, ho⟩ := List.mem_flatMap.1 h
  obtain ⟨id, hid, rfl⟩ := List.mem_map.1 ho
  cases hlookup : made.lookup p.element.serial with
  | none =>
    rw [hlookup] at hid
    exact absurd hid List.not_mem_nil
  | some ids =>
    rw [hlookup, Option.getD_some] at hid
    obtain ⟨front, back, hmade, -⟩ := List.lookup_eq_some_iff.1 hlookup
    exact ⟨_, hmade ▸ List.mem_append_right _ List.mem_cons_self, hid⟩

lemma exists_overrides {os : List SelectorOverride}
    (h : ∀ o ∈ os, (Selector.ofText? o.selector).isSome = true) :
    ∃ found ds, overrides d made os = .ok (found, ds) ∧
      ∀ o ∈ found, ∃ p ∈ made, o.nodeId ∈ p.2 := by
  induction os with
  | nil => exact ⟨[], [], rfl, fun o ho => absurd ho List.not_mem_nil⟩
  | cons o os ih =>
    rw [List.forall_mem_cons] at h
    obtain ⟨selector, hselector⟩ := Option.isSome_iff_exists.1 h.1
    obtain ⟨more, ds, hmore, hnames⟩ := ih h.2
    have hok : ∃ ds, overrides d made (o :: os) =
        .ok (overridesOf d made o.operation selector ++ more, ds) := by
      rw [overrides, hselector]
      dsimp only
      rw [hmore]
      exact ⟨_, rfl⟩
    obtain ⟨ds, hok⟩ := hok
    exact ⟨_, ds, hok, List.forall_mem_append.2 ⟨fun o ho => exists_made ho, hnames⟩⟩

/-- With valid selectors there is a variant for each rule, and what it names was written down. -/
lemma exists_variants {rs : List VariantRule}
    (h : ∀ r ∈ rs, ∀ o ∈ r.overrides, (Selector.ofText? o.selector).isSome = true) :
    ∃ vs ds, variants d made rs = .ok (vs, ds) ∧ vs.map (·.id) = rs.map (·.id) ∧
      ∀ v ∈ vs, ∀ o ∈ v.overrides, ∃ p ∈ made, o.nodeId ∈ p.2 := by
  induction rs with
  | nil => exact ⟨[], [], rfl, rfl, fun v hv => absurd hv List.not_mem_nil⟩
  | cons r rs ih =>
    rw [List.forall_mem_cons] at h
    obtain ⟨found, ds, hfound, hnames⟩ := exists_overrides d made h.1
    obtain ⟨vs, ds', hvs, hids, hmore⟩ := ih h.2
    refine ⟨⟨r.id, r.name, found⟩ :: vs, ds ++ ds', ?_, congrArg (r.id :: ·) hids,
      List.forall_mem_cons.2 ⟨hnames, hmore⟩⟩
    rw [variants, hfound]
    dsimp only [bind, Except.bind]
    rw [hvs]

/-! ### The frame -/

/-- A frame with variants over it, well formed: the ids bear the numbers from one on in pre-order,
what the variants name are nodes, and the frame is the only one. -/
structure WellFormed (frame : Node) (vs : List Variant) : Prop where
  numbered : frame.preorder.map (·.id) =
    frame.preorder.mapIdx fun i n => n.kind ++ "-" ++ toString (i + 1)
  ids_nodup : (frame.preorder.map (·.id)).Nodup
  overrides_name : ∀ v ∈ vs, ∀ o ∈ v.overrides, o.nodeId ∈ frame.preorder.map (·.id)
  one_frame : frame.preorder.filter (·.isFrame) = [frame]

/-- The node is a picture and bound to the field of a rule for images. -/
def UsesRule (n : Node) (r : ImageFieldRule) : Prop :=
  (n.kind = "image" ∨ n.kind = "svg") ∧ n.binding = some ⟨r.field, .image, none⟩

lemma allocated_zero : NodeIds.allocated {} = 0 := rfl

section

variable [Engine] (c : MarkupConfig) (s : Progress) (root : Place)

lemma numbered_frame : (frame c s root).1.preorder.map (·.id) =
    (s.ids.nextAll ((frame c s root).1.preorder.map (·.kind))).1 := by
  obtain ⟨f, ns, t, hgrows, hframe⟩ := exists_frame (c := c) s root
  rw [hframe, Node.preorder, List.map_cons, List.map_cons]
  exact congrArg₂ List.cons rfl (congrArg Prod.fst hgrows.numbered).symm

/-- The count starts at zero, so there are numbers for all nodes if they are not too many. -/
lemma room_frame (h : s.ids = {}) (hcount : (frame c s root).1.preorder.length < 2 ^ 32) :
    s.ids.allocated + ((frame c s root).1.preorder.map (·.kind)).length < 2 ^ 32 := by
  rwa [h, allocated_zero, Nat.zero_add, List.length_map]

/-- All ids that are written down are ids of nodes. -/
lemma made_frame (h : s.made = []) :
    ∀ p ∈ (frame c s root).2.made, p.2 ⊆ (frame c s root).1.preorder.map (·.id) := by
  obtain ⟨f, ns, t, hgrows, hframe⟩ := exists_frame (c := c) s root
  rw [hframe, Node.preorder, List.map_cons]
  intro p hp
  rcases List.mem_cons.1 hp with rfl | hp
  · exact List.cons_subset_cons _ (List.nil_subset _)
  · rcases hgrows.made_subset p hp with hp | hp
    · exact absurd (h ▸ hp) List.not_mem_nil
    · exact fun id hid => List.mem_cons_of_mem _ (hp hid)

lemma isFrame_frame : (frame c s root).1.isFrame = true ∧
    ∀ n ∈ Node.preorders (frame c s root).1.children, n.isFrame = false := by
  obtain ⟨f, ns, t, hgrows, hframe⟩ := exists_frame (c := c) s root
  rw [hframe]
  exact ⟨rfl, hgrows.isFrame_eq_false⟩

lemma filter_isFrame_frame :
    (frame c s root).1.preorder.filter (·.isFrame) = [(frame c s root).1] := by
  obtain ⟨f, ns, t, hgrows, hframe⟩ := exists_frame (c := c) s root
  rw [hframe, Node.preorder, List.filter_cons_of_pos rfl, List.filter_eq_nil_iff.2]
  exact fun n hn => by rw [hgrows.isFrame_eq_false n hn]; exact Bool.false_ne_true

lemma traced_frame (h : s.inference.Sound) :
    ∀ n ∈ (frame c s root).1.preorder, Grows.Traced c n := by
  obtain ⟨f, ns, t, hgrows, hframe⟩ := exists_frame (c := c) s root
  rw [hframe, Node.preorder]
  exact List.forall_mem_cons.2 ⟨fun b hb => absurd hb (by simp [Node.binding]),
    (hgrows.traced h).1⟩

/-- A page's frame with its variants is well formed. -/
lemma wellFormed_frame (h : s.ids = {} ∧ s.made = [])
    (hcount : (frame c s root).1.preorder.length < 2 ^ 32) {vs : List Variant}
    (hnames : ∀ v ∈ vs, ∀ o ∈ v.overrides, ∃ p ∈ (frame c s root).2.made, o.nodeId ∈ p.2) :
    WellFormed (frame c s root).1 vs where
  numbered := by
    have hroom := room_frame c s root h.1 hcount
    rw [numbered_frame, NodeIds.nextAll_fst hroom, h.1, allocated_zero]
    simp only [List.mapIdx_eq_zipIdx_map, List.zipIdx_map, List.map_map, Function.comp_def,
      Prod.map_fst, Prod.map_snd, id, Nat.zero_add]
  ids_nodup := by
    rw [numbered_frame]
    exact NodeIds.nodup_nextAll (room_frame c s root h.1 hcount)
  overrides_name := by
    intro v hv o ho
    obtain ⟨p, hp, hid⟩ := hnames v hv o ho
    exact made_frame c s root h.2 p hp hid
  one_frame := filter_isFrame_frame c s root

end

/-- The draft of a page with a given frame and given variants. -/
def draftOf (config : MarkupConfig) (id : String) (d : Html.Document) (frame : Node)
    (vs : List Variant) : Draft where
  id
  title := (config.title.or (title? d)).getD id
  canvas := config.canvas
  version := .tree
  root := some frame
  tokens := config.tokens
  variants := vs

/-- The fields of the rules for images that some nodes use parse. -/
def RulesParse (config : MarkupConfig) (ns : List Node) : Prop :=
  ∀ r ∈ config.imageFields, (∃ n ∈ ns, UsesRule n r) → (FieldPath.ofText? r.field).isSome = true

section Drafts

variable {config : MarkupConfig} {id : String} {d : Html.Document} {n : Node} {vs : List Variant}

lemma mem_preorder_draftOf {m : Node} :
    Node.Within m (draftOf config id d n vs).top ↔ m ∈ n.preorder := by
  rw [← Node.mem_preorders_iff, ← Node.preorders_singleton]
  rfl

lemma names_draftOf (h : WellFormed n vs) :
    ∀ v ∈ vs, ∀ o ∈ v.overrides, (draftOf config id d n vs).Names o.nodeId := by
  intro v hv o ho
  obtain ⟨m, hm, hid⟩ := List.mem_map.1 (h.overrides_name v hv o ho)
  exact ⟨m, mem_preorder_draftOf.2 hm, hid⟩

lemma nodup_draftOf (h : WellFormed n vs) :
    ((draftOf config id d n vs).preorder.map (·.id)).Nodup := by
  have hpreorder : (draftOf config id d n vs).preorder = n.preorder := Node.preorders_singleton n
  rw [hpreorder]
  exact h.ids_nodup

variable (config id d vs) in
lemma structured_draftOf
    (h : n.isFrame = true ∧ ∀ m ∈ Node.preorders n.children, m.isFrame = false) :
    (draftOf config id d n vs).Structured :=
  ⟨rfl, n, rfl, h.1, fun m hm => h.2 m ((Node.mem_preorders_iff m _).2 hm)⟩

/-- What is left to the gate of a well-formed draft. -/
lemma valid_draftOf_iff (hwell : WellFormed n vs)
    (hstructured : (draftOf config id d n vs).Structured)
    (htraced : ∀ m ∈ n.preorder, Grows.Traced config m) :
    (draftOf config id d n vs).Valid ↔
      (0 < config.canvas.width ∧ 0 < config.canvas.height) ∧ RulesParse config n.preorder ∧
        (vs.map (·.id)).Nodup ∧ config.tokens.Valid := by
  constructor
  · intro h
    refine ⟨⟨h.width_pos, h.height_pos⟩, ?_, h.variants_nodup, h.tokens_valid, h.tokens_acyclic⟩
    rintro r - ⟨m, hm, -, hbinding⟩
    exact h.fields_parse m (mem_preorder_draftOf.2 hm) ⟨r.field, .image, none⟩ hbinding
  · rintro ⟨⟨hwidth, hheight⟩, hrules, hvariants, htokens, hacyclic⟩
    refine ⟨hwidth, hheight, hstructured, nodup_draftOf hwell, fun m hm b hb => ?_, hvariants,
      names_draftOf hwell, htokens, hacyclic⟩
    rw [mem_preorder_draftOf] at hm
    rcases htraced m hm b hb with hparses | ⟨hkind, r, hr, rfl⟩
    · exact hparses
    · exact hrules r hr ⟨m, hm, hkind, hb⟩

end Drafts

end Page

open Html Page

/-- **Pages are well formed by construction.** If the root is found, the rules and fields of the
configuration are valid, the selectors are, and the nodes are few enough to be numbered, then the
ids bear the numbers from one on in pre-order, what the variants name are nodes, and the root's
frame is the only one. So the import is not refused for ids, references or the tree; it succeeds
just when the canvas is not empty, the rules for images that were used have fields that parse, no
variant is declared twice and the tokens are valid. -/
theorem Html.Document.toImport_wellFormed [Engine] {config : MarkupConfig} {d : Html.Document}
    {root : Place} {inference : Inference} {frame : Node} {s : Progress}
    (hroot : root? config.canvas d = some root)
    (hinference : Inference.ofConfig config = .ok inference)
    (hselectors : ∀ r ∈ config.variants, ∀ o ∈ r.overrides,
      (Selector.ofText? o.selector).isSome = true)
    (hframe : Page.frame config { inference } root = (frame, s))
    (hcount : frame.preorder.length < 2 ^ 32) (id : String) :
    ∃ vs unmatched, variants d s.made config.variants = .ok (vs, unmatched) ∧
      vs.map (·.id) = config.variants.map (·.id) ∧ WellFormed frame vs ∧
      (∀ i, d.toImport config id = .ok i →
        i.schema.root = some frame ∧ i.schema.variants = vs) ∧
      (∀ e, d.toImport config id = .error e → e.isOfTree = false) ∧
      ((∃ i, d.toImport config id = .ok i) ↔
        (0 < config.canvas.width ∧ 0 < config.canvas.height) ∧
        RulesParse config frame.preorder ∧ (config.variants.map (·.id)).Nodup ∧
        config.tokens.Valid) := by
  obtain ⟨vs, unmatched, hvs, hids, hnames⟩ := exists_variants d s.made hselectors
  have himport : d.toImport config id = (draftOf config id d frame vs).build >>= fun schema =>
      .ok { schema, diagnostics := s.diagnostics ++ unmatched } := by
    rw [toImport, hroot]
    dsimp only
    rw [hinference]
    dsimp only [bind, Except.bind]
    rw [hframe]
    dsimp only
    rw [hvs]
    rfl
  obtain rfl : (Page.frame config { inference } root).1 = frame := by rw [hframe]
  obtain rfl : (Page.frame config { inference } root).2 = s := by rw [hframe]
  have hwell := wellFormed_frame config { inference } root ⟨rfl, rfl⟩ hcount hnames
  have hstructured := structured_draftOf config id d vs (isFrame_frame config { inference } root)
  have hvalid := valid_draftOf_iff hwell hstructured
    (traced_frame config { inference } root (Inference.sound_ofConfig hinference))
  rw [himport]
  refine ⟨vs, unmatched, hvs, hids, hwell, fun i hi => ?_, fun e he => ?_, ?_⟩
  · obtain ⟨schema, hbuild, hi⟩ := Except.bind_eq_ok_iff.1 hi
    rw [← Except.ok.inj hi, Schema.root, Schema.variants, (Draft.check_eq_ok_iff.1 hbuild).1]
    exact ⟨rfl, rfl⟩
  · cases hbuild : (draftOf config id d (Page.frame config { inference } root).1 vs).build with
    | ok schema => rw [hbuild] at he; cases he
    | error e' =>
      rw [hbuild] at he
      rw [← Except.error.inj he]
      exact Draft.isOfTree_fault hstructured (nodup_draftOf hwell) (names_draftOf hwell)
        (Draft.check_eq_error_iff.1 hbuild)
  · rw [← hids, ← hvalid, ← Draft.exists_build_iff]
    simp only [Except.bind_eq_ok_iff]
    constructor
    · rintro ⟨i, schema, hbuild, -⟩
      exact ⟨schema, hbuild⟩
    · rintro ⟨schema, hbuild⟩
      exact ⟨_, schema, hbuild, rfl⟩

/-- A page with a text and a photo. -/
def cardPage : Html.Document where
  children := [.element (.make 0 (html "div") [⟨.plain, "style", "width:1px;height:1px"⟩])
    [.element (.make 1 (html "p") []) [.text "Name"],
      .element (.make 2 (html "img") [⟨.plain, "src", "photo.png"⟩]) []]]

/-- Photos are bound to a field, and a variant hides them. -/
def cardConfig : MarkupConfig where
  canvas := ⟨1, 1⟩
  placeholderMarkers := ["Name"]
  imageFields := [⟨"photo", "photo"⟩]
  variants := [⟨"plain", "Plain", [⟨"img", .hide⟩]⟩]

lemma cardPage_root : ∃ root inference, root? cardConfig.canvas cardPage = some root ∧
    Inference.ofConfig cardConfig = .ok inference ∧
    ((Page.frame cardConfig { inference } root).1.preorder.map (·.id) =
      ["frame-1", "text-2", "image-3"]) := by
  have hplaces : cardPage.places.Pairwise fun p q => p.element.serial ≤ q.element.serial := by
    decide +kernel
  have hcheck : ((root? cardConfig.canvas cardPage).any fun root =>
      (Inference.ofConfig cardConfig).toOption.any fun inference =>
        (Page.frame cardConfig { inference } root).1.preorder.map (·.id) ==
          ["frame-1", "text-2", "image-3"]) = true := by
    rw [root?, Html.Document.inOrder_eq hplaces]
    decide +kernel
  obtain ⟨root, hroot, hcheck⟩ := (Option.any_eq_true _ _).1 hcheck
  obtain ⟨inference, hinference, hids⟩ := exists_ok_of_any hcheck
  exact ⟨root, inference, hroot, hinference, by simpa using hids⟩

lemma cardConfig_selectors : ∀ r ∈ cardConfig.variants, ∀ o ∈ r.overrides,
    (Selector.ofText? o.selector).isSome = true := by
  decide +kernel

theorem Html.Document.toImport_wellFormed_card :
    ∃ i, cardPage.toImport cardConfig "card" = .ok i ∧
      i.schema.preorder.map (·.id) = ["frame-1", "text-2", "image-3"] ∧
      i.schema.variants.map (·.id) = ["plain"] := by
  obtain ⟨root, inference, hroot, hinference, hframe⟩ := cardPage_root
  have hcount : (Page.frame cardConfig { inference } root).1.preorder.length < 2 ^ 32 := by
    rw [← List.length_map (f := (·.id)), hframe]
    decide
  obtain ⟨vs, -, -, hids, -, hparts, -, hiff⟩ :=
    toImport_wellFormed hroot hinference cardConfig_selectors rfl hcount "card"
  have hrules : ∀ r ∈ cardConfig.imageFields, (FieldPath.ofText? r.field).isSome = true := by
    decide +kernel
  obtain ⟨i, hi⟩ := hiff.2 ⟨by decide, fun r hr _ => hrules r hr, by decide,
    Tokens.firstFault?_eq_none.1 (by decide +kernel)⟩
  obtain ⟨htop, hvs⟩ := hparts i hi
  refine ⟨i, hi, ?_, ?_⟩
  · rw [← hframe, Schema.preorder, Draft.preorder, Draft.top, ← Schema.root, htop]
    exact congrArg _ (Node.preorders_singleton _)
  · rw [hvs, hids]
    rfl

end VisualTemplate
