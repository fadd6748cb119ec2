import VisualTemplate.Proofs.Design.Markers
import VisualTemplate.Proofs.Page.WellFormed
/-!
Which designs are imported.

A design must have one root, the payloads of its bitmaps must be read, and the gate must take the
draft. The walk leaves only leaves, and binds them to fields that names of layers mark; each such
field is a path. So the gate can refuse the draft for the canvas, for ids that are repeated or name
no node, and for the tokens, but neither for a field nor for its tree.
-/

namespace VisualTemplate

/-! ### Refusals of a list of leaves -/

/-- A name is a path. -/
lemma FieldPath.IsIdentifier.isSome_ofText? {field : String} (h : IsIdentifier field.toList) :
    (ofText? field).isSome = true := by
  have hread : ofText? field = some ⟨[.key (.ofList field.toList)]⟩ := by
    refine ofText?_eq_some.2 ⟨⟨[⟨field.toList, []⟩]⟩, ⟨by simp, ?_⟩, ?_, rfl, ?_⟩
    · simpa [Part.Valid] using h
    · simp [Spelling.chars, Part.chars]
    · simp [Segment.Fits]
  rw [hread]
  rfl

/-- The error is about a field, the frame or the version. -/
def Error.isOfShape : Error → Bool
  | invalidFieldPath _ => true
  | structural fault => fault.isOfTree
  | _ => false

lemma Error.isOfShape_of_isOfTokens {e : Error} (h : e.isOfTokens = true) :
    e.isOfShape = false := by
  cases e with
  | structural fault => cases fault <;> first | rfl | cases h
  | _ => first | rfl | cases h

namespace Draft

variable {d : Draft} {e : Error}

/-- A draft of the right shape whose fields are paths is refused for something else. -/
lemma isOfShape_fault (hstructured : d.Structured)
    (hfields : ∀ n, Node.Within n d.top → ∀ b ∈ n.binding, (FieldPath.ofText? b.field).isSome)
    (h : d.fault? [] = some e) : e.isOfShape = false := by
  cases hasFault_of_fault? h with
  | canvas empty => rfl
  | tree found =>
    rw [structureFault?_eq_none.2 hstructured] at found
    cases found
  | repeatedId repeated => rfl
  | path within bound unread =>
    have hread := hfields _ within _ bound
    rw [unread] at hread
    cases hread
  | row stored dangling => rfl
  | repeatedVariant declared => rfl
  | override declared listed dangling => rfl
  | token found => exact Error.isOfShape_of_isOfTokens (Tokens.isOfTokens_firstFault found)

end Draft

lemma Asset.isOfShape_ofPayload {payload : String} {e : Error}
    (h : ofPayload payload = .error e) : e.isOfShape = false := by
  have hdata {rest : String} (h : ofDataUri rest = .error e) : e.isOfShape = false := by
    unfold ofDataUri at h
    split at h
    · rw [← Except.error.inj h]; rfl
    · dsimp only at h
      split at h
      · split at h
        · cases h
        · rw [← Except.error.inj h]; rfl
      · cases h
  unfold ofPayload at h
  dsimp only at h
  split at h
  · exact hdata h
  · split at h
    · cases h
    · split at h
      · cases h
      · rw [← Except.error.inj h]; rfl

namespace Design

open Layer

/-! ### The draft of a design -/

/-- A node is bound to a name. -/
lemma isIdentifier_of_boundField? {x : Emission} {field : String} (h : boundField? x = some field) :
    FieldPath.IsIdentifier field.toList := by
  obtain ⟨p, k⟩ := x
  cases k with
  | text =>
    rcases Option.or_eq_some_iff.1 h with h | ⟨-, h⟩
    · exact isIdentifier_of_marker? h
    · obtain ⟨group, m, rest, t, -, -, -, hgroup⟩ := handed_eq_some h
      exact isIdentifier_of_marker? hgroup
  | image => exact isIdentifier_of_marker? h
  | clipped =>
    rcases Option.or_eq_some_iff.1 h with h | ⟨-, h⟩
    · exact isIdentifier_of_marker? h
    · obtain ⟨pair, -, h⟩ := Option.bind_eq_some_iff.1 h
      rcases Option.or_eq_some_iff.1 h with h | ⟨-, h⟩
      · exact isIdentifier_of_marker? h
      · exact isIdentifier_of_marker? h
  | fill => cases h
  | shape => cases h

/-- The sides of an export: its own if both are positive, or else those of its root. -/
def Export.sides (e : Export) (root : Layer) : Float32 × Float32 :=
  if e.width > 0 ∧ e.height > 0 then (e.width, e.height) else (root.own.width, root.own.height)

section Drafts

variable {config : DesignConfig} {id : String} {e : Export} {root : Layer} {assets : Assets}

lemma canvas_draft : (e.draft config id root assets).canvas =
    ⟨(e.sides root).1.nearestWord, (e.sides root).2.nearestWord⟩ := by
  show canvasOf e root = _
  unfold canvasOf Export.sides
  by_cases h : e.width > 0 ∧ e.height > 0
  · rw [if_pos h, if_pos (by simpa using h)]
  · rw [if_neg h, if_neg (by simpa using h)]

lemma map_id_drawn {s : Surroundings} {xs : List Emission} {ns : List Node}
    (h : List.Forall₂ s.Drawn xs ns) : ns.map (·.id) = xs.map (·.1.1.id) := by
  induction h with
  | nil => rfl
  | cons hx _ ih =>
    obtain ⟨leaf, rfl, -⟩ := hx
    rw [List.map_cons, List.map_cons, ih]
    rfl

lemma isContainer_drawn {s : Surroundings} {xs : List Emission} {ns : List Node}
    (h : List.Forall₂ s.Drawn xs ns) : ∀ n ∈ ns, n.isContainer = false := by
  induction h with
  | nil => exact fun n hn => absurd hn List.not_mem_nil
  | cons hx _ ih =>
    obtain ⟨leaf, rfl, -⟩ := hx
    exact List.forall_mem_cons.2 ⟨rfl, ih⟩

variable (config id e root assets) in
lemma structured_draft : (e.draft config id root assets).Structured :=
  ⟨rfl, isContainer_drawn (drawn_flatten config.tokens assets e root)⟩

variable (config id e root assets) in
lemma preorder_draft :
    (e.draft config id root assets).preorder = (flatten config.tokens assets e root).nodes :=
  preorders_shownBy (shownBy_flatten config.tokens assets e root)

variable (config id e root assets) in
lemma map_id_draft :
    (e.draft config id root assets).preorder.map (·.id) = root.emissions.map (·.1.1.id) := by
  rw [preorder_draft]
  exact map_id_drawn (drawn_flatten config.tokens assets e root)

variable (config id e root assets) in
lemma names_draft (nodeId : String) : (e.draft config id root assets).Names nodeId ↔
    nodeId ∈ root.emissions.map (·.1.1.id) := by
  rw [← map_id_draft config id e root assets, List.mem_map]
  exact exists_congr fun n => and_congr_left fun _ => (Node.mem_preorders_iff n _).symm

variable (config id e root assets) in
lemma fields_draft : ∀ n, Node.Within n (e.draft config id root assets).top →
    ∀ b ∈ n.binding, (FieldPath.ofText? b.field).isSome = true := by
  intro n hn b hb
  have hrow := (Draft.mem_bindings_iff _).2 ⟨n, hn, b, hb, rfl⟩
  rw [Draft.bindings_eq_rows] at hrow
  have hrows : Node.rowsIn (e.draft config id root assets).top = root.emissions.filterMap row? :=
    rows_flatten config.tokens assets e root
  rw [hrows, List.mem_filterMap] at hrow
  obtain ⟨x, -, hx⟩ := hrow
  obtain ⟨field, hfield, hx⟩ := Option.map_eq_some_iff.1 hx
  obtain rfl : field = b.field := congrArg BindingEntry.field hx
  exact (isIdentifier_of_boundField? hfield).isSome_ofText?

end Drafts

/-! ### Imports -/

lemma isOfShape_assetsOf {es : List (String × String)} {err : Error}
    (h : assetsOf es = .error err) : err.isOfShape = false := by
  induction es with
  | nil => cases h
  | cons x es ih =>
    rcases Except.bind_eq_error_iff.1 h with h | ⟨a, -, h⟩
    · exact Asset.isOfShape_ofPayload h
    · rcases Except.bind_eq_error_iff.1 h with h | ⟨rest, -, h⟩
      · exact ih h
      · cases h

/-- What an export with this root and its configuration must have to be imported. -/
structure Importable (config : DesignConfig) (e : Export) (root : Layer) : Prop where
  payloads_read : ∀ key payload, e.images.get? key = some payload →
    ∃ a, Asset.ofPayload payload = .ok a
  width_pos : 0 < (e.sides root).1.nearestWord
  height_pos : 0 < (e.sides root).2.nearestWord
  ids_nodup : (root.emissions.map (·.1.1.id)).Nodup
  variants_nodup : (config.variants.map (·.id)).Nodup
  overrides_name : ∀ v ∈ config.variants, ∀ o ∈ v.overrides,
    o.nodeId ∈ root.emissions.map (·.1.1.id)
  tokens_valid : config.tokens.Valid

variable {config : DesignConfig} {id : String} {e : Export} {root : Layer}

variable (id) in
lemma importable_iff : Importable config e root ↔ ∃ assets,
    assetsOf e.images.entries = .ok assets ∧ (e.draft config id root assets).Valid := by
  have hreads : (∃ assets, assetsOf e.images.entries = .ok assets) ↔
      ∀ key payload, e.images.get? key = some payload → ∃ a, Asset.ofPayload payload = .ok a := by
    simp only [exists_assetsOf_iff, Prod.forall, Table.mem_entries_iff]
  constructor
  · intro h
    obtain ⟨assets, hassets⟩ := hreads.2 h.payloads_read
    refine ⟨assets, hassets, ?_⟩
    exact
      { width_pos := by
          rw [canvas_draft]
          exact h.width_pos
        height_pos := by
          rw [canvas_draft]
          exact h.height_pos
        structured := structured_draft ..
        ids_nodup := (map_id_draft config id e root assets).symm ▸ h.ids_nodup
        fields_parse := fields_draft config id e root assets
        variants_nodup := h.variants_nodup
        overrides_name := fun v hv o ho => (names_draft ..).2 (h.overrides_name v hv o ho)
        tokens_valid := h.tokens_valid.1
        tokens_acyclic := h.tokens_valid.2 }
  · rintro ⟨assets, hassets, h⟩
    exact
      { payloads_read := hreads.1 ⟨assets, hassets⟩
        width_pos := by
          have hwidth := h.width_pos
          rwa [canvas_draft] at hwidth
        height_pos := by
          have hheight := h.height_pos
          rwa [canvas_draft] at hheight
        ids_nodup := map_id_draft config id e root assets ▸ h.ids_nodup
        variants_nodup := h.variants_nodup
        overrides_name := fun v hv o ho =>
          (names_draft config id e root assets _).1 (h.overrides_name v hv o ho)
        tokens_valid := ⟨h.tokens_valid, h.tokens_acyclic⟩ }

lemma Export.isOfShape_toImport {err : Error} (h : e.toImport config id = .error err) :
    err.isOfShape = false := by
  unfold toImport at h
  split at h
  · next root hlayers =>
    rcases Except.bind_eq_error_iff.1 h with h | ⟨assets, -, h⟩
    · exact isOfShape_assetsOf h
    · rcases Except.bind_eq_error_iff.1 h with h | ⟨s, -, h⟩
      · exact Draft.isOfShape_fault (structured_draft ..) (fields_draft config id e root assets)
          (Draft.check_eq_error_iff.1 h)
      · cases h
  · rw [← Except.error.inj h]
    rfl

/-- **When a design is imported.** It is if it has one root, its payloads are read, its rounded sides
are not zero, its nodes have different ids, its variants too and name only nodes, and the tokens are
valid; and not otherwise. It is never refused for a field, a container or a version. Its assets are
those of the payloads, each under its key. -/
theorem Export.exists_toImport_iff (config : DesignConfig) (id : String) (e : Export) :
    ((∃ i, e.toImport config id = .ok i) ↔
      ∃ root, e.layers = [root] ∧ Importable config e root) ∧
    (∀ err, e.toImport config id = .error err → err.isOfShape = false) ∧
    ∀ i, e.toImport config id = .ok i → ∀ key a, i.assets.get? key = some a ↔
      ∃ payload, e.images.get? key = some payload ∧ Asset.ofPayload payload = .ok a := by
  refine ⟨?_, fun err => isOfShape_toImport, fun i hi key a => ?_⟩
  · simp only [importable_iff id, ← Draft.exists_build_iff]
    constructor
    · rintro ⟨i, hi⟩
      obtain ⟨root, hlayers, hassets, hs, -⟩ := toImport_eq_ok_iff.1 hi
      exact ⟨root, hlayers, i.assets, hassets, i.schema, hs⟩
    · rintro ⟨root, hlayers, assets, hassets, s, hs⟩
      exact ⟨⟨s, assets, (flatten config.tokens assets e root).diagnostics⟩,
        toImport_eq_ok_iff.2 ⟨root, hlayers, hassets, hs, rfl⟩⟩
  · obtain ⟨root, -, hassets, -⟩ := toImport_eq_ok_iff.1 hi
    exact get?_assets hassets

/-- A variant without the photo, and a derived colour. -/
def portraitConfig : DesignConfig where
  tokens := .ofList [("light", .ofLighten "primary" 10), ("primary", .ofEditable "#112233")]
  variants := [⟨"plain", "Plain", [⟨"team", .hide⟩]⟩]

/-- The portrait is imported with its one asset; two of them in one export are refused. -/
theorem Export.exists_toImport_portrait :
    (∃ i, portrait.toImport portraitConfig "p" = .ok i ∧
      i.assets.get? "face" = some ⟨"image/png", [1, 2]⟩) ∧
    ∃ err, { portrait with layers := portrait.layers ++ portrait.layers }.toImport
      portraitConfig "p" = .error err ∧ err.isOfShape = false := by
  obtain ⟨root, hroot⟩ : ∃ root, portrait.layers = [root] := ⟨_, rfl⟩
  have hface : portrait.images.entries = [("face", "data:image/png;base64,AQI=")] := by
    decide +kernel
  have hread : Asset.ofPayload "data:image/png;base64,AQI=" = .ok ⟨"image/png", [1, 2]⟩ := by
    decide +kernel
  have himportable : Importable portraitConfig portrait root := by
    obtain rfl := (List.cons.inj hroot).1
    exact
      { payloads_read := fun key payload h => by
          rw [← Table.mem_entries_iff, hface, List.mem_singleton] at h
          cases h
          exact ⟨_, hread⟩
        width_pos := by decide +kernel
        height_pos := by decide +kernel
        ids_nodup := by decide +kernel
        variants_nodup := by decide
        overrides_name := by decide +kernel
        tokens_valid := Tokens.firstFault?_eq_none.1 (by decide +kernel) }
  have hrefused : { portrait with layers := portrait.layers ++ portrait.layers }.toImport
      portraitConfig "p" = .error (.importing (.rootCount 2)) := rfl
  obtain ⟨hiff, -, hassets⟩ := Export.exists_toImport_iff portraitConfig "p" portrait
  obtain ⟨i, hi⟩ := hiff.2 ⟨root, hroot, himportable⟩
  have hasset := (hassets i hi "face" ⟨"image/png", [1, 2]⟩).2
    ⟨_, Table.mem_entries_iff.1 (hface ▸ List.mem_singleton_self _), hread⟩
  exact ⟨⟨i, hi, hasset⟩, _, hrefused, (Export.exists_toImport_iff _ _ _).2.1 _ hrefused⟩

end Design

end VisualTemplate
