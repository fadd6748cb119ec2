import VisualTemplate.Proofs.Node.Needed
import VisualTemplate.Proofs.Schema.Nesting
/-!
Written schemas that are refused.

The gate looks neither at the size of numbers nor at the depth of nodes, and what it accepts can be
written. But a text that nests its containers too deep is no document, and a number that is not
finite is written as `null`, which only a line height may be.
-/

namespace VisualTemplate

open Json

/-- What is decoded from an indented text is decoded from what the text is read as. -/
lemma Json.Decoder.exists_of_parse {α : Type} {d : Decoder α} {v : Value} {a : α} (hv : v.Legible)
    (h : d.parse v.pretty = .ok a) : ∃ b, d .streamed (v.sourceAt 0) = .ok b := by
  rw [parse, ofText, ofText_pretty_eq hv] at h
  cases hd : d .streamed (v.sourceAt 0) with
  | error e =>
    simp only [hd] at h
    exact absurd h (by simp [bind, Except.bind, Except.mapError])
  | ok b => exact ⟨b, rfl⟩

/-! ### Nodes nested too deep -/

/-- A flattened object whose own fields nest little nests no deeper than allowed. -/
lemma Json.Decoder.nesting_le_of_flattened {α β : Type} {r : Record α}
    {rest : List (Option String × Source) → Except Fault β}
    {fields : List (String × Option Value)} {depth : ℕ} {p : α × β}
    (hlegible : ∀ f ∈ fields, ∀ v ∈ f.2, v.Legible)
    (hown : ∀ f ∈ fields, f.1 ∈ r.names → ∀ v ∈ f.2, v.nesting ≤ 1)
    (h : flattened r rest .streamed ((Value.ofFields fields).sourceAt depth) = .ok p) :
    (Value.ofFields fields).nesting ≤ max 2 (depthLimit - depth) := by
  rw [ofFields_eq, Value.sourceAt] at h
  obtain ⟨hroom, hsound⟩ := sound_of_flattened h
  have hlt : depth < depthLimit := by simpa using hroom
  have hfields : (Value.ofFields fields).nesting ≤ max 1 (depthLimit - (depth + 1)) + 1 := by
    refine nesting_ofFields_le fun f hf v hv => ?_
    by_cases hk : f.1 ∈ r.names
    · exact le_max_of_le_left (hown f hf hk v hv)
    · have hmem : (f.1, some v) ∈ fields := by rwa [← Option.mem_def.1 hv]
      have hwhole := hsound f.1 (v.sourceAt (depth + 1)) (stand_fieldSourcesAt _ _ _ _ hmem) hk
      exact le_max_of_le_right (nesting_le_of_sound (hlegible f hf v hv) hwhole)
  omega

namespace Node.Wire

/-- A container that is read nests no deeper than allowed. -/
lemma tells_nesting {h : Head} {l : Layout} {cs : List Node} {fuel depth : ℕ}
    (hlegible : AllLegible (Node.container h l cs).singles) :
    (nodes fuel).Tells .streamed depth (Node.container h l cs).toValue
      ((Node.container h l cs).toValue.nesting ≤ max 2 (depthLimit - depth)) := by
  intro n hread
  simp only [Node.singles, allLegible_append] at hlegible
  have hnames : ∀ f ∈ ("type", some (.string l.kind)) :: layout l (.array (Node.toValues cs)),
      f.1 ∉ heads.names := by
    cases l <;> exact of_decide_eq_true rfl
  cases fuel with
  | zero => exact absurd hread (by simp [nodes])
  | succ fuel =>
    rw [Node.toValue] at hread ⊢
    rw [nodes] at hread
    obtain ⟨p, hp⟩ := Decoder.exists_of_map hread
    refine Decoder.nesting_le_of_flattened ?_ (fun f hf hown => ?_) hp
    · have hlayout := legible_layout hlegible.1.2 (.array (Node.legibleIn cs hlegible.2))
      exact List.forall_mem_append.2 ⟨legible_head hlegible.1.1,
        List.forall_mem_cons.2 ⟨by simp, hlayout⟩⟩
    · rcases List.mem_append.1 hf with hf | hf
      · exact nesting_head_le h f hf
      · exact absurd hown (hnames f hf)

end Node.Wire

lemma Node.toValue_object (n : Node) : ∃ fs, n.toValue = .object fs := by
  cases n <;> exact ⟨_, by rw [toValue, ofFields_eq]⟩

namespace Schema

variable {s : Schema}

lemma legible_toValue (h : AllLegible s.draft.singles) : s.toValue.Legible := by
  simp only [Draft.singles, allLegible_append] at h
  obtain ⟨⟨hroot, hnodes⟩, htokens⟩ := h
  have hrootValue (r : Node) (hr : s.draft.root = some r) : r.toValue.Legible := by
    rw [hr, Option.toList_some, Node.singlesIn, allLegible_append] at hroot
    exact Node.legible r hroot.1
  have hlist : (Value.array (Node.toValues s.draft.nodes)).Legible :=
    .array (Node.legibleIn s.draft.nodes hnodes)
  have hvariants : (Value.array (s.variants.map (·.toValue))).Legible :=
    (reads_list_self fun v _ => Variant.reads v).rereads.legible
  have hbindings : (Value.array (s.bindings.map (·.toValue))).Legible :=
    (reads_list_self fun e _ => BindingEntry.reads e).rereads.legible
  refine legible_ofFields ?_
  simp [root, hlist, hvariants, hbindings, (Version.reads s.version).rereads.legible,
    (Canvas.reads s.canvas).rereads.legible]
  exact ⟨hrootValue, Tokens.legible htokens⟩

/-- What a reading of a schema's own fields tells is known where the schema's text is accepted. -/
lemma of_ofText {P : Prop} (htells : Draft.record.Tells .streamed 1 s.fields P)
    (hlegible : AllLegible s.draft.singles) {t : Schema} (h : ofText s.toText = .ok t) : P := by
  obtain ⟨index, hparse, -⟩ := ofText_eq_ok_iff.1 h
  obtain ⟨p, hp⟩ := Decoder.exists_of_parse (legible_toValue hlegible) hparse
  exact (Decoder.fieldsTell_record htells).tells p hp

/-- **A schema that nests its containers too deep is refused.** -/
lemma nesting_le_of_ofText (hlegible : AllLegible s.draft.singles) {t : Schema}
    (hload : ofText s.toText = .ok t) : s.toValue.nesting ≤ depthLimit := by
  have hstructured : s.draft.Structured := (Draft.fault?_eq_none.1 s.accepted).1.structured
  cases hversion : s.draft.version with
  | flat => exact (nesting_le_of_flat hversion).trans (by decide)
  | tree =>
    rw [Draft.Structured, hversion] at hstructured
    obtain ⟨hnodes, root, hroot, hframe, -⟩ := hstructured
    have hread := hlegible
    simp only [Draft.singles, hroot, Option.toList_some, Node.singlesIn, allLegible_append] at hread
    cases root with
    | leaf h l => exact absurd hframe (by simp [Node.isFrame])
    | container h l cs =>
      have htells : Draft.record.Tells .streamed 1 s.fields
          (∀ r ∈ s.root, r.toValue.nesting ≤ 126) := by
        refine (Record.Tells.maybe (f := Node.toValue) (P := fun r => r.toValue.nesting ≤ 126)
          (by simp [fields]) Node.toValue_object fun r hr => ?_).right.left.left.left.left
        obtain rfl : r = .container h l cs := by simpa [Schema.root, hroot] using hr.symm
        exact Node.Wire.tells_nesting hread.1.1.1
      exact nesting_toValue_le (by decide) (of_ofText htells hlegible hload)
        (by simp [hnodes])

lemma tells_nodes : (Record.optional "nodes" Node.decoder.list []).Tells .streamed 1 s.fields
    (∀ n ∈ s.draft.nodes, AllFinite n.needed) := by
  have hmem : ("nodes", if s.draft.nodes.isEmpty then none
      else some (.array (Node.toValues s.draft.nodes))) ∈ s.fields := by simp [fields]
  refine .ifWritten hmem (fun v hv => ?_) fun hnone => ?_
  · split at hv
    · exact absurd hv (by simp)
    · rw [← Option.some.inj hv, Node.toValues_eq_map]
      exact .list (Node.Wire.tells_nodes s.draft.nodes _ _ _)
  · split at hnone
    · next hempty => simp [List.isEmpty_iff.1 hempty]
    · exact absurd hnone (by simp)

/-- **A schema with a needed number that is not finite is refused.** -/
lemma allFinite_needed_of_ofText (hlegible : AllLegible s.draft.singles) {t : Schema}
    (h : ofText s.toText = .ok t) : AllFinite s.draft.needed := by
  have hroot : (Record.maybe "root" Node.decoder).Tells .streamed 1 s.fields
      (∀ r ∈ s.root, AllFinite r.needed) :=
    Record.Tells.maybe (f := Node.toValue) (by simp [fields]) Node.toValue_object
      fun r _ => Node.Wire.tells_node r _ _ _
  obtain ⟨⟨hr, hn⟩, htokens⟩ := of_ofText
    ((hroot.right.seq tells_nodes).seq (.part (by simp [fields]) s.tokens.tells)).left.left
    hlegible h
  rw [Draft.needed, allFinite_append, allFinite_append, Node.allFinite_neededIn,
    Node.allFinite_neededIn]
  exact ⟨⟨by simpa [Schema.root] using hr, hn⟩, htokens⟩

end Schema

end VisualTemplate
