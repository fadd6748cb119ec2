import VisualTemplate.Proofs.Node.Reread
import VisualTemplate.Proofs.Schema.Gate
/-!
Written schemas read back.

A schema is read back from its own text: its parts are read as the settled parts, and the gate finds
no fault in these because it found none before. A text that nests containers too deep is not read
at all, and a number that is not finite is not written as a number.
-/

namespace VisualTemplate

open Json

/-! ### Parts of schemas -/

lemma Canvas.reads (c : Canvas) : Canvas.decoder.Reads c.toValue c := by
  show Decoder.Reads _ (.ofFields [("width", some (.nat c.width.toNat)),
    ("height", some (.nat c.height.toNat))]) _
  exact Decoder.reads_record rfl (of_decide_eq_true rfl)
    (((Record.Reads.written rfl (Node.Wire.reads_word32 c.width)).map _).seq
      (.written rfl (Node.Wire.reads_word32 c.height))) rfl

lemma Version.reads (v : Version) : Version.decoder.Reads (.nat v.number) v := by
  have hnumber : (Decoder.below 256).Reads (.nat v.number) v.number :=
    Decoder.reads_below (by cases v <;> decide) (by decide)
  exact Decoder.reads_refine hnumber (by cases v <;> rfl)

lemma Derivation.reads {d : Derivation} (h : AllReread d.singles) :
    Derivation.decoder.Reads d.toValue d := by
  cases d with
  | lighten source percent =>
    show Decoder.Reads _ (.ofFields (("op", some (.string "lighten")) ::
      [("from", some (.string source)), ("percent", some (.single percent))])) _
    exact Decoder.reads_tagged rfl (of_decide_eq_true rfl)
      (Decoder.reads_record rfl (of_decide_eq_true rfl)
        (((Record.Reads.written rfl (Decoder.reads_string source)).map _).seq
          (.written rfl (h percent List.mem_cons_self).reads)) rfl)

lemma Token.reads {t : Token} (h : AllReread t.singles) : Token.decoder.Reads t.toValue t := by
  have hderivation : ∀ d ∈ t.derivation, Derivation.decoder.Reads d.toValue d := by
    intro d hd
    rw [Token.singles, Option.mem_def.1 hd] at h
    exact Derivation.reads h
  have hnull (d : Derivation) : d.toValue ≠ .null := by
    cases d with
    | lighten source percent => simp [Derivation.toValue]
  exact Decoder.reads_record rfl (of_decide_eq_true rfl)
    ((((Record.Reads.ifAny rfl (fun s _ => Decoder.reads_string s) (by simp)).map _).seq
      (.written rfl (Decoder.reads_bool t.editable))).seq
      (.ifAny rfl hderivation hnull)) rfl

lemma Tokens.reads {ts : Tokens} (h : AllReread (ts.entries.flatMap fun e => e.2.singles)) :
    Tokens.decoder.Reads ts.toValue ts := by
  refine Decoder.reads_table fun e he => Token.reads fun x hx => h x ?_
  exact List.mem_flatMap.2 ⟨e, he, hx⟩

lemma Override.reads (o : Override) : Override.decoder.Reads o.toValue o := by
  have hoperation : Visibility.decoder.Reads (.string o.operation.word) o.operation :=
    Decoder.reads_oneOf (by cases o.operation <;> rfl)
  show Decoder.Reads _ (.ofFields [("nodeId", some (.string o.nodeId)),
    ("operation", some (.string o.operation.word))]) _
  exact Decoder.reads_record rfl (of_decide_eq_true rfl)
    (((Record.Reads.written rfl (Decoder.reads_string o.nodeId)).map _).seq
      (.written rfl hoperation)) rfl

lemma reads_list_self {α : Type} {d : Decoder α} {f : α → Value} {as : List α}
    (h : ∀ a ∈ as, d.Reads (f a) a) : d.list.Reads (.array (as.map f)) as := by
  have hmap : d.list.Reads (.array (as.map f)) (as.map fun a => a) := Decoder.reads_list h
  rwa [List.map_id'] at hmap

lemma Variant.reads (v : Variant) : Variant.decoder.Reads v.toValue v := by
  show Decoder.Reads _ (.ofFields [("id", some (.string v.id)), ("name", some (.string v.name)),
    ("overrides", some (.array (v.overrides.map (·.toValue))))]) _
  exact Decoder.reads_record rfl (of_decide_eq_true rfl)
    ((((Record.Reads.written rfl (Decoder.reads_string v.id)).map _).seq
      (.written rfl (Decoder.reads_string v.name))).seq
      (.written rfl (reads_list_self fun o _ => Override.reads o))) rfl

lemma BindingEntry.reads (e : BindingEntry) : BindingEntry.decoder.Reads e.toValue e :=
  Decoder.reads_record rfl (of_decide_eq_true rfl)
    ((((Record.Reads.written rfl (Decoder.reads_string e.nodeId)).map _).seq
      (.written rfl (Decoder.reads_string e.field))).seq
      (.written rfl (reads_bindingKind e.kind))) rfl

/-! ### Schemas -/

namespace Schema

variable {s : Schema}

/-- The fields of a written schema. -/
def fields (s : Schema) : List (String × Option Value) :=
  [("id", some (.string s.id)), ("title", some (.string s.title)),
    ("canvas", some s.canvas.toValue), ("version", some (.nat s.version.number)),
    ("root", s.root.map (·.toValue)),
    ("nodes", if s.draft.nodes.isEmpty then none else some (.array (Node.toValues s.draft.nodes))),
    ("tokens", some s.tokens.toValue),
    ("variants", some (.array (s.variants.map (·.toValue)))),
    ("bindings", some (.array (s.bindings.map (·.toValue))))]

lemma reads_root (hnesting : s.toValue.nesting ≤ depthLimit)
    (hread : AllReread (Node.singlesIn s.draft.root.toList)) :
    (Record.maybe "root" Node.decoder).Reads s.fields (s.draft.root.map Node.settled) := by
  have hroot : ∀ n ∈ s.draft.root, Node.decoder.Reads n.toValue n.settled := by
    intro n hn
    have hmem : ("root", some n.toValue) ∈ s.fields := by
      have hsome : s.root.map (·.toValue) = some n.toValue := by rw [root, Option.mem_def.1 hn]; rfl
      simp [fields, hsome]
    have hlt : n.toValue.nesting < s.toValue.nesting := nesting_lt_ofFields hmem
    rw [Option.mem_def.1 hn, Option.toList_some, Node.singlesIn, allReread_append] at hread
    exact Node.Wire.reads_node n hread.1 (by omega)
  refine .ifAnyAs rfl hroot fun n => ?_
  cases n <;> simp [Node.toValue, ofFields_eq]

lemma reads_nodes (hnesting : s.toValue.nesting ≤ depthLimit)
    (hread : AllReread (Node.singlesIn s.draft.nodes)) :
    (Record.optional "nodes" Node.decoder.list []).Reads s.fields
      (Node.settledAll s.draft.nodes) := by
  refine .unlessDefault rfl (fun v hv => ?_) fun hnone => ?_
  · split at hv
    · exact absurd hv (by simp)
    · next hne =>
      obtain rfl := Option.some.inj hv
      have hmem : ("nodes", some (.array (Node.toValues s.draft.nodes))) ∈ s.fields := by
        simp [fields, hne]
      have hlt : (Value.array (Node.toValues s.draft.nodes)).nesting < s.toValue.nesting :=
        nesting_lt_ofFields hmem
      rw [Value.nesting] at hlt
      rw [Node.toValues_eq_map] at hlt ⊢
      rw [Node.settledAll_eq_map]
      refine Decoder.reads_list (Node.Wire.reads_nodes s.draft.nodes hread fun n hn => ?_)
      have hle : n.toValue.nesting ≤ itemsNesting _ := nesting_le_items (List.mem_map_of_mem hn)
      omega
  · split at hnone
    · next hempty =>
      rw [List.isEmpty_iff.1 hempty]
      rfl
    · exact absurd hnone (by simp)

/-- The parts of a schema are read as the settled parts, its list of bindings as it is. -/
lemma reads_parts (hnesting : s.toValue.nesting ≤ depthLimit)
    (hread : AllReread s.draft.singles) :
    (Decoder.record Draft.record).Reads s.toValue (s.draft.settled, s.bindings) := by
  simp only [Draft.singles, allReread_append] at hread
  obtain ⟨⟨hroot, hnodes⟩, htokens⟩ := hread
  show Decoder.Reads _ (.ofFields s.fields) _
  exact Decoder.reads_record rfl (of_decide_eq_true rfl)
    ((((((((((Record.Reads.written rfl (Decoder.reads_string s.id)).map _).seq
      (.written rfl (Decoder.reads_string s.title))).seq
      (.written rfl (Canvas.reads s.canvas))).seq
      (.written rfl (Version.reads s.version))).seq
      (reads_root hnesting hroot)).seq
      (reads_nodes hnesting hnodes)).seq
      (.written rfl (Tokens.reads htokens))).seq
      (.written rfl (reads_list_self fun v _ => Variant.reads v))).seq
      (.written rfl (reads_list_self fun e _ => BindingEntry.reads e))) rfl

/-- The settled parts of a schema pass the gate with its list of bindings. -/
lemma fault?_settled (s : Schema) : s.draft.settled.fault? s.bindings = none := by
  have hvalid : s.draft.Valid := (Draft.fault?_eq_none.1 s.accepted).1
  rw [Draft.fault?_settled, Draft.fault?_eq_none]
  refine ⟨hvalid, fun e he => ?_⟩
  obtain ⟨n, hn, b, -, rfl⟩ := (Draft.mem_bindings_iff e).1 he
  exact ⟨n, hn, rfl⟩

/-- The settled parts of a schema are written like the schema. -/
lemma toValue_settled (s : Schema) (h : s.draft.settled.fault? [] = none) :
    toValue ⟨s.draft.settled, h⟩ = s.toValue := by
  have hroot : (s.draft.root.map Node.settled).map (·.toValue) = s.draft.root.map (·.toValue) := by
    simp only [Option.map_map, Function.comp_def, Node.toValue_settled]
  have hempty : (Node.settledAll s.draft.nodes).isEmpty = s.draft.nodes.isEmpty := by
    rw [Node.settledAll_eq_map, List.isEmpty_map]
  unfold toValue
  simp only [id, title, canvas, version, root, tokens, variants, bindings, Draft.bindings_settled]
  simp only [Draft.settled, hroot, hempty, Node.toValues_settledAll]

/-- What is read from the text of a schema has the settled parts and is written as the same text. -/
lemma exists_ofText_toText (hnesting : s.toValue.nesting ≤ depthLimit)
    (hread : AllReread s.draft.singles) :
    ∃ t, ofText s.toText = .ok t ∧ t.draft = s.draft.settled ∧ t.toText = s.toText := by
  have hparts := reads_parts hnesting hread
  have haccepted := Draft.fault?_nil (fault?_settled s)
  refine ⟨⟨s.draft.settled, haccepted⟩, ?_, rfl, ?_⟩
  · refine ofText_eq_ok_iff.2 ⟨s.bindings, ?_, Draft.check_eq_ok_iff.2 ⟨rfl, fault?_settled s⟩⟩
    rw [Decoder.parse, toText, hparts.ofText hnesting]
    rfl
  · rw [toText, toValue_settled, toText]

/-- A schema with the settled parts equals the schema, if the numbers are finite. -/
lemma beq_of_settled {t : Schema} (hfinite : AllFinite s.draft.singles)
    (h : t.draft = s.draft.settled) : (t == s) = true := by
  show (t.draft == s.draft) = true
  rw [h]
  exact Draft.settled_beq hfinite

lemma bindings_of_settled {t : Schema} (h : t.draft = s.draft.settled) :
    t.bindings = s.bindings := by
  rw [bindings, h]
  exact s.draft.bindings_settled

/-- **A schema is read back from its text.** If its numbers are finite and are read back from their
own texts, and its containers are not nested too deep, then the text of a schema is accepted, what
is read equals the schema and has its list of bindings, and it is written as the same text. -/
theorem ofText_toText (s : Schema) (hnesting : s.toValue.nesting ≤ depthLimit)
    (hfinite : AllFinite s.draft.singles) (hread : AllReread s.draft.singles) :
    ∃ t, ofText s.toText = .ok t ∧ (t == s) = true ∧ t.bindings = s.bindings ∧
      t.toText = s.toText := by
  obtain ⟨t, hload, ht, htext⟩ := exists_ofText_toText hnesting hread
  exact ⟨t, hload, beq_of_settled hfinite ht, bindings_of_settled ht, htext⟩

/-- All kinds of nodes below a frame, with parts that are left out and parts that are not. -/
def everyKind : Draft where
  id := "every"
  title := "Every kind"
  canvas := ⟨1080, 1350⟩
  version := .tree
  root := some (.container { id := "root" } (.frame { width := 1080, height := 1350 })
    [.container { id := "row", name := "Row" }
        (.flex { width := .percent 33.5, gap := -0.0, background := some (.token "light") })
        [.leaf { id := "title" }
            (.text
              { width := .px 0.1, content := "Title", margin := .uniform 4,
                binding := some ⟨"title", .text, some "Title"⟩ }),
          .leaf { id := "photo", visible := false } (.image { src := "p.png" })],
      .container { id := "box" } (.box { boxSizing := some .borderBox })
        [.leaf { id := "clip" }
            (.svg
              { width := 4, height := 4, viewBox := "0 0 4 4",
                mask := some ⟨"m", "M0 0", some ⟨1.5, -2⟩⟩ }),
          .leaf { id := "shape" }
            (.shape
              { width := 3, height := 3, shape := .rectangle 0,
                stroke := some ⟨.literal "#fff", 1e-7⟩ })]])
  tokens := .ofList [("light", .ofLighten "primary" 12.5), ("primary", .ofEditable "#112233")]
  variants := [⟨"plain", "Plain", [⟨"photo", .reveal⟩]⟩]

def everyKindSchema : Schema := ⟨everyKind, by decide +kernel⟩

theorem ofText_toText_everyKind : ∃ t, ofText everyKindSchema.toText = .ok t ∧
    (t == everyKindSchema) = true ∧ t.bindings = everyKindSchema.bindings ∧
    t.toText = everyKindSchema.toText :=
  ofText_toText everyKindSchema (by decide +kernel) (by decide +kernel) (by decide +kernel)

end Schema

end VisualTemplate
