import VisualTemplate.Proofs.Schema.Derivation
import VisualTemplate.Schema.Wire
/-!
The gate accepts just the valid drafts.

A draft is valid if its parts belong together; this is said here without the order in which the
gate looks at them. Each check of the gate finds no fault just when its part of the condition holds.
-/

namespace VisualTemplate

namespace Node

/-- The node stands in a list of nodes or anywhere below one of them. -/
inductive Within (n : Node) : List Node → Prop
  | here {ns : List Node} : n ∈ ns → Within n ns
  | inside {m : Node} {ns : List Node} : m ∈ ns → Within n m.children → Within n ns

lemma Within.mono {n : Node} {ns ms : List Node} (h : Within n ns) (hsub : ns ⊆ ms) :
    Within n ms := by
  cases h with
  | here hn => exact .here (hsub hn)
  | inside hm hn => exact .inside (hsub hm) hn

mutual

/-- Pre-order lists a node and all below it. -/
theorem mem_preorder_iff (n m : Node) : n ∈ m.preorder ↔ n = m ∨ Within n m.children := by
  match m with
  | .container h l cs => rw [preorder, List.mem_cons, mem_preorders_iff n cs]; rfl
  | .leaf h l =>
    rw [preorder, List.mem_singleton]
    refine ⟨.inl, ?_⟩
    rintro (h | h)
    · exact h
    · cases h with
      | here hn => exact absurd hn List.not_mem_nil
      | inside hm _ => exact absurd hm List.not_mem_nil

theorem mem_preorders_iff (n : Node) (ns : List Node) : n ∈ preorders ns ↔ Within n ns := by
  match ns with
  | [] =>
    rw [preorders]
    refine ⟨fun h => absurd h List.not_mem_nil, fun h => ?_⟩
    cases h with
    | here hn => exact absurd hn List.not_mem_nil
    | inside hm _ => exact absurd hm List.not_mem_nil
  | m :: ms =>
    rw [preorders, List.mem_append, mem_preorder_iff n m, mem_preorders_iff n ms]
    constructor
    · rintro ((rfl | h) | h)
      · exact .here List.mem_cons_self
      · exact .inside List.mem_cons_self h
      · exact h.mono (List.subset_cons_self _ _)
    · intro h
      cases h with
      | here hn =>
        rcases List.mem_cons.1 hn with rfl | hn
        · exact .inl (.inl rfl)
        · exact .inr (.here hn)
      | inside hm hn =>
        rcases List.mem_cons.1 hm with rfl | hm
        · exact .inl (.inr hn)
        · exact .inr (.inside hm hn)

end

lemma preorders_singleton (n : Node) : preorders [n] = n.preorder := by
  rw [preorders, preorders, List.append_nil]

lemma preorders_append (ns ms : List Node) :
    preorders (ns ++ ms) = preorders ns ++ preorders ms := by
  simp only [preorders_eq_flatMap, List.flatMap_append]

/-- The ids of a node and of all below it, in pre-order. -/
def ids (n : Node) : List String := n.preorder.map (·.id)

def idsIn (ns : List Node) : List String := (preorders ns).map (·.id)

lemma ids_container (h : Head) (l : Layout) (cs : List Node) :
    ids (.container h l cs) = h.id :: idsIn cs := rfl

lemma ids_leaf (h : Head) (l : Leaf) : ids (.leaf h l) = [h.id] := rfl

lemma idsIn_cons (n : Node) (ns : List Node) : idsIn (n :: ns) = n.ids ++ idsIn ns := by
  rw [idsIn, preorders, List.map_append]
  rfl

lemma idsIn_append (ns ms : List Node) : idsIn (ns ++ ms) = idsIn ns ++ idsIn ms := by
  rw [idsIn, preorders_append, List.map_append, idsIn, idsIn]

/-! ### The rows of the list of bindings -/

/-- The row of a bound leaf. -/
def row? (h : Head) (l : Leaf) : Option BindingEntry :=
  l.binding.map fun b => ⟨h.id, b.field, b.kind⟩

mutual

/-- The rows of a node and of all below it, each before those of its children. -/
def rows : Node → List BindingEntry
  | .container _ _ cs => rowsIn cs
  | .leaf h l => (row? h l).toList

def rowsIn : List Node → List BindingEntry
  | [] => []
  | n :: ns => n.rows ++ rowsIn ns

end

mutual

theorem filterMap_preorder (n : Node) : (n.preorder.filterMap fun n =>
    n.binding.map fun b => (⟨n.id, b.field, b.kind⟩ : BindingEntry)) = n.rows := by
  match n with
  | .container h l cs =>
    rw [preorder, List.filterMap_cons, filterMap_preorders cs]
    rfl
  | .leaf h l =>
    rw [preorder, rows, row?]
    cases hb : l.binding <;> simp [binding, hb, id, head]

theorem filterMap_preorders (ns : List Node) : ((preorders ns).filterMap fun n =>
    n.binding.map fun b => (⟨n.id, b.field, b.kind⟩ : BindingEntry)) = rowsIn ns := by
  match ns with
  | [] => rfl
  | n :: ns =>
    rw [preorders, List.filterMap_append, filterMap_preorder n, filterMap_preorders ns, rowsIn]

end

end Node

/-! ### What a valid draft is -/

/-- A token has a default that is a colour, or it is derived from a declared token. -/
def Token.Valid (ts : Tokens) (t : Token) : Prop :=
  (∃ value, t.default_ = some value ∧ t.derivation = none ∧ (Color.ofText? value).isSome) ∨
  (∃ d, t.default_ = none ∧ t.derivation = some d ∧ ∃ source, ts.get? d.source = some source)

namespace Draft

variable (d : Draft)

/-- A flat schema is a list of leaves; a layout schema is one frame with no frame below it. -/
def Structured : Prop :=
  match d.version with
  | .flat => d.root = none ∧ ∀ n ∈ d.nodes, n.isContainer = false
  | .tree => d.nodes = [] ∧ ∃ root, d.root = some root ∧ root.isFrame = true ∧
      ∀ n, Node.Within n root.children → n.isFrame = false

/-- A node of the draft has the id. -/
def Names (id : String) : Prop := ∃ n, Node.Within n d.top ∧ n.id = id

/-- The parts of a draft belong together. -/
structure Valid : Prop where
  width_pos : 0 < d.canvas.width
  height_pos : 0 < d.canvas.height
  structured : d.Structured
  ids_nodup : (d.preorder.map (·.id)).Nodup
  fields_parse : ∀ n, Node.Within n d.top → ∀ b ∈ n.binding, (FieldPath.ofText? b.field).isSome
  variants_nodup : (d.variants.map (·.id)).Nodup
  overrides_name : ∀ v ∈ d.variants, ∀ o ∈ v.overrides, d.Names o.nodeId
  tokens_valid : ∀ name t, d.tokens.get? name = some t → t.Valid d.tokens
  tokens_acyclic : d.tokens.Acyclic

variable {d}

/-! ### What each check finds -/

lemma canvasFault?_eq_none : d.canvasFault? = none ↔ 0 < d.canvas.width ∧ 0 < d.canvas.height := by
  have hpos (x : UInt32) : x ≠ 0 ↔ 0 < x := by
    rw [UInt32.lt_iff_toNat_lt, Ne, ← UInt32.toNat_inj]
    exact Nat.pos_iff_ne_zero.symm
  rw [← hpos, ← hpos]
  simp [canvasFault?, Canvas.isEmpty]

lemma structureFault?_eq_none : d.structureFault? = none ↔ d.Structured := by
  unfold structureFault? Structured
  cases d.version with
  | flat =>
    cases d.root with
    | none => simp
    | some root => simp
  | tree =>
    cases d.root with
    | none => simp
    | some root =>
      cases hn : d.nodes with
      | nil =>
        cases hf : root.isFrame with
        | true => simp [hf, Node.mem_preorders_iff]
        | false => simp [hf]
      | cons n ns => simp

lemma firstRepeated_eq_none (seen xs : List String) :
    firstRepeated seen xs = none ↔ xs.Nodup ∧ ∀ x ∈ xs, x ∉ seen := by
  induction xs generalizing seen with
  | nil => simp [firstRepeated]
  | cons x xs ih =>
    rw [firstRepeated]
    by_cases hx : x ∈ seen
    · simp [hx]
    · rw [if_neg (by simpa using hx), ih, List.nodup_cons]
      constructor
      · rintro ⟨hnodup, hall⟩
        refine ⟨⟨fun hmem => hall x hmem List.mem_cons_self, hnodup⟩, fun y hy => ?_⟩
        rcases List.mem_cons.1 hy with rfl | hy
        · exact hx
        · exact fun hseen => hall y hy (List.mem_cons_of_mem _ hseen)
      · rintro ⟨⟨hnot, hnodup⟩, hall⟩
        refine ⟨hnodup, fun y hy hseen => ?_⟩
        rcases List.mem_cons.1 hseen with rfl | hseen
        · exact hnot hy
        · exact hall y (List.mem_cons_of_mem _ hy) hseen

lemma idFault?_eq_none : d.idFault? = none ↔ (d.preorder.map (·.id)).Nodup := by
  simp [idFault?, firstRepeated_eq_none]

lemma mem_bindings_iff (e : BindingEntry) : e ∈ d.bindings ↔
    ∃ n, Node.Within n d.top ∧ ∃ b ∈ n.binding, e = ⟨n.id, b.field, b.kind⟩ := by
  simp only [bindings, preorder, List.mem_filterMap, Node.mem_preorders_iff,
    Option.map_eq_some_iff, Option.mem_def, eq_comm (a := e)]

lemma pathFault?_eq_none : d.pathFault? = none ↔
    ∀ n, Node.Within n d.top → ∀ b ∈ n.binding, (FieldPath.ofText? b.field).isSome := by
  rw [pathFault?, Option.map_eq_none_iff, List.find?_eq_none]
  constructor
  · intro h n hn b hb
    have := h _ ((mem_bindings_iff _).2 ⟨n, hn, b, hb, rfl⟩)
    simpa [Option.isSome_iff_ne_none] using this
  · intro h e he
    obtain ⟨n, hn, b, hb, rfl⟩ := (mem_bindings_iff _).1 he
    simpa [Option.isSome_iff_ne_none] using h n hn b hb

lemma hasNode_iff {id : String} : d.hasNode id = true ↔ d.Names id := by
  simp [hasNode, Names, preorder, Node.mem_preorders_iff]

lemma indexFault?_eq_none {index : List BindingEntry} :
    d.indexFault? index = none ↔ ∀ e ∈ index, d.Names e.nodeId := by
  simp [indexFault?, hasNode_iff]

lemma variantsFault?_eq_none (seen : List String) (vs : List Variant) :
    d.variantsFault? seen vs = none ↔
      ((vs.map (·.id)).Nodup ∧ ∀ v ∈ vs, v.id ∉ seen) ∧
        ∀ v ∈ vs, ∀ o ∈ v.overrides, d.Names o.nodeId := by
  induction vs generalizing seen with
  | nil => simp [variantsFault?]
  | cons v vs ih =>
    rw [variantsFault?]
    by_cases hv : v.id ∈ seen
    · simp [hv]
    · rw [if_neg (by simpa using hv)]
      have hrest : firstRepeated seen ((v :: vs).map (·.id)) =
          firstRepeated (v.id :: seen) (vs.map (·.id)) := by
        rw [List.map_cons, firstRepeated, if_neg (by simpa using hv)]
      have hids := firstRepeated_eq_none seen ((v :: vs).map (·.id))
      rw [hrest, firstRepeated_eq_none] at hids
      simp only [List.forall_mem_map] at hids
      cases hf : v.overrides.find? fun o => !d.hasNode o.nodeId with
      | some o =>
        have ho := List.find?_some hf
        rw [Bool.not_eq_true', ← Bool.not_eq_true, hasNode_iff] at ho
        simp only [reduceCtorEq, false_iff]
        exact fun h => ho (h.2 v List.mem_cons_self o (List.mem_of_find?_eq_some hf))
      | none =>
        rw [List.find?_eq_none] at hf
        have hover : ∀ o ∈ v.overrides, d.Names o.nodeId := by
          intro o ho
          simpa [hasNode_iff] using hf o ho
        simp only [ih, hids, List.forall_mem_cons]
        exact and_congr_right fun _ => (and_iff_right hover).symm

lemma variantFault?_eq_none : d.variantFault? = none ↔
    (d.variants.map (·.id)).Nodup ∧ ∀ v ∈ d.variants, ∀ o ∈ v.overrides, d.Names o.nodeId := by
  simp [variantFault?, variantsFault?_eq_none]

end Draft

lemma Tokens.fault?_eq_none {ts : Tokens} {name : String} {t : Token} :
    ts.fault? name t = none ↔ t.Valid ts := by
  unfold Tokens.fault? Token.Valid
  cases hdefault : t.default_ <;> cases hderivation : t.derivation <;>
    simp [Table.contains_iff, Option.isSome_iff_ne_none]

lemma Tokens.firstFault?_eq_none {ts : Tokens} : ts.firstFault? = none ↔
    (∀ name t, ts.get? name = some t → t.Valid ts) ∧ ts.Acyclic := by
  rw [firstFault?, Option.or_eq_none_iff, List.findSome?_eq_none_iff, Option.map_eq_none_iff,
    List.find?_eq_none, ← ends_iff_acyclic]
  refine and_congr ?_ (by simp)
  simp only [Prod.forall, Table.mem_entries_iff, fault?_eq_none]

namespace Draft

variable {d : Draft} {index : List BindingEntry}

/-- The gate finds no fault just in valid drafts whose stored rows name nodes. -/
lemma fault?_eq_none : d.fault? index = none ↔ d.Valid ∧ ∀ e ∈ index, d.Names e.nodeId := by
  simp only [fault?, Option.or_eq_none_iff, Option.map_eq_none_iff, canvasFault?_eq_none,
    structureFault?_eq_none, idFault?_eq_none, pathFault?_eq_none, indexFault?_eq_none,
    variantFault?_eq_none, Tokens.firstFault?_eq_none]
  constructor
  · rintro ⟨⟨hw, hh⟩, hs, hids, hfields, hindex, ⟨hv, ho⟩, ht, hacyclic⟩
    exact ⟨⟨hw, hh, hs, hids, hfields, hv, ho, ht, hacyclic⟩, hindex⟩
  · rintro ⟨h, hindex⟩
    exact ⟨⟨h.width_pos, h.height_pos⟩, h.structured, h.ids_nodup, h.fields_parse, hindex,
      ⟨h.variants_nodup, h.overrides_name⟩, h.tokens_valid, h.tokens_acyclic⟩

lemma check_eq_ok_iff {s : Schema} :
    d.check index = .ok s ↔ s.draft = d ∧ d.fault? index = none := by
  unfold check
  split
  · next e he => simp [he]
  · next he =>
    constructor
    · intro h
      rw [← Except.ok.inj h]
      exact ⟨rfl, he⟩
    · rintro ⟨rfl, -⟩
      rfl

lemma bindings_eq_rows (d : Draft) : d.bindings = Node.rowsIn d.top :=
  Node.filterMap_preorders d.top

lemma exists_check_iff : (∃ s, d.check index = .ok s) ↔
    d.Valid ∧ ∀ e ∈ index, d.Names e.nodeId := by
  simp only [check_eq_ok_iff, fault?_eq_none]
  constructor
  · rintro ⟨s, -, h⟩
    exact h
  · intro h
    exact ⟨⟨d, fault?_nil (fault?_eq_none.2 h)⟩, rfl, h⟩

end Draft

/-! ### Documents -/

/-- A decoder with a check behind it takes what both accept. -/
lemma Json.Decoder.parse_refine {α β : Type} {decoder : Json.Decoder α}
    {f : α → Except Json.Fault β} {text : String} {b : β} :
    (decoder.refine f).parse text = .ok b ↔ ∃ a, decoder.parse text = .ok a ∧ f a = .ok b := by
  have mapError_ok {γ : Type} {x : Except Json.Fault γ} {c : γ} :
      x.mapError Error.document = .ok c ↔ x = .ok c := by
    cases x <;> simp [Except.mapError]
  simp only [Json.Decoder.parse, mapError_ok, Json.Decoder.ofText, Json.Decoder.refine]
  cases decoder .streamed (Json.Source.ofText text).1 with
  | error e => simp [bind, Except.bind]
  | ok a =>
    cases (Json.Source.ofText text).2 <;> cases hf : f a <;> simp [bind, Except.bind, hf]

lemma Schema.ofText_eq_ok_iff {text : String} {s : Schema} : Schema.ofText text = .ok s ↔
    ∃ index, (Json.Decoder.record Draft.record).parse text = .ok (s.draft, index) ∧
      s.draft.check index = .ok s := by
  have mapError_ok {x : Except Error Schema} :
      (x.mapError fun e => Json.Fault.refused e.message) = .ok s ↔ x = .ok s := by
    cases x <;> simp [Except.mapError]
  rw [Schema.ofText, Schema.decoder, Json.Decoder.parse_refine]
  simp only [Prod.exists, mapError_ok]
  constructor
  · rintro ⟨d, index, hread, hcheck⟩
    obtain ⟨rfl, -⟩ := Draft.check_eq_ok_iff.1 hcheck
    exact ⟨index, hread, hcheck⟩
  · rintro ⟨index, hread, hcheck⟩
    exact ⟨s.draft, index, hread, hcheck⟩

/-- **The gate is sound and complete.** A draft passes just when it is valid. A document passes
just when its parts are read, they are valid and all rows of its stored list of bindings name a
node. The schema keeps all parts as they are, and its list of bindings has one row for each bound
node, in pre-order. -/
theorem Draft.gate_iff_valid (d : Draft) (text : String) :
    ((∃ s, d.build = .ok s) ↔ d.Valid) ∧
    ((∃ s, Schema.ofText text = .ok s ∧ s.draft = d) ↔
      ∃ index, (Json.Decoder.record Draft.record).parse text = .ok (d, index) ∧ d.Valid ∧
        ∀ e ∈ index, d.Names e.nodeId) ∧
    (∀ s, d.build = .ok s ↔ s.draft = d ∧ d.Valid) ∧
    ∀ s : Schema, s.bindings = Node.rowsIn s.draft.top := by
  refine ⟨?_, ?_, fun s => ?_, fun s => Draft.bindings_eq_rows s.draft⟩
  · rw [Draft.build, Draft.exists_check_iff]
    simp
  · simp only [Schema.ofText_eq_ok_iff]
    constructor
    · rintro ⟨s, ⟨index, hread, hcheck⟩, rfl⟩
      exact ⟨index, hread, Draft.exists_check_iff.1 ⟨s, hcheck⟩⟩
    · rintro ⟨index, hread, hvalid⟩
      obtain ⟨s, hs⟩ := Draft.exists_check_iff.2 hvalid
      obtain ⟨rfl, -⟩ := Draft.check_eq_ok_iff.1 hs
      exact ⟨s, ⟨index, hread, hs⟩, rfl⟩
  · rw [Draft.build, Draft.check_eq_ok_iff, Draft.fault?_eq_none]
    simp

/-- A frame with a bound text, a derived colour and a variant. -/
def sample : Draft where
  id := "s"
  canvas := ⟨2, 1⟩
  version := .tree
  root := some (.container { id := "root" } (.frame { width := 2, height := 1 })
    [.leaf { id := "title" } (.text { content := "Title", binding := some ⟨"title", .text, none⟩ })])
  tokens := .ofList [("light", .ofLighten "primary" 10), ("primary", .ofEditable "#112233")]
  variants := [⟨"plain", "Plain", [⟨"title", .hide⟩]⟩]

lemma sample_accepted : sample.fault? [] = none := by decide +kernel

lemma exists_ok_of_any {ε α : Type} {x : Except ε α} {p : α → Bool}
    (h : x.toOption.any p = true) : ∃ a, x = .ok a ∧ p a = true := by
  cases x with
  | error e => exact absurd h (by simp [Except.toOption])
  | ok a => exact ⟨a, rfl, h⟩

/-- A document with a bound text and the row of its binding. -/
def indexedText : String :=
  Json.Value.compact (.object [("id", .string "s"),
    ("canvas", .object [("width", .nat 2), ("height", .nat 1)]), ("version", .nat 1),
    ("nodes", .array [.object [("type", .string "text"), ("id", .string "title"),
      ("content", .string "Title"),
      ("binding", .object [("field", .string "title"), ("kind", .string "text")])]]),
    ("bindings", .array [.object [("nodeId", .string "title"), ("field", .string "title"),
      ("kind", .string "text")]])])

theorem Draft.gate_iff_valid_sample : sample.Valid ∧
    Schema.bindings ⟨sample, sample_accepted⟩ = [⟨"title", "title", .text⟩] ∧
    ∃ s, Schema.ofText indexedText = .ok s ∧
      (Json.Decoder.record Draft.record).parse indexedText =
        .ok (s.draft, [⟨"title", "title", .text⟩]) := by
  refine ⟨?_, (Draft.gate_iff_valid sample "").2.2.2 ⟨sample, sample_accepted⟩, ?_⟩
  · exact ((Draft.gate_iff_valid sample "").2.2.1 ⟨sample, sample_accepted⟩).1
      (Draft.check_eq_ok_iff.2 ⟨rfl, sample_accepted⟩) |>.2
  · have hcheck : ((Json.Decoder.record Draft.record).parse indexedText).toOption.any
        (fun p => p.2 == [⟨"title", "title", .text⟩] && (p.1.fault? p.2).isNone) = true := by
      decide +kernel
    obtain ⟨⟨d, index⟩, hread, hp⟩ := exists_ok_of_any hcheck
    simp only [Bool.and_eq_true, beq_iff_eq, Option.isNone_iff_eq_none] at hp
    obtain ⟨rfl, hfault⟩ := hp
    obtain ⟨s, hs, rfl⟩ := (Draft.gate_iff_valid d indexedText).2.1.2
      ⟨_, hread, Draft.fault?_eq_none.1 hfault⟩
    exact ⟨s, hs, hread⟩

end VisualTemplate
