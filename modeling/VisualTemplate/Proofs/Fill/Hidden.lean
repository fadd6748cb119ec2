import VisualTemplate.Document
import VisualTemplate.Proofs.Node.Rendered
/-!
Hidden content has no influence on a document.

The values of a fill and the markup are both found by a walk of its own over the tree. Each of the
two sees a tree as it sees the tree without its hidden nodes, so trees that agree without them give
the same document or the same error.
-/

namespace VisualTemplate

namespace Resolution

/-- A node counts only by its id and its binding. -/
lemma step_congr (s : Submission) (state : Resolution × Slots) {n m : Node}
    (h : (n.id, n.binding) = (m.id, m.binding)) : step s state n = step s state m := by
  obtain ⟨hid, hbinding⟩ := Prod.mk.inj h
  unfold step
  rw [hid, hbinding]

lemma foldl_step_congr (s : Submission) {ns ms : List Node}
    (h : ns.map (fun m => (m.id, m.binding)) = ms.map fun m => (m.id, m.binding))
    (state : Resolution × Slots) : ns.foldl (step s) state = ms.foldl (step s) state := by
  induction ns generalizing ms state with
  | nil =>
    rw [List.map_nil, eq_comm, List.map_eq_nil_iff] at h
    rw [h]
  | cons n ns ih =>
    cases ms with
    | nil => simp at h
    | cons m ms =>
      obtain ⟨hhead, htail⟩ := List.cons.inj h
      rw [List.foldl_cons, List.foldl_cons, step_congr s state hhead, ih htail]

/-- The values do not depend on hidden nodes. -/
lemma ofNodes_shownIn (s : Submission) (ns : List Node) :
    ofNodes s (Node.shownIn ns) = ofNodes s ns := by
  rw [ofNodes, foldl_step_congr s (Node.heads_shownIn ns), ← ofNodes]

end Resolution

namespace Document

variable (c : Context)

lemma Emitted.append_assoc (x y z : Emitted) :
    (x.append y).append z = x.append (y.append z) := by
  simp [Emitted.append]

lemma Emitted.append_none (x : Emitted) : x.append .none = x := by
  simp [Emitted.append, Emitted.none]

lemma Emitted.none_append (x : Emitted) : Emitted.none.append x = x := by
  simp [Emitted.append, Emitted.none]

lemma emitAll_append (ns ms : List Node) : emitAll c (ns ++ ms) = (do
    let first ← emitAll c ns
    let rest ← emitAll c ms
    .ok (first.append rest)) := by
  induction ns with
  | nil =>
    rw [List.nil_append, emitAll]
    cases emitAll c ms with
    | error e => rfl
    | ok x => exact congrArg Except.ok (Emitted.none_append x).symm
  | cons n ns ih =>
    rw [List.cons_append, emitAll, emitAll, ih]
    cases emit c n with
    | error e => rfl
    | ok x =>
      cases emitAll c ns with
      | error e => rfl
      | ok y =>
        cases emitAll c ms with
        | error e => rfl
        | ok z => exact congrArg Except.ok (Emitted.append_assoc x y z).symm

lemma emitAll_singleton (n : Node) : emitAll c [n] = emit c n := by
  rw [emitAll, emitAll]
  cases emit c n with
  | error e => rfl
  | ok x => exact congrArg Except.ok (Emitted.append_none x)

mutual

lemma emitAll_shown (n : Node) : emitAll c n.shown = emit c n := by
  match n with
  | .container h l cs =>
    rw [Node.shown, emit]
    split
    · next hv => rw [emitAll_singleton, emit, if_pos hv, emitAll_shownIn cs]
    · rw [emitAll]
  | .leaf h l =>
    rw [Node.shown, emit]
    split
    · next hv => rw [emitAll_singleton, emit, if_pos hv]
    · rw [emitAll]

/-- The markup does not depend on hidden nodes. -/
lemma emitAll_shownIn (ns : List Node) : emitAll c (Node.shownIn ns) = emitAll c ns := by
  match ns with
  | [] => rfl
  | n :: ns => rw [Node.shownIn, emitAll_append, emitAll_shown n, emitAll_shownIn ns, emitAll]

end

/-- The document of a schema with other nodes in place of its own. -/
def ofNodes (config : CompileConfig) (s : Schema) (r : FillRequest) (assets : AssetSource)
    (nodes : List Node) : Except Error Document := do
  let palette ← Palette.ofTokens s.tokens r.tokens
  let resolution := Resolution.ofNodes r.submission nodes
  let emitted ← emitAll ⟨palette, resolution.values, assets⟩ nodes
  let (fonts, missing) := fontRules assets config.fonts
  .ok
    { schemaId := s.id
      variant := r.variant
      width := s.canvas.width
      height := s.canvas.height
      html := page config.lang s.title (fonts ++ config.fontCss.getD "") s.canvas
        (writeAll (body s emitted.markup))
      diagnostics := resolution.diagnostics ++ emitted.diagnostics ++ missing }

variable (config : CompileConfig) {s t : Schema} {r : FillRequest} (assets : AssetSource)

lemma compile_eq_ofNodes : compile config s r assets =
    s.nodesFor r.variant >>= ofNodes config s r assets := rfl

lemma ofNodes_shownIn (ns : List Node) :
    ofNodes config s r assets (Node.shownIn ns) = ofNodes config s r assets ns := by
  unfold ofNodes
  simp only [Resolution.ofNodes_shownIn, emitAll_shownIn]

/-- Of a schema only these parts count besides its nodes. -/
lemma ofNodes_congr (hid : s.id = t.id) (htitle : s.title = t.title)
    (hcanvas : s.canvas = t.canvas) (hversion : s.version = t.version)
    (htokens : s.tokens = t.tokens) : ofNodes config s r assets = ofNodes config t r assets := by
  funext ns
  unfold ofNodes body
  rw [hid, htitle, hcanvas, hversion, htokens]

/-- **Hidden content has no influence.** Two schemas that differ in their nodes and variants only
give the same document, or fail alike, on every request that leaves them with nodes that are equal
once hidden nodes and all below them are left out. -/
theorem compile_eq_of_shown_eq (hid : s.id = t.id) (htitle : s.title = t.title)
    (hcanvas : s.canvas = t.canvas) (hversion : s.version = t.version)
    (htokens : s.tokens = t.tokens)
    (hshown : (s.nodesFor r.variant).map Node.shownIn = (t.nodesFor r.variant).map Node.shownIn) :
    compile config s r assets = compile config t r assets := by
  rw [compile_eq_ofNodes, compile_eq_ofNodes,
    ofNodes_congr config assets hid htitle hcanvas hversion htokens]
  cases hs : s.nodesFor r.variant with
  | error e =>
    cases ht : t.nodesFor r.variant with
    | error e' =>
      rw [hs, ht] at hshown
      exact congrArg Except.error (Except.error.inj hshown)
    | ok ms => rw [hs, ht] at hshown; cases hshown
  | ok ns =>
    cases ht : t.nodesFor r.variant with
    | error e' => rw [hs, ht] at hshown; cases hshown
    | ok ms =>
      rw [hs, ht] at hshown
      have hns : Node.shownIn ns = Node.shownIn ms := Except.ok.inj hshown
      show ofNodes config t r assets ns = ofNodes config t r assets ms
      rw [← ofNodes_shownIn config assets ns, hns, ofNodes_shownIn]

/-- A text for the first of some people, behind a hidden box. -/
def behind (content : List Node) : Draft where
  id := "s"
  canvas := ⟨2, 1⟩
  version := .tree
  root := some (.container { id := "root" } (.frame { width := 2, height := 1 })
    [.container { id := "back", visible := false } (.box {}) content,
      .leaf { id := "name" }
        (.text { content := "", binding := some ⟨"people[].name", .text, none⟩ })])

/-- In sight, these would fail for their colour, warn for their asset and take the first person. -/
def unseen : List Node :=
  [.leaf { id := "other" }
      (.text { content := "", color := .token "gone",
               binding := some ⟨"people[].name", .text, none⟩ }),
    .leaf { id := "photo" } (.image { src := "asset://gone" })]

def behindNothing : Schema := ⟨behind [], by decide +kernel⟩
def behindUnseen : Schema := ⟨behind unseen, by decide +kernel⟩

theorem compile_eq_of_shown_eq_behind :
    compile {} behindUnseen {} (fun _ => none) = compile {} behindNothing {} fun _ => none :=
  compile_eq_of_shown_eq {} (fun _ => none) rfl rfl rfl rfl rfl rfl

end Document

end VisualTemplate
