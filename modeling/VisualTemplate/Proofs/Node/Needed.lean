import VisualTemplate.Proofs.Json.Readings
import VisualTemplate.Proofs.Node.Legible
/-!
Numbers that a written template cannot do without.

A number that is not finite is written as `null`, and no part takes `null` for a number. Only a line
height may be missing, and a share stands inside a text. So where a template is read from its text,
all other numbers are finite.
-/

/-- What equals zero is finite. -/
lemma Float32.isFinite_of_beq_zero {x : Float32} (h : (x == 0) = true) : x.isFinite = true := by
  have hzero : (0 : Float32).toModel.unpack = .zero .positive := rfl
  replace h : (x.toModel.unpack.compare (0 : Float32).toModel.unpack == some .eq) = true := h
  show x.toModel.unpack.isFinite = true
  rw [hzero] at h
  cases hx : x.toModel.unpack with
  | notANumber =>
    rw [hx] at h
    exact absurd h Bool.false_ne_true
  | infinity s =>
    rw [hx] at h
    cases s <;> exact absurd h Bool.false_ne_true
  | zero s => rfl
  | finite s m e hm => rfl

namespace VisualTemplate

open Json

/-! ### The needed numbers of a template -/

def Length.needed : Length → List Float32
  | .px x => [x]
  | .percent _ => []
  | .auto => []

def Layout.needed : Layout → List Float32
  | .frame f => f.padding.singles
  | .flex f => f.width.needed ++ f.height.needed ++ f.gap :: f.padding.singles
  | .box b => b.width.needed ++ b.height.needed ++ b.padding.singles

def Leaf.needed : Leaf → List Float32
  | .text t => t.width.needed ++ t.height.needed ++ t.font.size :: t.margin.singles
  | .image i => i.width.needed ++ i.height.needed
  | .svg s => s.width :: s.height :: (s.mask.map Mask.singles).getD []
  | .shape s => s.width :: s.height :: (s.shape.singles ++ (s.stroke.map (·.width)).toList)

mutual

/-- The numbers in a node and below it but line heights and shares. -/
def Node.needed : Node → List Float32
  | .container h l cs => h.singles ++ l.needed ++ Node.neededIn cs
  | .leaf h l => h.singles ++ l.needed

def Node.neededIn : List Node → List Float32
  | [] => []
  | n :: ns => n.needed ++ Node.neededIn ns

end

/-- The numbers in a draft but line heights and shares. -/
def Draft.needed (d : Draft) : List Float32 :=
  Node.neededIn d.root.toList ++ Node.neededIn d.nodes ++
    d.tokens.entries.flatMap fun e => e.2.singles

@[simp] lemma allFinite_nil : AllFinite [] := List.forall_mem_nil _

/-- All numbers of a part that may be missing. -/
lemma allFinite_getD {α : Type} {o : Option α} {f : α → List Float32} :
    AllFinite ((o.map f).getD []) ↔ ∀ a ∈ o, AllFinite (f a) := by
  cases o <;> simp

lemma Node.allFinite_neededIn {ns : List Node} :
    AllFinite (neededIn ns) ↔ ∀ n ∈ ns, AllFinite n.needed := by
  induction ns with
  | nil => simp [neededIn]
  | cons n ns ih => rw [neededIn, allFinite_append, ih, List.forall_mem_cons]

/-! ### Parts of nodes -/

variable {mode : Mode} {depth : ℕ}

/-- A decoder that does not take `null` takes only finite numbers. -/
lemma isFinite_of_tells_null {α : Type} {d : Decoder α} (hnull : ∀ a, d mode .null ≠ .ok a)
    (x : Float32) : d.Tells mode depth (.single x) (x.isFinite = true) := by
  intro a ha
  rw [← Bool.not_eq_false]
  intro hlost
  have hsource : (Value.single x).sourceAt depth = .null :=
    source_of_lost (Float32.documentText_of_isFinite_eq_false hlost)
  rw [hsource] at ha
  exact hnull a ha

lemma tells_single (x : Float32) :
    Decoder.single.Tells mode depth (.single x) (x.isFinite = true) :=
  isFinite_of_tells_null (by simp [Decoder.single]) x

lemma Length.tells (l : Length) :
    decoder.Tells mode depth l.toValue (AllFinite l.needed) := by
  cases l with
  | px x =>
    have hnull : decoder mode .null = .error .misshapen := by cases mode <;> rfl
    exact (isFinite_of_tells_null (by simp [hnull]) x).imp fun hx => by simpa [needed, AllFinite]
  | percent x => exact fun _ _ => List.forall_mem_nil _
  | auto => exact fun _ _ => List.forall_mem_nil _

lemma Insets.tells (i : Insets) :
    decoder.Tells mode depth i.toValue (AllFinite i.singles) := by
  show Decoder.Tells _ _ _ (.ofFields [("top", some (.single i.top)),
    ("right", some (.single i.right)), ("bottom", some (.single i.bottom)),
    ("left", some (.single i.left))]) _
  refine (Decoder.fieldsTell_record
    ((((Record.Tells.part (by simp) (tells_single i.top)).map.seq
      (.part (by simp) (tells_single i.right))).seq
      (.part (by simp) (tells_single i.bottom))).seq
      (.part (by simp) (tells_single i.left)))).tells.imp fun h => ?_
  simpa [Insets.singles, allFinite_cons, and_assoc] using h

lemma Position.tells (p : Position) :
    decoder.Tells mode depth p.toValue (AllFinite p.singles) := by
  show Decoder.Tells _ _ _ (.ofFields [("x", some (.single p.x)), ("y", some (.single p.y))]) _
  refine (Decoder.fieldsTell_record
    ((Record.Tells.part (by simp) (tells_single p.x)).map.seq
      (.part (by simp) (tells_single p.y)))).tells.imp fun h => ?_
  simpa [Position.singles, allFinite_cons] using h

namespace Node.Wire

variable {fields : List (String × Option Value)}

lemma tells_unlessZero {name : String} (x : Float32) {default_ : Option Float32}
    (hmem : (name, unlessZero x) ∈ fields) :
    (Record.part name .single default_).Tells mode depth fields (x.isFinite = true) := by
  refine .ifWritten hmem (fun v hv => ?_) fun hnone => ?_
  · unfold unlessZero at hv
    split at hv
    · exact absurd hv (by simp)
    · rw [← Option.some.inj hv]
      exact tells_single x
  · unfold unlessZero at hnone
    split at hnone
    · next hzero => exact Float32.isFinite_of_beq_zero hzero
    · exact absurd hnone (by simp)

lemma tells_unlessZeroInsets {name : String} (i : Insets) {default_ : Option Insets}
    (hmem : (name, unlessZeroInsets i) ∈ fields) :
    (Record.part name Insets.decoder default_).Tells mode depth fields (AllFinite i.singles) := by
  refine .ifWritten hmem (fun v hv => ?_) fun hnone => ?_
  · unfold unlessZeroInsets at hv
    split at hv
    · exact absurd hv (by simp)
    · rw [← Option.some.inj hv]
      exact i.tells
  · unfold unlessZeroInsets at hnone
    split at hnone
    · next hzero =>
      simp only [Insets.isZero, Bool.and_eq_true] at hzero
      obtain ⟨⟨⟨ht, hr⟩, hb⟩, hl⟩ := hzero
      simp only [Insets.singles, allFinite_cons]
      exact ⟨Float32.isFinite_of_beq_zero ht, Float32.isFinite_of_beq_zero hr,
        Float32.isFinite_of_beq_zero hb, Float32.isFinite_of_beq_zero hl, List.forall_mem_nil _⟩
    · exact absurd hnone (by simp)

lemma tells_typography (t : Typography) :
    typographies.Tells mode depth (typography t) (t.size.isFinite = true) :=
  (Decoder.fieldsTell_record
    (Record.Tells.part (by simp) (tells_single t.size)).right.left.left).tells

lemma tells_mask (m : Mask) : masks.Tells mode depth (mask m) (AllFinite m.singles) := by
  rw [Mask.singles, allFinite_getD]
  have hoffset : (Record.maybe "offset" Position.decoder).Tells mode (depth + 1)
      [("id", word m.id), ("path", word m.path), ("offset", m.offset.map (·.toValue))]
      (∀ p ∈ m.offset, AllFinite p.singles) :=
    .maybe (f := Position.toValue) (by simp) (fun p => ⟨_, rfl⟩) fun p _ => p.tells
  exact (Decoder.fieldsTell_record hoffset.right).tells

lemma tells_outline (o : Outline) :
    outlines.Tells mode depth (outline o) (AllFinite o.singles) := by
  cases o with
  | rectangle radius =>
    refine (Decoder.fieldsTell_tagged rfl (by simp) (Decoder.fieldsTell_record
      (tells_unlessZero radius (by simp)).map)).tells.imp fun h => ?_
    simpa [Outline.singles, allFinite_cons] using h
  | ellipse => exact fun _ _ => allFinite_nil
  | vector path viewBox => exact fun _ _ => allFinite_nil

lemma tells_stroke (s : Stroke) :
    strokes.Tells mode depth (stroke s) (s.width.isFinite = true) := by
  show Decoder.Tells _ _ _ (.ofFields [("color", some s.color.toValue),
    ("width", some (.single s.width))]) _
  exact (Decoder.fieldsTell_record
    (Record.Tells.part (by simp) (tells_single s.width)).right).tells

lemma tells_head (h : Head) (hfields : ∀ f ∈ head h, f ∈ fields) :
    heads.Tells mode depth fields (AllFinite h.singles) := by
  rw [Head.singles, allFinite_getD]
  exact Record.Tells.right (Record.Tells.maybe (f := (·.toValue)) (hfields _ (by simp [head]))
    (fun p => ⟨_, rfl⟩) fun p _ => p.tells)

lemma tells_auto {name : String} (l : Length) (hmem : (name, some l.toValue) ∈ fields) :
    (auto name).Tells mode depth fields (AllFinite l.needed) := .part hmem l.tells

lemma tells_required {name : String} (x : Float32) (hmem : (name, some (.single x)) ∈ fields) :
    (Record.required name .single).Tells mode depth fields (x.isFinite = true) :=
  .part hmem (tells_single x)

/-- A leaf is read by the decoder of its kind, and its needed numbers are finite then. -/
lemma exists_leaf_tells (d : Decoder Node) (l : Leaf) : ∃ b, (bodies d).lookup l.kind = some b ∧
    b.FieldsTell mode depth (leaf l) (AllFinite l.needed) := by
  cases l with
  | text t =>
    have hfont : (Record.optional "font" typographies {}).Tells mode depth (leaf (.text t))
        (t.font.size.isFinite = true) := .part (by simp [leaf]) (tells_typography t.font)
    have hmargin : (padded "margin").Tells mode depth (leaf (.text t))
        (AllFinite t.margin.singles) := tells_unlessZeroInsets t.margin (by simp [leaf])
    refine ⟨texts, rfl, (Decoder.fieldsTell_record
      (((((tells_auto t.width (by simp [leaf])).map.seq
        (tells_auto t.height (by simp [leaf]))).left.seq hfont).left.left.seq
        hmargin).left)).imp fun h => ?_⟩
    simpa [Leaf.needed, allFinite_append, allFinite_cons, and_assoc] using h
  | image i =>
    refine ⟨images, rfl, (Decoder.fieldsTell_record
      ((tells_auto i.width (by simp [leaf])).map.seq
        (tells_auto i.height (by simp [leaf]))).left.left.left.left).imp fun h => ?_⟩
    simpa [Leaf.needed, allFinite_append] using h
  | svg s =>
    have hmask : (Record.maybe "mask" masks).Tells mode depth (leaf (.svg s))
        (∀ m ∈ s.mask, AllFinite m.singles) :=
      .maybe (f := mask) (by simp [leaf]) (fun m => ⟨_, rfl⟩) fun m _ => tells_mask m
    refine ⟨svgs, rfl, (Decoder.fieldsTell_record
      (((tells_required s.width (by simp [leaf])).map.seq
        (tells_required s.height (by simp [leaf]))).left.seq hmask).left.left).imp fun h => ?_⟩
    rw [Leaf.needed, allFinite_cons, allFinite_cons, allFinite_getD]
    exact and_assoc.1 h
  | shape s =>
    have houtline : (Record.required "shape" outlines).Tells mode depth (leaf (.shape s))
        (AllFinite s.shape.singles) := .part (by simp [leaf]) (tells_outline s.shape)
    have hstroke : (Record.maybe "stroke" strokes).Tells mode depth (leaf (.shape s))
        (∀ st ∈ s.stroke, st.width.isFinite = true) :=
      .maybe (f := stroke) (by simp [leaf]) (fun st => ⟨_, rfl⟩) fun st _ => tells_stroke st
    refine ⟨shapes, rfl, (Decoder.fieldsTell_record
      ((((tells_required s.width (by simp [leaf])).map.seq
        (tells_required s.height (by simp [leaf]))).seq houtline).left.seq hstroke)).imp
      fun h => ?_⟩
    obtain ⟨⟨⟨hwidth, hheight⟩, houtline⟩, hstroke⟩ := h
    rw [Leaf.needed, allFinite_cons, allFinite_cons, allFinite_append]
    refine ⟨hwidth, hheight, houtline, fun x hx => ?_⟩
    obtain ⟨st, hst, rfl⟩ := Option.map_eq_some_iff.1 (Option.mem_toList.1 hx)
    exact hstroke st hst

/-- A container is read by the decoder of its kind, and its children are read then. -/
lemma exists_layout_tells {d : Decoder Node} (l : Layout) {cs : List Node} {P : Node → Prop}
    (h : ∀ c ∈ cs, d.Tells mode (depth + 1) c.toValue (P c)) :
    ∃ b, (bodies d).lookup l.kind = some b ∧
      b.FieldsTell mode depth (layout l (.array (Node.toValues cs)))
        (AllFinite l.needed ∧ ∀ c ∈ cs, P c) := by
  have hchildren : (childrenOf d).Tells mode depth (layout l (.array (Node.toValues cs)))
      (∀ c ∈ cs, P c) := by
    rw [Node.toValues_eq_map]
    exact .part (by cases l <;> simp [layout]) (.list h)
  cases l with
  | frame f =>
    have hpadding : (padded "padding").Tells mode depth
        (layout (.frame f) (.array (Node.toValues cs))) (AllFinite f.padding.singles) :=
      tells_unlessZeroInsets f.padding (by simp [layout])
    exact ⟨frames d, rfl, Decoder.fieldsTell_record (hpadding.right.left.seq hchildren)⟩
  | flex f =>
    refine ⟨flexes d, rfl, (Decoder.fieldsTell_record
      (((((tells_auto f.width (by simp [layout])).map.seq
        (tells_auto f.height (by simp [layout]))).left.left.left.seq
        (tells_unlessZero f.gap (by simp [layout]))).seq
        (tells_unlessZeroInsets f.padding (by simp [layout]))).left.left.left.seq
        hchildren)).imp fun h => ?_⟩
    simpa [Layout.needed, allFinite_append, allFinite_cons, and_assoc] using h
  | box b =>
    refine ⟨boxes d, rfl, (Decoder.fieldsTell_record
      ((((tells_auto b.width (by simp [layout])).map.seq
        (tells_auto b.height (by simp [layout]))).seq
        (tells_unlessZeroInsets b.padding (by simp [layout]))).left.left.left.seq
        hchildren)).imp fun h => ?_⟩
    simpa [Layout.needed, allFinite_append, and_assoc] using h

/-- A head and the parts of one kind are read together. -/
lemma tells_headed {fuel : ℕ} {h : Head} {kind : String} {b : Decoder Body} {P : Prop}
    (hkind : (bodies (nodes fuel)).lookup kind = some b)
    (hb : b.FieldsTell .buffered (depth + 1) fields P)
    (hnames : ∀ k ∈ fields.map Prod.fst, k ∉ "type" :: heads.names) :
    (nodes (fuel + 1)).Tells mode depth
      (.ofFields (head h ++ ("type", some (.string kind)) :: fields))
      (AllFinite h.singles ∧ P) := by
  have htag : "type" ∉ fields.map Prod.fst :=
    fun hmem => hnames _ hmem List.mem_cons_self
  have hothers : ∀ f ∈ ("type", some (.string kind)) :: fields,
      f ∈ head h ++ ("type", some (.string kind)) :: fields ∧ f.1 ∉ heads.names := by
    intro f hf
    refine ⟨List.mem_append_right _ hf, ?_⟩
    rcases List.mem_cons.1 hf with rfl | hf
    · exact of_decide_eq_true rfl
    · exact fun hmem => hnames _ (List.mem_map_of_mem hf) (List.mem_cons_of_mem _ hmem)
  exact (Decoder.fieldsTell_flattened (tells_head h fun f hf => List.mem_append_left _ hf) hothers
    fun fs p hstand hp => Decoder.tells_of_taggedFields hkind htag hb hstand hp).tells.map

mutual

/-- **Where a node is read, its needed numbers are finite.** -/
lemma tells_node (n : Node) (fuel : ℕ) (mode : Mode) (depth : ℕ) :
    (nodes fuel).Tells mode depth n.toValue (AllFinite n.needed) := by
  cases fuel with
  | zero => exact fun a ha => absurd ha (by simp [nodes])
  | succ fuel =>
    match n with
    | .container h l cs =>
      obtain ⟨b, hkind, hb⟩ := exists_layout_tells l
        (P := fun c => AllFinite c.needed) (tells_nodes cs fuel .buffered (depth + 1 + 1))
      have hnames : ∀ k ∈ (layout l (.array (Node.toValues cs))).map Prod.fst,
          k ∉ "type" :: heads.names := by
        cases l <;> exact of_decide_eq_true rfl
      rw [Node.toValue, Node.needed]
      refine (tells_headed hkind hb hnames).imp fun h => ?_
      simpa [allFinite_append, Node.allFinite_neededIn, and_assoc] using h
    | .leaf h l =>
      obtain ⟨b, hkind, hb⟩ := exists_leaf_tells (nodes fuel) l
      have hnames : ∀ k ∈ (leaf l).map Prod.fst, k ∉ "type" :: heads.names := by
        cases l <;> exact of_decide_eq_true rfl
      rw [Node.toValue, Node.needed]
      exact (tells_headed hkind hb hnames).imp allFinite_append.2

lemma tells_nodes (ns : List Node) (fuel : ℕ) (mode : Mode) (depth : ℕ) :
    ∀ n ∈ ns, (nodes fuel).Tells mode depth n.toValue (AllFinite n.needed) := by
  match ns with
  | [] => exact fun n hn => absurd hn List.not_mem_nil
  | n :: ns =>
    exact List.forall_mem_cons.2 ⟨tells_node n fuel mode depth, tells_nodes ns fuel mode depth⟩

end

end Node.Wire

/-! ### Tokens -/

lemma Derivation.tells (d : Derivation) :
    decoder.Tells mode depth d.toValue (AllFinite d.singles) := by
  cases d with
  | lighten source percent =>
    show Decoder.Tells _ _ _ (.ofFields (("op", some (.string "lighten")) ::
      [("from", some (.string source)), ("percent", some (.single percent))])) _
    refine (Decoder.fieldsTell_tagged rfl (of_decide_eq_true rfl) (Decoder.fieldsTell_record
      (Record.Tells.part (by simp) (tells_single percent)).right)).tells.imp fun h => ?_
    simpa [singles, allFinite_cons] using h

lemma Token.tells (t : Token) : decoder.Tells mode depth t.toValue (AllFinite t.singles) := by
  have hobject (d : Derivation) : ∃ fs, d.toValue = .object fs := by
    cases d with
    | lighten source percent => exact ⟨_, rfl⟩
  rw [singles, allFinite_getD]
  exact (Decoder.fieldsTell_record (Record.Tells.right
    (Record.Tells.maybe (f := Derivation.toValue) (by simp) hobject fun d _ => d.tells))).tells

lemma Tokens.tells (ts : Tokens) :
    decoder.Tells mode depth ts.toValue (AllFinite (ts.entries.flatMap fun e => e.2.singles)) := by
  refine (Decoder.Tells.table (P := fun t => AllFinite t.singles) fun e _ => e.2.tells).imp
    fun h x hx => ?_
  obtain ⟨e, he, hx⟩ := List.mem_flatMap.1 hx
  exact h e he x hx

end VisualTemplate
