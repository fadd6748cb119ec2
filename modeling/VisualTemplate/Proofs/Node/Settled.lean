import Mathlib.Tactic.Common
import VisualTemplate.Schema.Wire
/-!
Templates as they are after they were written and read.

A number that is left out when it is zero comes back as positive zero, though it may have been
negative zero. Nothing else changes, and both zeros are equal.
-/

namespace Float32

variable {x y : Float32}

/-- A finite number equals itself. -/
lemma beq_self_of_isFinite (h : x.isFinite = true) : (x == x) = true := by
  show (x.toModel.unpack.compare x.toModel.unpack == some .eq) = true
  replace h : x.toModel.unpack.isFinite = true := h
  cases hx : x.toModel.unpack with
  | notANumber => rw [hx] at h; exact absurd h Bool.false_ne_true
  | infinity s => rw [hx] at h; exact absurd h Bool.false_ne_true
  | zero s => rfl
  | finite s m e hm =>
    have hself : (compare e e).then (compare m m) = .eq := by simp
    cases s with
    | positive =>
      show (some ((compare e e).then (compare m m)) == some .eq) = true
      rw [hself]
      rfl
    | negative =>
      show (some ((compare e e).then (compare m m)).swap == some .eq) = true
      rw [hself]
      rfl

/-- What equals zero is one of the two zeros. -/
lemma zero_beq_of_beq_zero (h : (x == 0) = true) : ((0 : Float32) == x) = true := by
  have hzero : (0 : Float32).toModel.unpack = .zero .positive := rfl
  replace h : (x.toModel.unpack.compare (0 : Float32).toModel.unpack == some .eq) = true := h
  show ((0 : Float32).toModel.unpack.compare x.toModel.unpack == some .eq) = true
  rw [hzero] at h ⊢
  cases hx : x.toModel.unpack with
  | notANumber => rw [hx] at h; exact absurd h Bool.false_ne_true
  | infinity s => rw [hx] at h; cases s <;> exact absurd h Bool.false_ne_true
  | zero s => rfl
  | finite s m e hm => rw [hx] at h; cases s <;> exact absurd h Bool.false_ne_true

/-- The number as it comes back if it is left out when it is zero. -/
def settled (x : Float32) : Float32 := if x == 0 then 0 else x

lemma settled_beq (h : x.isFinite = true) : (x.settled == x) = true := by
  unfold settled
  split
  · next hzero => exact zero_beq_of_beq_zero hzero
  · exact beq_self_of_isFinite h

end Float32

namespace VisualTemplate

/-! ### The numbers of a template -/

def Length.singles : Length → List Float32
  | .px x => [x]
  | .percent x => [x]
  | .auto => []

def Insets.singles (i : Insets) : List Float32 := [i.top, i.right, i.bottom, i.left]

def Position.singles (p : Position) : List Float32 := [p.x, p.y]

def Layout.singles : Layout → List Float32
  | .frame f => f.padding.singles
  | .flex f => f.width.singles ++ f.height.singles ++ f.gap :: f.padding.singles
  | .box b => b.width.singles ++ b.height.singles ++ b.padding.singles

def Typography.singles (t : Typography) : List Float32 := t.size :: t.lineHeight.toList

def Mask.singles (m : Mask) : List Float32 := (m.offset.map Position.singles).getD []

def Outline.singles : Outline → List Float32
  | .rectangle radius => [radius]
  | _ => []

def Leaf.singles : Leaf → List Float32
  | .text t => t.width.singles ++ t.height.singles ++ t.font.singles ++ t.margin.singles
  | .image i => i.width.singles ++ i.height.singles
  | .svg s => s.width :: s.height :: (s.mask.map Mask.singles).getD []
  | .shape s => s.width :: s.height :: (s.shape.singles ++ (s.stroke.map (·.width)).toList)

def Head.singles (h : Head) : List Float32 := (h.position.map Position.singles).getD []

mutual

/-- All numbers in a node and below it. -/
def Node.singles : Node → List Float32
  | .container h l cs => h.singles ++ l.singles ++ Node.singlesIn cs
  | .leaf h l => h.singles ++ l.singles

def Node.singlesIn : List Node → List Float32
  | [] => []
  | n :: ns => n.singles ++ Node.singlesIn ns

end

def Derivation.singles : Derivation → List Float32
  | .lighten _ percent => [percent]

def Token.singles (t : Token) : List Float32 := (t.derivation.map Derivation.singles).getD []

/-- All numbers in a draft. -/
def Draft.singles (d : Draft) : List Float32 :=
  Node.singlesIn d.root.toList ++ Node.singlesIn d.nodes ++
    d.tokens.entries.flatMap fun e => e.2.singles

/-! ### Settled templates -/

def Insets.settled (i : Insets) : Insets := if i.isZero then {} else i

def Layout.settled : Layout → Layout
  | .frame f => .frame { f with padding := f.padding.settled }
  | .flex f => .flex { f with gap := f.gap.settled, padding := f.padding.settled }
  | .box b => .box { b with padding := b.padding.settled }

def Outline.settled : Outline → Outline
  | .rectangle radius => .rectangle radius.settled
  | o => o

def Leaf.settled : Leaf → Leaf
  | .text t => .text { t with margin := t.margin.settled }
  | .shape s => .shape { s with shape := s.shape.settled }
  | l => l

mutual

/-- A node with positive zeros where numbers are left out when they are zero. -/
def Node.settled : Node → Node
  | .container h l cs => .container h l.settled (Node.settledAll cs)
  | .leaf h l => .leaf h l.settled

def Node.settledAll : List Node → List Node
  | [] => []
  | n :: ns => n.settled :: Node.settledAll ns

end

def Draft.settled (d : Draft) : Draft :=
  { d with root := d.root.map Node.settled, nodes := Node.settledAll d.nodes }

/-! ### A settled template equals the template -/

/-- All numbers of a list are finite. -/
def AllFinite (xs : List Float32) : Prop := ∀ x ∈ xs, x.isFinite = true

instance : DecidablePred AllFinite := fun xs =>
  inferInstanceAs (Decidable (∀ x ∈ xs, x.isFinite = true))

lemma allFinite_append {xs ys : List Float32} :
    AllFinite (xs ++ ys) ↔ AllFinite xs ∧ AllFinite ys := List.forall_mem_append

lemma allFinite_cons {x : Float32} {xs : List Float32} :
    AllFinite (x :: xs) ↔ x.isFinite = true ∧ AllFinite xs := List.forall_mem_cons

lemma option_beq_self {α : Type} [BEq α] {o : Option α} (h : ∀ a ∈ o, (a == a) = true) :
    (o == o) = true := by
  cases o with
  | none => rfl
  | some a => exact h a rfl

lemma Length.beq_self {l : Length} (h : AllFinite l.singles) : (l == l) = true := by
  cases l with
  | px x => exact Float32.beq_self_of_isFinite (h x List.mem_cons_self)
  | percent x => exact Float32.beq_self_of_isFinite (h x List.mem_cons_self)
  | auto => rfl

lemma Insets.beq_self {i : Insets} (h : AllFinite i.singles) : (i == i) = true := by
  simp only [Insets.singles, allFinite_cons] at h
  obtain ⟨ht, hr, hb, hl, -⟩ := h
  show (_ && _) = true
  simp [Float32.beq_self_of_isFinite, ht, hr, hb, hl]

lemma Insets.settled_beq {i : Insets} (h : AllFinite i.singles) : (i.settled == i) = true := by
  unfold Insets.settled
  split
  · next hzero =>
    simp only [isZero, Bool.and_eq_true] at hzero
    obtain ⟨⟨⟨ht, hr⟩, hb⟩, hl⟩ := hzero
    show (_ && _) = true
    simp [Float32.zero_beq_of_beq_zero, ht, hr, hb, hl]
  · exact beq_self h

lemma Position.beq_self {p : Position} (h : AllFinite p.singles) : (p == p) = true := by
  simp only [Position.singles, allFinite_cons] at h
  obtain ⟨hx, hy, -⟩ := h
  show (_ && _) = true
  simp [Float32.beq_self_of_isFinite, hx, hy]

lemma position?_beq_self {o : Option Position} (h : AllFinite ((o.map Position.singles).getD [])) :
    (o == o) = true := by
  refine option_beq_self fun p hp => ?_
  rw [hp] at h
  exact Position.beq_self h

lemma Layout.settled_beq {l : Layout} (h : AllFinite l.singles) : (l.settled == l) = true := by
  cases l with
  | frame f =>
    have hpadding := Insets.settled_beq h
    show (_ && _) = true
    simp [hpadding]
  | flex f =>
    simp only [Layout.singles, allFinite_append, allFinite_cons] at h
    obtain ⟨⟨hw, hh⟩, hgap, hp⟩ := h
    have hwidth := Length.beq_self hw
    have hheight := Length.beq_self hh
    have hpadding := Insets.settled_beq hp
    show (_ && _) = true
    simp [hwidth, hheight, Float32.settled_beq hgap, hpadding]
  | box b =>
    simp only [Layout.singles, allFinite_append] at h
    obtain ⟨⟨hw, hh⟩, hp⟩ := h
    have hwidth := Length.beq_self hw
    have hheight := Length.beq_self hh
    have hpadding := Insets.settled_beq hp
    show (_ && _) = true
    simp [hwidth, hheight, hpadding]

lemma Typography.beq_self {t : Typography} (h : AllFinite t.singles) : (t == t) = true := by
  simp only [Typography.singles, allFinite_cons] at h
  obtain ⟨hs, hl⟩ := h
  have hline : (t.lineHeight == t.lineHeight) = true :=
    option_beq_self fun x hx => Float32.beq_self_of_isFinite (hl x (by simpa using hx))
  show (_ && _) = true
  simp [Float32.beq_self_of_isFinite hs, hline]

lemma Mask.beq_self {m : Mask} (h : AllFinite m.singles) : (m == m) = true := by
  have hoffset := position?_beq_self h
  show (_ && _) = true
  simp [hoffset]

lemma Outline.settled_beq {o : Outline} (h : AllFinite o.singles) : (o.settled == o) = true := by
  cases o with
  | rectangle radius => exact Float32.settled_beq (h radius List.mem_cons_self)
  | ellipse => rfl
  | vector path viewBox =>
    show (_ && _) = true
    simp

lemma Leaf.settled_beq {l : Leaf} (h : AllFinite l.singles) : (l.settled == l) = true := by
  cases l with
  | text t =>
    simp only [Leaf.singles, allFinite_append] at h
    obtain ⟨⟨⟨hw, hh⟩, hf⟩, hm⟩ := h
    have hwidth := Length.beq_self hw
    have hheight := Length.beq_self hh
    have hfont := Typography.beq_self hf
    have hmargin := Insets.settled_beq hm
    show (_ && _) = true
    simp [hwidth, hheight, hfont, hmargin]
  | image i =>
    simp only [Leaf.singles, allFinite_append] at h
    have hwidth := Length.beq_self h.1
    have hheight := Length.beq_self h.2
    show (_ && _) = true
    simp [hwidth, hheight]
  | svg s =>
    simp only [Leaf.singles, allFinite_cons] at h
    obtain ⟨hw, hh, hm⟩ := h
    have hmask : (s.mask == s.mask) = true := by
      refine option_beq_self fun m hmem => Mask.beq_self ?_
      rw [hmem] at hm
      exact hm
    show (_ && _) = true
    simp [Float32.beq_self_of_isFinite hw, Float32.beq_self_of_isFinite hh, hmask]
  | shape s =>
    simp only [Leaf.singles, allFinite_cons, allFinite_append] at h
    obtain ⟨hw, hh, ho, hs⟩ := h
    have houtline := Outline.settled_beq ho
    have hstroke : (s.stroke == s.stroke) = true := by
      refine option_beq_self fun st hst => ?_
      have hwidth := Float32.beq_self_of_isFinite (hs st.width (by simp [Option.mem_def.1 hst]))
      show (_ && _) = true
      simp [hwidth]
    show (_ && _) = true
    simp [Float32.beq_self_of_isFinite hw, Float32.beq_self_of_isFinite hh, houtline, hstroke]

lemma Head.beq_self {h : Head} (hfinite : AllFinite h.singles) : (h == h) = true := by
  have hposition := position?_beq_self hfinite
  show (_ && _) = true
  simp [hposition]

namespace Node

mutual

lemma settled_same (n : Node) (h : AllFinite n.singles) : n.settled.same n = true := by
  match n with
  | .container head l cs =>
    simp only [singles, allFinite_append] at h
    rw [settled, same, Head.beq_self h.1.1, Layout.settled_beq h.1.2, settledAll_same cs h.2]
    rfl
  | .leaf head l =>
    simp only [singles, allFinite_append] at h
    rw [settled, same, Head.beq_self h.1, Leaf.settled_beq h.2]
    rfl

lemma settledAll_same (ns : List Node) (h : AllFinite (singlesIn ns)) :
    sameAll (settledAll ns) ns = true := by
  match ns with
  | [] => rfl
  | n :: ns =>
    simp only [singlesIn, allFinite_append] at h
    rw [settledAll, sameAll, settled_same n h.1, settledAll_same ns h.2]
    rfl

end

lemma beq_eq_sameAll (ns ms : List Node) : (ns == ms) = sameAll ns ms := by
  induction ns generalizing ms with
  | nil => cases ms <;> rfl
  | cons n ns ih =>
    cases ms with
    | nil => rfl
    | cons m ms => exact congrArg (n.same m && ·) (ih ms)

end Node

lemma Token.beq_self {t : Token} (h : AllFinite t.singles) : (t == t) = true := by
  have hderivation : (t.derivation == t.derivation) = true := by
    refine option_beq_self fun d hd => ?_
    rw [Token.singles, Option.mem_def.1 hd] at h
    cases d with
    | lighten source percent =>
      have hpercent := Float32.beq_self_of_isFinite (h percent List.mem_cons_self)
      show (_ && _) = true
      simp [hpercent]
  show (_ && _) = true
  simp [hderivation]

lemma Tokens.beq_self {ts : Tokens} (h : AllFinite (ts.entries.flatMap fun e => e.2.singles)) :
    (ts == ts) = true := by
  have hentries : ∀ es : List (String × Token), AllFinite (es.flatMap fun e => e.2.singles) →
      (es == es) = true := by
    intro es
    induction es with
    | nil => exact fun _ => rfl
    | cons e es ih =>
      intro h
      rw [List.flatMap_cons, allFinite_append] at h
      have htoken := Token.beq_self h.1
      show ((e.1 == e.1 && e.2 == e.2) && (es == es)) = true
      rw [beq_self_eq_true, htoken, ih h.2]
      rfl
  exact hentries ts.entries h

/-- **A settled draft equals the draft**, if its numbers are finite. -/
lemma Draft.settled_beq {d : Draft} (h : AllFinite d.singles) : (d.settled == d) = true := by
  simp only [Draft.singles, allFinite_append] at h
  obtain ⟨⟨hr, hn⟩, ht⟩ := h
  have hroot : (d.root.map Node.settled == d.root) = true := by
    cases hd : d.root with
    | none => rfl
    | some root =>
      rw [hd] at hr
      simp only [Option.toList_some, Node.singlesIn, allFinite_append] at hr
      exact Node.settled_same root hr.1
  have hnodes : (Node.settledAll d.nodes == d.nodes) = true := by
    rw [Node.beq_eq_sameAll]
    exact Node.settledAll_same d.nodes hn
  have htokens := Tokens.beq_self ht
  show (_ && _) = true
  simp [hroot, hnodes, htokens]

/-! ### What does not change -/

lemma unlessZero_settled (x : Float32) :
    Node.Wire.unlessZero x.settled = Node.Wire.unlessZero x := by
  unfold Float32.settled
  split
  · next hzero =>
    rw [Node.Wire.unlessZero, Node.Wire.unlessZero, if_pos hzero]
    rfl
  · rfl

lemma unlessZeroInsets_settled (i : Insets) :
    Node.Wire.unlessZeroInsets i.settled = Node.Wire.unlessZeroInsets i := by
  unfold Insets.settled
  split
  · next hzero =>
    rw [Node.Wire.unlessZeroInsets, Node.Wire.unlessZeroInsets, if_pos hzero]
    rfl
  · rfl

namespace Node

lemma kind_layout_settled (l : Layout) : l.settled.kind = l.kind := by cases l <;> rfl

lemma kind_leaf_settled (l : Leaf) : l.settled.kind = l.kind := by cases l <;> rfl

lemma layout_settled (l : Layout) (children : Json.Value) :
    Wire.layout l.settled children = Wire.layout l children := by
  cases l with
  | frame f => simp [Wire.layout, Layout.settled, unlessZeroInsets_settled]
  | flex f => simp [Wire.layout, Layout.settled, unlessZeroInsets_settled, unlessZero_settled]
  | box b => simp [Wire.layout, Layout.settled, unlessZeroInsets_settled]

lemma leaf_settled (l : Leaf) : Wire.leaf l.settled = Wire.leaf l := by
  cases l with
  | text t => simp [Wire.leaf, Leaf.settled, unlessZeroInsets_settled]
  | image i => rfl
  | svg s => rfl
  | shape s =>
    have houtline : Wire.outline s.shape.settled = Wire.outline s.shape := by
      cases s.shape with
      | rectangle radius => simp [Wire.outline, Outline.settled, unlessZero_settled]
      | ellipse => rfl
      | vector path viewBox => rfl
    simp [Wire.leaf, Leaf.settled, houtline]

mutual

lemma toValue_settled (n : Node) : n.settled.toValue = n.toValue := by
  match n with
  | .container h l cs =>
    rw [settled, toValue, toValue, toValues_settledAll cs, layout_settled, kind_layout_settled]
  | .leaf h l => rw [settled, toValue, toValue, leaf_settled, kind_leaf_settled]

lemma toValues_settledAll (ns : List Node) : toValues (settledAll ns) = toValues ns := by
  match ns with
  | [] => rfl
  | n :: ns => rw [settledAll, toValues, toValues, toValue_settled n, toValues_settledAll ns]

end

mutual

lemma preorder_settled (n : Node) : n.settled.preorder = n.preorder.map settled := by
  match n with
  | .container h l cs =>
    rw [settled, preorder, preorder, List.map_cons, preorders_settledAll cs, settled]
  | .leaf h l => rfl

lemma preorders_settledAll (ns : List Node) :
    preorders (settledAll ns) = (preorders ns).map settled := by
  match ns with
  | [] => rfl
  | n :: ns =>
    rw [settledAll, preorders, preorders, List.map_append, preorder_settled n,
      preorders_settledAll ns]

end

lemma id_settled (n : Node) : n.settled.id = n.id := by cases n <;> rfl

lemma isContainer_settled (n : Node) : n.settled.isContainer = n.isContainer := by cases n <;> rfl

lemma isFrame_settled (n : Node) : n.settled.isFrame = n.isFrame := by
  match n with
  | .container h l cs => cases l <;> rfl
  | .leaf h l => rfl

lemma kind_settled (n : Node) : n.settled.kind = n.kind := by
  cases n with
  | container h l cs => exact kind_layout_settled l
  | leaf h l => exact kind_leaf_settled l

lemma binding_settled (n : Node) : n.settled.binding = n.binding := by
  match n with
  | .container h l cs => rfl
  | .leaf h l => cases l <;> rfl

lemma children_settled (n : Node) : n.settled.children = settledAll n.children := by
  cases n <;> rfl

lemma toValues_eq_map (ns : List Node) : toValues ns = ns.map toValue := by
  induction ns with
  | nil => rfl
  | cons n ns ih => rw [toValues, ih, List.map_cons]

lemma settledAll_eq_map (ns : List Node) : settledAll ns = ns.map settled := by
  induction ns with
  | nil => rfl
  | cons n ns ih => rw [settledAll, ih, List.map_cons]

end Node

namespace Draft

variable (d : Draft)

lemma top_settled : d.settled.top = Node.settledAll d.top := by
  unfold top settled
  cases d.root <;> rfl

lemma preorder_settled : d.settled.preorder = d.preorder.map Node.settled := by
  rw [preorder, top_settled, Node.preorders_settledAll, ← preorder]

lemma bindings_settled : d.settled.bindings = d.bindings := by
  rw [bindings, bindings, preorder_settled, List.filterMap_map]
  simp only [Function.comp_def, Node.binding_settled, Node.id_settled]

lemma hasNode_settled (id : String) : d.settled.hasNode id = d.hasNode id := by
  rw [hasNode, hasNode, preorder_settled, List.any_map]
  simp only [Function.comp_def, Node.id_settled]

lemma structureFault?_settled : d.settled.structureFault? = d.structureFault? := by
  have hversion : d.settled.version = d.version := rfl
  have hroot : d.settled.root = d.root.map Node.settled := rfl
  have hnodes : d.settled.nodes = d.nodes.map Node.settled := Node.settledAll_eq_map d.nodes
  unfold structureFault?
  rw [hversion, hroot, hnodes]
  cases d.version with
  | flat =>
    simp only [Option.isSome_map, List.find?_map, Option.map_map, Function.comp_def,
      Node.isContainer_settled, Node.id_settled, Node.kind_settled]
  | tree =>
    cases d.root with
    | none => rfl
    | some root =>
      simp only [Option.map_some, List.isEmpty_map, Node.isFrame_settled, Node.id_settled,
        Node.kind_settled, Node.children_settled, Node.preorders_settledAll, List.find?_map,
        Option.map_map, Function.comp_def]

/-- The gate finds the same fault. -/
lemma fault?_settled (index : List BindingEntry) : d.settled.fault? index = d.fault? index := by
  have hvariants (seen : List String) (vs : List Variant) :
      d.settled.variantsFault? seen vs = d.variantsFault? seen vs := by
    induction vs generalizing seen with
    | nil => rfl
    | cons v vs ih => simp only [variantsFault?, hasNode_settled, ih]
  have hids : d.settled.idFault? = d.idFault? := by
    rw [idFault?, idFault?, preorder_settled, List.map_map]
    simp only [Function.comp_def, Node.id_settled]
  have hpaths : d.settled.pathFault? = d.pathFault? := by
    rw [pathFault?, pathFault?, bindings_settled]
  have hindex : d.settled.indexFault? index = d.indexFault? index := by
    simp only [indexFault?, hasNode_settled]
  have hvariant : d.settled.variantFault? = d.variantFault? := hvariants [] d.variants
  have hcanvas : d.settled.canvasFault? = d.canvasFault? := rfl
  have htokens : d.settled.tokens = d.tokens := rfl
  simp only [fault?, hcanvas, structureFault?_settled, hids, hpaths, hindex, hvariant, htokens]

end Draft

end VisualTemplate
