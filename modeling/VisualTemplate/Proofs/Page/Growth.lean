import VisualTemplate.Page
import VisualTemplate.Proofs.Decimal.Layout
import VisualTemplate.Proofs.Schema.Gate
/-!
How the walk over a page grows its tree.

A step of the walk adds a leaf, puts a box around what is in an element, hides what has come of an
element, or writes down its ids. What holds of every node of a page is an induction over these
steps: the numbers of the ids, the ids that are written down, the kinds of the nodes and the fields
that they are bound to.
-/

namespace VisualTemplate

namespace NodeIds

lemma allocated_next {ids : NodeIds} (h : ids.allocated + 1 < 2 ^ 32) (kind : String) :
    (ids.next kind).2.allocated = ids.allocated + 1 := by
  have hsum : (ids.last + 1).toNat = (ids.last.toNat + 1) % 2 ^ 32 := UInt32.toNat_add ids.last 1
  exact hsum.trans (Nat.mod_eq_of_lt h)

lemma nextAll_append (ids : NodeIds) (ks ls : List String) :
    ids.nextAll (ks ++ ls) =
      ((ids.nextAll ks).1 ++ ((ids.nextAll ks).2.nextAll ls).1,
        ((ids.nextAll ks).2.nextAll ls).2) := by
  induction ks generalizing ids with
  | nil => rfl
  | cons k ks ih =>
    have hcons (ks : List String) : ids.nextAll (k :: ks) =
        ((ids.next k).1 :: ((ids.next k).2.nextAll ks).1, ((ids.next k).2.nextAll ks).2) := rfl
    rw [List.cons_append, hcons, ih, hcons]
    rfl

/-- The ids that are given out bear the next numbers, one after another, while the count has room
for them. -/
lemma nextAll_fst {ids : NodeIds} {ks : List String} (h : ids.allocated + ks.length < 2 ^ 32) :
    (ids.nextAll ks).1 = ks.mapIdx fun i k => k ++ "-" ++ toString (ids.allocated + i + 1) := by
  induction ks generalizing ids with
  | nil => rfl
  | cons k ks ih =>
    rw [List.length_cons] at h
    have hnext : (ids.next k).2.allocated = ids.allocated + 1 := allocated_next (by omega) k
    rw [nextAll, List.mapIdx_cons]
    refine congrArg₂ List.cons (congrArg (k ++ "-" ++ toString ·) hnext) ?_
    refine (ih (by omega)).trans ?_
    refine congrArg (List.mapIdx · ks) (funext fun i => funext fun l => ?_)
    rw [hnext, Nat.add_right_comm ids.allocated 1 i, Nat.add_assoc ids.allocated i 1]

/-- What stands behind the last hyphen of an id. -/
def numeral (id : String) : List Char := (id.toList.reverse.takeWhile (· != '-')).reverse

lemma numeral_next (kind : String) (n : ℕ) :
    numeral (kind ++ "-" ++ toString n) = Decimal.digitsOf n := by
  have hdigits : ∀ c ∈ (Decimal.digitsOf n).reverse, (c != '-') = true := by
    intro c hc
    rw [bne_iff_ne]
    rintro rfl
    exact absurd (Decimal.isDigit_of_mem_digitsOf (List.mem_reverse.1 hc)) (by decide)
  have htext : (kind ++ "-" ++ toString n).toList.reverse =
      (Decimal.digitsOf n).reverse ++ '-' :: kind.toList.reverse := by
    simp [Decimal.digitsOf]
  rw [numeral, htext, List.takeWhile_append_of_pos hdigits]
  simp

lemma numeral_of_mem {ids : NodeIds} {ks : List String} (h : ids.allocated + ks.length < 2 ^ 32)
    {id : String} (hid : id ∈ (ids.nextAll ks).1) :
    ∃ n, ids.allocated < n ∧ numeral id = Decimal.digitsOf n := by
  rw [nextAll_fst h, List.mem_mapIdx] at hid
  obtain ⟨i, -, rfl⟩ := hid
  exact ⟨ids.allocated + i + 1, by omega, numeral_next _ _⟩

/-- Numbered ids differ from each other, whatever their kinds are. -/
lemma nodup_nextAll {ids : NodeIds} {ks : List String} (h : ids.allocated + ks.length < 2 ^ 32) :
    (ids.nextAll ks).1.Nodup := by
  induction ks generalizing ids with
  | nil => exact .nil
  | cons k ks ih =>
    rw [List.length_cons] at h
    have hnext : (ids.next k).2.allocated = ids.allocated + 1 := allocated_next (by omega) k
    have hrest : (ids.next k).2.allocated + ks.length < 2 ^ 32 := by omega
    refine List.nodup_cons.2 ⟨fun hmem => ?_, ih hrest⟩
    obtain ⟨n, hlt, hn⟩ := numeral_of_mem hrest hmem
    have hnumber := congrArg Decimal.wholeOf
      ((numeral_next k (ids.next k).2.allocated).symm.trans hn)
    rw [Decimal.wholeOf_digitsOf, Decimal.wholeOf_digitsOf] at hnumber
    omega

end NodeIds

/-! ### Hidden nodes -/

namespace Node

/-- Hiding nodes changes nothing in them but that they are hidden. -/
lemma map_preorders_hide {β : Type} (f : Node → β) (h : ∀ n : Node, f n.hide = f n)
    (ns : List Node) : (preorders (ns.map hide)).map f = (preorders ns).map f := by
  induction ns with
  | nil => rfl
  | cons n ns ih =>
    rw [List.map_cons, preorders, preorders, List.map_append, List.map_append, ih]
    cases n with
    | container head layout cs => exact congrArg (· :: _ ++ _) (h (.container head layout cs))
    | leaf head l => exact congrArg ([·] ++ _) (h (.leaf head l))

lemma forall_preorders_hide {P : Node → Prop} (hP : ∀ n : Node, P n.hide = P n) {ns : List Node}
    (h : ∀ n ∈ preorders ns, P n) : ∀ n ∈ preorders (ns.map hide), P n := by
  intro n hn
  have hmem : P n ∈ (preorders (ns.map hide)).map P := List.mem_map_of_mem hn
  rw [map_preorders_hide P hP, List.mem_map] at hmem
  obtain ⟨m, hm, heq⟩ := hmem
  exact heq ▸ h m hm

lemma isFrame_hide (n : Node) : n.hide.isFrame = n.isFrame := by
  cases n with
  | container head layout cs => cases layout <;> rfl
  | leaf head l => rfl

lemma idsIn_hide (ns : List Node) : idsIn (ns.map hide) = idsIn ns :=
  map_preorders_hide _ (fun n => by cases n <;> rfl) ns

lemma id_mem_idsIn {ns : List Node} {n : Node} (h : n ∈ ns) : n.id ∈ idsIn ns := by
  refine List.mem_map_of_mem ?_
  rw [mem_preorders_iff]
  exact .here h

end Node

/-! ### Fields of texts -/

namespace Inference

/-- All fields that can come of a text parse. -/
structure Sound (s : Inference) : Prop where
  rules : ∀ r ∈ s.rules, (FieldPath.ofText? r.field).isSome = true
  heuristics : ∀ k : TextClass, (FieldPath.ofText? (k.field s.fields)).isSome = true

lemma rule_of_mem_candidates {text : List Char} {i : ℕ} {rs : List Rule} {c : Candidate}
    (h : c ∈ candidates text i rs) : c.rule ∈ rs := by
  induction rs generalizing i with
  | nil => cases h
  | cons r rs ih =>
    unfold candidates at h
    split at h
    · rcases List.mem_cons.1 h with rfl | h
      · exact List.mem_cons_self
      · exact List.mem_cons_of_mem _ (ih h)
    · exact List.mem_cons_of_mem _ (ih h)

lemma rule_of_choose {s : Inference} {text : List Char} {c : Candidate}
    (h : s.choose? text = some c) : c.rule ∈ s.rules := by
  have hmem : c ∈ candidates text 0 s.rules := by
    rcases Option.or_eq_some_iff.1 h with h | ⟨-, h⟩
    · exact List.mem_of_find?_eq_some h
    · exact List.mem_of_head? h
  exact rule_of_mem_candidates hmem

lemma Sound.claim {s : Inference} (h : s.Sound) (place : ℕ) : (s.claim place).Sound := by
  refine ⟨fun r hr => ?_, h.heuristics⟩
  obtain ⟨i, hi⟩ := List.mem_iff_getElem?.1 hr
  rw [Inference.claim, List.getElem?_modify] at hi
  obtain ⟨r', hr', rfl⟩ := Option.map_eq_some_iff.1 hi
  have hfield := h.rules r' (List.mem_of_getElem? hr')
  split <;> exact hfield

variable [Engine]

lemma field_ruleOf {r : ReplacementRule} {rule : Rule} (h : ruleOf r = .ok rule) :
    (FieldPath.ofText? rule.field).isSome = true := by
  unfold ruleOf at h
  split at h
  · cases h
  · next path hpath =>
    split at h
    · split at h
      · cases h
      · rw [← Except.ok.inj h, hpath]
        rfl
    · split at h
      · cases h
      · rw [← Except.ok.inj h, hpath]
        rfl

lemma fields_rulesOf {rs : List ReplacementRule} {rules : List Rule} (h : rulesOf rs = .ok rules) :
    ∀ rule ∈ rules, (FieldPath.ofText? rule.field).isSome = true := by
  induction rs generalizing rules with
  | nil =>
    rw [← Except.ok.inj h]
    exact fun rule hrule => absurd hrule List.not_mem_nil
  | cons r rs ih =>
    obtain ⟨rule, hrule, h⟩ := Except.bind_eq_ok_iff.1 h
    obtain ⟨rest, hrest, h⟩ := Except.bind_eq_ok_iff.1 h
    rw [← Except.ok.inj h]
    exact List.forall_mem_cons.2 ⟨field_ruleOf hrule, ih hrest⟩

/-- A valid configuration ties texts to fields that parse. -/
lemma sound_ofConfig {c : MarkupConfig} {s : Inference} (h : ofConfig c = .ok s) : s.Sound := by
  obtain ⟨rules, hrules, h⟩ := Except.bind_eq_ok_iff.1 h
  split at h
  · cases h
  · next hfields =>
    rw [← Except.ok.inj h]
    refine ⟨fields_rulesOf hrules, fun k => ?_⟩
    rw [List.find?_eq_none] at hfields
    have hk := hfields _ (List.mem_map_of_mem (show k ∈ TextClass.all by cases k <;> decide))
    simpa [Option.isSome_iff_ne_none] using hk

/-- What is inferred of a text parses, and so does what is inferred of the next. -/
lemma Sound.infer {s : Inference} (h : s.Sound) (text : String) :
    (∀ b ∈ (s.infer text).1, (FieldPath.ofText? b.field).isSome = true) ∧
      (s.infer text).2.Sound := by
  unfold Inference.infer
  dsimp only
  split
  · exact ⟨fun b hb => absurd hb (by simp), h⟩
  · split
    · next c hc =>
      refine ⟨fun b hb => ?_, h.claim _⟩
      rw [← Option.some.inj hb]
      exact h.rules _ (rule_of_choose hc)
    · refine ⟨fun b hb => ?_, h⟩
      obtain ⟨k, -, rfl⟩ := Option.map_eq_some_iff.1 hb
      exact h.heuristics k

end Inference

namespace Page

open Html

lemma layoutOf_ne_frame (c : MarkupConfig) (style : InlineStyle) (f : Frame) :
    layoutOf c style ≠ .frame f := by
  unfold layoutOf
  dsimp only
  split <;> exact Layout.noConfusion

lemma rule_of_source {c : MarkupConfig} (raw : String) {b : Binding} (h : b ∈ (source c raw).2) :
    ∃ r ∈ c.imageFields, b = ⟨r.field, .image, none⟩ := by
  obtain ⟨r, hr, rfl⟩ := Option.map_eq_some_iff.1 h
  exact ⟨r, List.mem_of_find?_eq_some hr, rfl⟩

variable [Engine]

/-! ### The steps -/

/-- What a new leaf is bound to, and how texts are bound from then on. A text is bound to what is
inferred of it, a picture to the field of a rule for images, and a shape to nothing. -/
inductive Binds (c : MarkupConfig) (before after : Inference) : Leaf → Prop
  | text {t : TextLeaf} : before.infer t.content = (t.binding, after) →
    Binds c before after (.text t)
  | image {i : ImageLeaf} (raw : String) : i.binding = (source c raw).2 → after = before →
    Binds c before after (.image i)
  | svg {g : SvgLeaf} (raw : String) : g.binding = (source c raw).2 → after = before →
    Binds c before after (.svg g)
  | shape {g : ShapeLeaf} : after = before → Binds c before after (.shape g)

/-- The nodes that a part of the walk gives, with what is known before it and behind it. -/
inductive Grows (c : MarkupConfig) : Progress → List Node → Progress → Prop
  | nothing {s : Progress} : Grows c s [] s
  | append {s t u : Progress} {ns ms : List Node} : Grows c s ns t → Grows c t ms u →
    Grows c s (ns ++ ms) u
  | leaf {s : Progress} {l : Leaf} {after : Inference} {ds : List Diagnostic} :
    Binds c s.inference after l →
    Grows c s [.leaf { id := (s.nextId l.kind).1 } l]
      { (s.nextId l.kind).2 with inference := after, diagnostics := ds }
  | box {s t : Progress} {layout : Layout} {ns : List Node} : (∀ f, layout ≠ .frame f) →
    Grows c (s.nextId layout.kind).2 ns t →
    Grows c s [.container { id := (s.nextId layout.kind).1 } layout ns] t
  | hide {s t : Progress} {ns : List Node} : Grows c s ns t → Grows c s (ns.map Node.hide) t
  | record {s t : Progress} {ns : List Node} (e : Element) : Grows c s ns t →
    Grows c s ns (t.record e ns)

variable {c : MarkupConfig}

lemma grows_line (s : Progress) (settings : TextSettings) (style : InlineStyle)
    (width height : Length) (content : String) :
    Grows c s [(line s settings style width height content).1]
      (line s settings style width height content).2 :=
  .leaf (.text rfl)

lemma grows_linesOf (s : Progress) (settings : TextSettings) (style : InlineStyle)
    (width height : Length) (contents : List String) :
    Grows c s (linesOf s settings style width height contents).1
      (linesOf s settings style width height contents).2 := by
  induction contents generalizing s with
  | nil => exact .nothing
  | cons content rest ih =>
    exact (grows_line s settings style width height content).append (ih _)

lemma grows_text (s : Progress) (settings : TextSettings) (style : InlineStyle) (ds : List Dom) :
    Grows c s (text s settings style ds).1 (text s settings style ds).2 := by
  unfold text
  split <;> exact grows_linesOf s settings style _ _ _

lemma grows_clipped (s : Progress) (style : InlineStyle) (p shape picture : Place) :
    Grows c s [(clipped c s style p shape picture).1] (clipped c s style p shape picture).2 := by
  unfold clipped
  dsimp only
  -- a shape without a path is reported, and nothing else comes of that
  cases Vector.elementPath? shape.element with
  | some path => exact .leaf (.svg _ rfl rfl)
  | none => exact .leaf (.svg _ rfl rfl)

lemma grows_drawing (s : Progress) (style : InlineStyle) (p : Place) :
    Grows c s (drawing c s style p).1 (drawing c s style p).2 := by
  unfold drawing
  split
  · exact grows_clipped s style p _ _
  · split
    · exact .nothing
    · exact .leaf (.shape rfl)

mutual

lemma grows_nodes (around : List Element) (settings : TextSettings) (s : Progress) (d : Dom) :
    Grows c s (nodes c around settings s d).1 (nodes c around settings s d).2 := by
  match d with
  | .text t =>
    rw [nodes]
    split
    · exact .nothing
    · exact grows_linesOf s settings {} .auto .auto _
  | .element e cs =>
    rw [nodes]
    split
    · exact .nothing
    · dsimp only
      refine .record e ?_
      have hshown {ns : List Node} {t : Progress} (h : Grows c s ns t) :
          Grows c s (if (styleOf e).isHidden then ns.map Node.hide else ns) t := by
        split
        · exact .hide h
        · exact h
      refine hshown ?_
      split
      · exact .leaf (.image _ rfl rfl)
      · split
        · exact grows_drawing s _ _
        · split
          · exact grows_text s _ _ cs
          · exact .box (layoutOf_ne_frame c _) (grows_nodesIn (e :: around) _ _ cs)
  | .contents cs =>
    rw [nodes]
    exact .nothing
  | .other =>
    rw [nodes]
    exact .nothing

lemma grows_nodesIn (around : List Element) (settings : TextSettings) (s : Progress)
    (ds : List Dom) :
    Grows c s (nodesIn c around settings s ds).1 (nodesIn c around settings s ds).2 := by
  match ds with
  | [] =>
    rw [nodesIn]
    exact .nothing
  | d :: ds =>
    rw [nodesIn]
    exact .append (grows_nodes around settings s d) (grows_nodesIn around settings _ ds)

end

lemma Grows.flexBox {s t : Progress} {ns : List Node} (h : Grows c (s.nextId "flex").2 ns t)
    (f : Flex) : Grows c s [.container { id := (s.nextId "flex").1 } (.flex f) ns] t := by
  have hflex : ∀ g, Layout.flex f ≠ .frame g := fun _ => Layout.noConfusion
  exact .box hflex h

/-- The frame is numbered before all that is in it, and written down behind it. -/
lemma exists_frame (s : Progress) (root : Place) : ∃ f ns t, Grows c (s.nextId "frame").2 ns t ∧
    frame c s root = (.container { id := (s.nextId "frame").1 } (.frame f) ns,
      t.record root.element [.container { id := (s.nextId "frame").1 } (.frame f) ns]) := by
  unfold frame
  dsimp only
  split
  · have hin (settings : TextSettings) := grows_nodesIn (c := c) (root.element :: root.around)
      settings ((s.nextId "frame").2.nextId "flex").2 root.children
    exact ⟨_, _, _, (hin _).flexBox _, rfl⟩
  · exact ⟨_, _, _, grows_nodesIn _ _ _ root.children, rfl⟩

/-! ### What holds of every node -/

namespace Grows

variable {s t : Progress} {ns : List Node}

/-- In pre-order the nodes have the next ids, each for its kind. -/
lemma numbered (h : Grows c s ns t) :
    s.ids.nextAll ((Node.preorders ns).map (·.kind)) = (Node.idsIn ns, t.ids) := by
  induction h with
  | nothing => rfl
  | append _ _ ih ih' =>
    rw [Node.preorders_append, List.map_append, NodeIds.nextAll_append, ih, ih', Node.idsIn_append]
  | leaf _ => rfl
  | @box s t layout ns _ _ ih =>
    rw [Node.idsIn, Node.preorders_singleton, Node.preorder, List.map_cons, List.map_cons,
      ← Node.idsIn]
    have hcons (ks : List String) : s.ids.nextAll (layout.kind :: ks) =
        ((s.ids.next layout.kind).1 :: ((s.nextId layout.kind).2.ids.nextAll ks).1,
          ((s.nextId layout.kind).2.ids.nextAll ks).2) := rfl
    exact (hcons _).trans (by rw [ih]; rfl)
  | hide _ ih => rw [Node.map_preorders_hide _ (fun n => by cases n <;> rfl), ih, Node.idsIn_hide]
  | record _ _ ih => exact ih

/-- What is written down of an element are ids of nodes that have come since. -/
lemma made_subset (h : Grows c s ns t) : ∀ p ∈ t.made, p ∈ s.made ∨ p.2 ⊆ Node.idsIn ns := by
  induction h with
  | nothing => exact fun p hp => .inl hp
  | append _ _ ih ih' =>
    intro p hp
    rw [Node.idsIn_append]
    rcases ih' p hp with hp | hp
    · rcases ih p hp with hp | hp
      · exact .inl hp
      · exact .inr (List.subset_append_of_subset_left _ hp)
    · exact .inr (List.subset_append_of_subset_right _ hp)
  | leaf _ => exact fun p hp => .inl hp
  | box _ _ ih =>
    intro p hp
    rcases ih p hp with hp | hp
    · exact .inl hp
    · refine .inr fun id hid => ?_
      rw [Node.idsIn, Node.preorders_singleton, Node.preorder]
      exact List.mem_cons_of_mem _ (hp hid)
  | hide _ ih =>
    rw [Node.idsIn_hide]
    exact ih
  | record e _ ih =>
    intro p hp
    rcases List.mem_cons.1 hp with rfl | hp
    · refine .inr fun id hid => ?_
      obtain ⟨n, hn, rfl⟩ := List.mem_map.1 hid
      exact Node.id_mem_idsIn hn
    · exact ih p hp

lemma isFrame_eq_false (h : Grows c s ns t) : ∀ n ∈ Node.preorders ns, n.isFrame = false := by
  induction h with
  | nothing => exact fun n hn => absurd hn List.not_mem_nil
  | append _ _ ih ih' =>
    rw [Node.preorders_append]
    exact List.forall_mem_append.2 ⟨ih, ih'⟩
  | leaf _ => exact List.forall_mem_singleton.2 rfl
  | @box s t layout ns hlayout _ ih =>
    rw [Node.preorders_singleton, Node.preorder]
    refine List.forall_mem_cons.2 ⟨?_, ih⟩
    cases layout with
    | frame f => exact absurd rfl (hlayout f)
    | flex f => rfl
    | box b => rfl
  | hide _ ih => exact Node.forall_preorders_hide (fun n => by rw [Node.isFrame_hide]) ih
  | record _ _ ih => exact ih

/-- A node is bound to a field that parses, or it is a picture and bound by a rule for images. -/
def Traced (c : MarkupConfig) (n : Node) : Prop :=
  ∀ b ∈ n.binding, (FieldPath.ofText? b.field).isSome = true ∨
    (n.kind = "image" ∨ n.kind = "svg") ∧ ∃ r ∈ c.imageFields, b = ⟨r.field, .image, none⟩

lemma traced_leaf {before after : Inference} {head : Head} {l : Leaf} (h : Binds c before after l)
    (hs : before.Sound) : Traced c (.leaf head l) ∧ after.Sound := by
  cases h with
  | @text t hinfer =>
    obtain ⟨hfields, hafter⟩ := hs.infer t.content
    rw [hinfer] at hfields hafter
    exact ⟨fun b hb => .inl (hfields b hb), hafter⟩
  | image raw hbinding hafter =>
    refine ⟨fun b hb => .inr ⟨.inl rfl, ?_⟩, hafter ▸ hs⟩
    exact rule_of_source raw (hbinding ▸ hb)
  | svg raw hbinding hafter =>
    refine ⟨fun b hb => .inr ⟨.inr rfl, ?_⟩, hafter ▸ hs⟩
    exact rule_of_source raw (hbinding ▸ hb)
  | shape hafter =>
    exact ⟨fun b hb => absurd hb (by simp [Node.binding, Leaf.binding]), hafter ▸ hs⟩

lemma traced (h : Grows c s ns t) (hs : s.inference.Sound) :
    (∀ n ∈ Node.preorders ns, Traced c n) ∧ t.inference.Sound := by
  induction h with
  | nothing => exact ⟨fun n hn => absurd hn List.not_mem_nil, hs⟩
  | append _ _ ih ih' =>
    obtain ⟨hns, ht⟩ := ih hs
    obtain ⟨hms, hu⟩ := ih' ht
    rw [Node.preorders_append]
    exact ⟨List.forall_mem_append.2 ⟨hns, hms⟩, hu⟩
  | leaf hbinds =>
    obtain ⟨hleaf, hafter⟩ := traced_leaf hbinds hs
    exact ⟨List.forall_mem_singleton.2 hleaf, hafter⟩
  | box _ _ ih =>
    obtain ⟨hns, ht⟩ := ih hs
    rw [Node.preorders_singleton, Node.preorder]
    exact ⟨List.forall_mem_cons.2 ⟨fun b hb => absurd hb (by simp [Node.binding]), hns⟩, ht⟩
  | hide _ ih =>
    obtain ⟨hns, ht⟩ := ih hs
    exact ⟨Node.forall_preorders_hide (fun n => by cases n <;> rfl) hns, ht⟩
  | record _ _ ih => exact ih hs

end Grows

end Page

end VisualTemplate
