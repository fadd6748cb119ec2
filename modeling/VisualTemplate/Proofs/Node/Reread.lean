import VisualTemplate.Proofs.Json.Records
import VisualTemplate.Proofs.Node.Settled
import VisualTemplate.Proofs.Text.Trim
/-!
Written nodes read back.

Every part of a node is read back from the value it is written as, if its numbers are read back
from their texts. A part that is left out when it has its default comes back as the default, so a
node is read as the settled node.
-/

namespace VisualTemplate

open Json

/-- A number is read back from each of the two texts that it is written as. -/
structure SingleRereads (x : Float32) : Prop where
  document : ∃ k, Source.ofText x.documentText = (.number k, true) ∧ k.toSingle = x
  plain : Float32.ofText? x.plain = some x

/-- The number that a document's text of a number is read as. -/
def rereadSingle? (x : Float32) : Option Float32 :=
  match Source.ofText x.documentText with
  | (.number k, true) => some k.toSingle
  | _ => none

lemma singleRereads_iff {x : Float32} :
    SingleRereads x ↔ rereadSingle? x = some x ∧ Float32.ofText? x.plain = some x := by
  constructor
  · intro h
    obtain ⟨k, hk, hx⟩ := h.document
    refine ⟨?_, h.plain⟩
    rw [rereadSingle?, hk]
    exact congrArg some hx
  · rintro ⟨hdocument, hplain⟩
    refine ⟨?_, hplain⟩
    unfold rereadSingle? at hdocument
    split at hdocument
    · next k hk => exact ⟨k, hk, Option.some.inj hdocument⟩
    · exact absurd hdocument (by simp)

instance (x : Float32) : Decidable (SingleRereads x) := decidable_of_iff' _ singleRereads_iff

/-- All numbers of a list are read back. -/
def AllReread (xs : List Float32) : Prop := ∀ x ∈ xs, SingleRereads x

instance : DecidablePred AllReread := fun xs =>
  inferInstanceAs (Decidable (∀ x ∈ xs, SingleRereads x))

lemma allReread_append {xs ys : List Float32} :
    AllReread (xs ++ ys) ↔ AllReread xs ∧ AllReread ys := List.forall_mem_append

lemma allReread_cons {x : Float32} {xs : List Float32} :
    AllReread (x :: xs) ↔ SingleRereads x ∧ AllReread xs := List.forall_mem_cons

/-! ### Numbers and lengths -/

lemma SingleRereads.reads {x : Float32} (h : SingleRereads x) :
    Decoder.single.Reads (.single x) x := by
  obtain ⟨k, hk, hx⟩ := h.document
  refine ⟨.number ⟨k, hk⟩, fun mode => ?_⟩
  rw [Value.single, Value.source, Number.text, hk, ← hx]
  rfl

lemma SingleRereads.plain_chars {x : Float32} (h : SingleRereads x) :
    ∀ c ∈ x.plain.toList, Decimal.isNumberChar c = true := by
  obtain ⟨k, hk, -⟩ := h.document
  obtain ⟨n, m, e, hx⟩ := Number.Rereads.finite_single ⟨k, hk⟩
  rw [Float32.plain, hx]
  exact (Decimal.chars_text_finite _ n m e).2

/-- A share is read back from its text. -/
lemma Length.ofText?_percent {x : Float32} (h : SingleRereads x) :
    Length.ofText? (x.plain ++ "%") = some (.percent x) := by
  have hblank : ∀ c ∈ x.plain.toList, Text.isBlank c = false :=
    fun c hc => Decimal.isBlank_of_isNumberChar (h.plain_chars c hc)
  have hlist : (x.plain ++ "%").toList = x.plain.toList ++ ['%'] := by simp
  have htrim : (x.plain ++ "%").trimmed = x.plain ++ "%" := by
    rw [String.trimmed, Text.trim_of_notBlank, String.ofList_toList]
    intro c hc
    rw [hlist] at hc
    rcases List.mem_append.1 hc with hc | hc
    · exact hblank c hc
    · rw [List.mem_singleton.1 hc]
      rfl
  have hauto : (x.plain ++ "%").sameIgnoringCase "auto" = false := by
    rw [String.sameIgnoringCase, beq_eq_false_iff_ne]
    intro heq
    have hlast := congrArg (fun s => s.toList.getLast?) heq
    simp only [String.lowerAscii, hlist, String.toList_ofList, List.map_append, List.map_cons,
      List.map_nil, List.getLast?_append, List.getLast?_singleton, Option.some_or]
      at hlast
    exact absurd hlast (by decide)
  have hbefore : (x.plain ++ "%").before? "%" = some x.plain := by
    have hpercent : ("%" : String).toList = ['%'] := rfl
    rw [String.before?, hlist, hpercent, Text.before?_append, Option.map_some,
      String.ofList_toList]
  have hnumber : Length.number? x.plain.toList = some x := by
    rw [Length.number?, Text.trim_of_notBlank hblank, String.ofList_toList, h.plain]
  simp only [Length.ofText?, htrim, hauto, hbefore, hnumber]
  rfl

lemma Length.ofText?_auto : Length.ofText? "auto" = some .auto := by
  have htrim : ("auto" : String).trimmed = "auto" := by decide +kernel
  have hsame : ("auto" : String).sameIgnoringCase "auto" = true := by decide +kernel
  rw [Length.ofText?, htrim, if_pos hsame]

lemma Length.reads {l : Length} (h : AllReread l.singles) : Length.decoder.Reads l.toValue l := by
  have htext {text : String} (htext : Length.ofText? text = some l) :
      Length.decoder.Reads (.string text) l := by
    refine ⟨.string text, fun mode => ?_⟩
    rw [Value.source, Length.decoder, buffer_eq_ok ⟨rfl, rfl⟩, htext]
    rfl
  cases l with
  | px x =>
    have hx := h x List.mem_cons_self
    obtain ⟨k, hk, hsingle⟩ := hx.document
    refine ⟨hx.reads.rereads, fun mode => ?_⟩
    rw [Length.toValue, Value.single, Value.source, Number.text, hk, Length.decoder,
      buffer_eq_ok ⟨rfl, rfl⟩, ← hsingle]
    rfl
  | percent x => exact htext (Length.ofText?_percent (h x List.mem_cons_self))
  | auto => exact htext Length.ofText?_auto

/-! ### Parts of nodes -/

lemma Insets.reads {i : Insets} (h : AllReread i.singles) : Insets.decoder.Reads i.toValue i := by
  simp only [Insets.singles, allReread_cons] at h
  obtain ⟨htop, hright, hbottom, hleft, -⟩ := h
  show Decoder.Reads _ (.ofFields [("top", some (.single i.top)), ("right", some (.single i.right)),
    ("bottom", some (.single i.bottom)), ("left", some (.single i.left))]) _
  exact Decoder.reads_record rfl (of_decide_eq_true rfl)
    (((((Record.Reads.written rfl htop.reads).map _).seq
      (.written rfl hright.reads)).seq
      (.written rfl hbottom.reads)).seq
      (.written rfl hleft.reads)) rfl

lemma Position.reads {p : Position} (h : AllReread p.singles) :
    Position.decoder.Reads p.toValue p := by
  simp only [Position.singles, allReread_cons] at h
  obtain ⟨hx, hy, -⟩ := h
  show Decoder.Reads _ (.ofFields [("x", some (.single p.x)), ("y", some (.single p.y))]) _
  exact Decoder.reads_record rfl (of_decide_eq_true rfl)
    (((Record.Reads.written rfl hx.reads).map _).seq
      (.written rfl hy.reads)) rfl

lemma Paint.reads (p : Paint) : Paint.decoder.Reads p.toValue p := by
  cases p with
  | token name =>
    have hrecord : (Decoder.record (.required "token" .string)).Reads
        (.ofFields [("token", some (.string name))]) name :=
      Decoder.reads_record rfl (of_decide_eq_true rfl)
        (.written rfl (Decoder.reads_string name)) rfl
    refine ⟨hrecord.rereads, fun mode => ?_⟩
    have hsource : (Paint.token name).toValue.source =
      (Value.ofFields [("token", some (.string name))]).source := rfl
    unfold Paint.decoder
    rw [hsource, buffer_eq_ok hrecord.rereads.whole, hrecord.decode]
    rfl
  | literal text => exact ⟨.string text, fun mode => by cases mode <;> rfl⟩

lemma reads_bindingKind (k : BindingKind) : BindingKind.decoder.Reads (.string k.word) k :=
  Decoder.reads_oneOf (by cases k <;> rfl)

lemma Binding.reads (b : Binding) : Binding.decoder.Reads b.toValue b :=
  Decoder.reads_record rfl (of_decide_eq_true rfl)
    ((((Record.Reads.written rfl (Decoder.reads_string b.field)).map _).seq
      (.written rfl (reads_bindingKind b.kind))).seq
      (.ifAny rfl (fun p _ => Decoder.reads_string p) (by simp)))
    rfl

/-! ### Layouts and leaves -/

namespace Node.Wire

lemma reads_unlessZero {fields : List (String × Option Value)} {name : String} {x : Float32}
    (hx : SingleRereads x) (h : fields.lookup name = some (unlessZero x)) :
    (Record.optional name .single 0).Reads fields x.settled := by
  refine .unlessDefault h (fun v hv => ?_) fun hnone => ?_
  · unfold unlessZero at hv
    split at hv
    · exact absurd hv (by simp)
    · next hne =>
      rw [← Option.some.inj hv, Float32.settled, if_neg hne]
      exact hx.reads
  · unfold unlessZero at hnone
    split at hnone
    · next hzero => rw [Float32.settled, if_pos hzero]
    · exact absurd hnone (by simp)

lemma reads_padded {fields : List (String × Option Value)} {name : String} {i : Insets}
    (hi : AllReread i.singles) (h : fields.lookup name = some (unlessZeroInsets i)) :
    (padded name).Reads fields i.settled := by
  refine .unlessDefault h (fun v hv => ?_) fun hnone => ?_
  · unfold unlessZeroInsets at hv
    split at hv
    · exact absurd hv (by simp)
    · next hne =>
      rw [← Option.some.inj hv, Insets.settled, if_neg hne]
      exact Insets.reads hi
  · unfold unlessZeroInsets at hnone
    split at hnone
    · next hzero => rw [Insets.settled, if_pos hzero]
    · exact absurd hnone (by simp)

lemma reads_bindings {fields : List (String × Option Value)} {b : Option Binding}
    (h : fields.lookup "binding" = some (b.map (·.toValue))) : bindings.Reads fields b :=
  .ifAny h (fun b _ => Binding.reads b) fun b => by simp [Binding.toValue, Value.ofFields]

lemma reads_typographies {t : Typography} (h : AllReread t.singles) :
    typographies.Reads (typography t) t := by
  rw [Typography.singles, allReread_cons] at h
  obtain ⟨hsize, hline⟩ := h
  have hweight : word16.Reads (.nat t.weight.toNat) t.weight := by
    have hbelow : (Decoder.below (Nat.pow 2 16)).Reads (.nat t.weight.toNat) t.weight.toNat :=
      Decoder.reads_below t.weight.toNat_lt (by decide)
    have hmap := Decoder.reads_map Nat.toUInt16 hbelow
    rwa [show t.weight.toNat.toUInt16 = t.weight from UInt16.ofNat_toNat] at hmap
  exact Decoder.reads_record rfl (of_decide_eq_true rfl)
    (((((Record.Reads.written rfl (Decoder.reads_string t.family)).map _).seq
      (.written rfl hsize.reads)).seq
      (.written rfl hweight)).seq
      (.ifAny rfl (fun x hx => (hline x (by simpa using hx)).reads)
        (by simp [Value.single]))) rfl

lemma reads_masks {m : Mask} (h : AllReread m.singles) : masks.Reads (mask m) m := by
  have hoffset : ∀ p ∈ m.offset, Position.decoder.Reads p.toValue p := by
    intro p hp
    rw [Mask.singles, Option.mem_def.1 hp] at h
    exact Position.reads h
  exact Decoder.reads_record rfl (of_decide_eq_true rfl)
    ((((Record.Reads.written rfl (Decoder.reads_string m.id)).map _).seq
      (.written rfl (Decoder.reads_string m.path))).seq
      (.ifAny rfl hoffset (by simp [Position.toValue]))) rfl

lemma reads_outlines {o : Outline} (h : AllReread o.singles) :
    outlines.Reads (outline o) o.settled := by
  cases o with
  | rectangle radius =>
    have hradius := h radius List.mem_cons_self
    exact Decoder.reads_tagged rfl (of_decide_eq_true rfl)
      (Decoder.reads_record rfl (of_decide_eq_true rfl)
        ((reads_unlessZero hradius rfl).map _) rfl)
  | ellipse =>
    have hempty : ellipses.Reads (.ofFields []) .ellipse :=
      ⟨rereads_ofFields.2 (by simp), fun mode => rfl⟩
    exact Decoder.reads_tagged rfl (of_decide_eq_true rfl) hempty
  | vector path viewBox =>
    exact Decoder.reads_tagged rfl (of_decide_eq_true rfl)
      (Decoder.reads_record rfl (of_decide_eq_true rfl)
        (((Record.Reads.written rfl (Decoder.reads_string path)).map _).seq
          (.ifAny rfl (fun s _ => Decoder.reads_string s) (by simp))) rfl)

lemma reads_strokes {s : Stroke} (h : SingleRereads s.width) : strokes.Reads (stroke s) s := by
  show Decoder.Reads _ (.ofFields [("color", some s.color.toValue),
    ("width", some (.single s.width))]) _
  exact Decoder.reads_record rfl (of_decide_eq_true rfl)
    (((Record.Reads.written rfl (Paint.reads s.color)).map _).seq
      (.written rfl h.reads)) rfl

lemma reads_word32 (w : UInt32) : word32.Reads (.nat w.toNat) w := by
  have hbelow : (Decoder.below (Nat.pow 2 32)).Reads (.nat w.toNat) w.toNat :=
    Decoder.reads_below w.toNat_lt (by decide)
  have hmap := Decoder.reads_map Nat.toUInt32 hbelow
  rwa [show w.toNat.toUInt32 = w from UInt32.ofNat_toNat] at hmap

lemma reads_background {fields : List (String × Option Value)} {name : String} {p : Option Paint}
    (h : fields.lookup name = some (p.map (·.toValue))) :
    (Record.maybe name Paint.decoder).Reads fields p :=
  .ifAny h (fun p _ => Paint.reads p) fun p => by cases p <;> simp [Paint.toValue]

lemma reads_boxSizing {fields : List (String × Option Value)} {b : Option BoxSizing}
    (h : fields.lookup "boxSizing" = some (b.map (.string ·.word))) :
    (Record.maybe "boxSizing" boxSizings).Reads fields b :=
  .ifAny h (fun b _ => Decoder.reads_oneOf (by cases b <;> rfl)) (by simp)

lemma reads_children {d : Decoder Node} {cs : List Node}
    (hcs : ∀ n ∈ cs, d.Reads n.toValue n.settled) {fields : List (String × Option Value)}
    (h : fields.lookup "children" = some (some (.array (Node.toValues cs)))) :
    (childrenOf d).Reads fields (Node.settledAll cs) := by
  refine .written h ?_
  rw [Node.toValues_eq_map, Node.settledAll_eq_map]
  exact Decoder.reads_list hcs

/-- The kinds of nodes, each with the decoder of its parts. -/
def bodies (d : Decoder Node) : List (String × Decoder Body) :=
  [("frame", frames d), ("flex", flexes d), ("box", boxes d), ("text", texts), ("image", images),
    ("svg", svgs), ("shape", shapes)]

lemma exists_layout_reads {d : Decoder Node} {l : Layout} {cs : List Node}
    (hl : AllReread l.singles) (hcs : ∀ n ∈ cs, d.Reads n.toValue n.settled) :
    ∃ b, (bodies d).lookup l.kind = some b ∧
      b.Reads (.ofFields (layout l (.array (Node.toValues cs))))
        (.container l.settled (Node.settledAll cs)) := by
  cases l with
  | frame f =>
    exact ⟨frames d, rfl, Decoder.reads_record rfl (of_decide_eq_true rfl)
      ((((((Record.Reads.written rfl (reads_word32 f.width)).map _).seq
        (.written rfl (reads_word32 f.height))).seq
        (reads_padded hl rfl)).seq
        (reads_background rfl)).seq
        (reads_children hcs rfl)) rfl⟩
  | flex f =>
    simp only [Layout.singles, allReread_append, allReread_cons] at hl
    obtain ⟨⟨hw, hh⟩, hgap, hp⟩ := hl
    have hdirection : directions.Reads (.string f.direction.word) f.direction :=
      Decoder.reads_oneOf (by cases f.direction <;> rfl)
    have hjustify : justifies.Reads (.string f.justify.word) f.justify :=
      Decoder.reads_oneOf (by cases f.justify <;> rfl)
    have halign : aligns.Reads (.string f.align.word) f.align :=
      Decoder.reads_oneOf (by cases f.align <;> rfl)
    have hoverflow : overflows.Reads (.string f.overflow.word) f.overflow :=
      Decoder.reads_oneOf (by cases f.overflow <;> rfl)
    exact ⟨flexes d, rfl, Decoder.reads_record rfl (of_decide_eq_true rfl)
      ((((((((((((Record.Reads.written rfl (Length.reads hw)).map _).seq
        (.written rfl (Length.reads hh))).seq
        (.written rfl hdirection)).seq
        (.written rfl hjustify)).seq
        (.written rfl halign)).seq
        (reads_unlessZero hgap rfl)).seq
        (reads_padded hp rfl)).seq
        (reads_background rfl)).seq
        (.written rfl hoverflow)).seq
        (reads_boxSizing rfl)).seq
        (reads_children hcs rfl)) rfl⟩
  | box b =>
    simp only [Layout.singles, allReread_append] at hl
    obtain ⟨⟨hw, hh⟩, hp⟩ := hl
    have hoverflow : overflows.Reads (.string b.overflow.word) b.overflow :=
      Decoder.reads_oneOf (by cases b.overflow <;> rfl)
    exact ⟨boxes d, rfl, Decoder.reads_record rfl (of_decide_eq_true rfl)
      ((((((((Record.Reads.written rfl (Length.reads hw)).map _).seq
        (.written rfl (Length.reads hh))).seq
        (reads_padded hp rfl)).seq
        (reads_background rfl)).seq
        (.written rfl hoverflow)).seq
        (reads_boxSizing rfl)).seq
        (reads_children hcs rfl)) rfl⟩

lemma exists_leaf_reads (d : Decoder Node) {l : Leaf} (hl : AllReread l.singles) :
    ∃ b, (bodies d).lookup l.kind = some b ∧
      b.Reads (.ofFields (leaf l)) (.leaf l.settled) := by
  cases l with
  | text t =>
    simp only [Leaf.singles, allReread_append] at hl
    obtain ⟨⟨⟨hw, hh⟩, hf⟩, hm⟩ := hl
    have halign : textAligns.Reads (.string t.align.word) t.align :=
      Decoder.reads_oneOf (by cases t.align <;> rfl)
    exact ⟨texts, rfl, Decoder.reads_record rfl (of_decide_eq_true rfl)
      (((((((((Record.Reads.written rfl (Length.reads hw)).map _).seq
        (.written rfl (Length.reads hh))).seq
        (.written rfl (Decoder.reads_string t.content))).seq
        (.written rfl (reads_typographies hf))).seq
        (.written rfl halign)).seq
        (.written rfl (Paint.reads t.color))).seq
        (reads_padded hm rfl)).seq
        (reads_bindings rfl)) rfl⟩
  | image i =>
    simp only [Leaf.singles, allReread_append] at hl
    have hfit : fits.Reads (.string i.fit.word) i.fit :=
      Decoder.reads_oneOf (by cases i.fit <;> rfl)
    have hdisplay : displays.Reads (.string i.display.word) i.display :=
      Decoder.reads_oneOf (by cases i.display <;> rfl)
    exact ⟨images, rfl, Decoder.reads_record rfl (of_decide_eq_true rfl)
      (((((((Record.Reads.written rfl (Length.reads hl.1)).map _).seq
        (.written rfl (Length.reads hl.2))).seq
        (.written rfl (Decoder.reads_string i.src))).seq
        (.written rfl hfit)).seq
        (.written rfl hdisplay)).seq
        (reads_bindings rfl)) rfl⟩
  | svg s =>
    simp only [Leaf.singles, allReread_cons] at hl
    obtain ⟨hw, hh, hm⟩ := hl
    have hmask : ∀ m ∈ s.mask, masks.Reads (mask m) m := by
      intro m hmem
      rw [Option.mem_def.1 hmem] at hm
      exact reads_masks hm
    exact ⟨svgs, rfl, Decoder.reads_record rfl (of_decide_eq_true rfl)
      (((((((Record.Reads.written rfl hw.reads).map _).seq
        (.written rfl hh.reads)).seq
        (.written rfl (Decoder.reads_string s.viewBox))).seq
        (.ifAny rfl hmask (by simp [mask, Value.ofFields]))).seq
        (.ifAny rfl (fun i _ => Decoder.reads_string i) (by simp))).seq
        (reads_bindings rfl)) rfl⟩
  | shape s =>
    simp only [Leaf.singles, allReread_cons, allReread_append] at hl
    obtain ⟨hw, hh, ho, hs⟩ := hl
    have hstroke : ∀ st ∈ s.stroke, strokes.Reads (stroke st) st := by
      intro st hmem
      exact reads_strokes (hs st.width (by simp [Option.mem_def.1 hmem]))
    exact ⟨shapes, rfl, Decoder.reads_record rfl (of_decide_eq_true rfl)
      ((((((Record.Reads.written rfl hw.reads).map _).seq
        (.written rfl hh.reads)).seq
        (.written rfl (reads_outlines ho))).seq
        (reads_background rfl)).seq
        (.ifAny rfl hstroke (by simp [stroke]))) rfl⟩

/-! ### Nodes -/

lemma reads_heads {h : Head} (hh : AllReread h.singles) (others : List (String × Option Value)) :
    heads.Reads (head h ++ others) h := by
  have hname : (Record.optional "name" .string "").Reads (head h ++ others) h.name := by
    refine .unlessDefault rfl (fun v hv => ?_) fun hnone => ?_
    · split at hv
      · exact absurd hv (by simp)
      · rw [← Option.some.inj hv]
        exact Decoder.reads_string h.name
    · split at hnone
      · next hempty => exact String.isEmpty_iff.1 hempty
      · exact absurd hnone (by simp [word])
  have hvisible : (Record.optional "visible" .bool true).Reads (head h ++ others) h.visible := by
    refine .unlessDefault rfl (fun v hv => ?_) fun hnone => ?_
    · split at hv
      · exact absurd hv (by simp)
      · next hhidden =>
        rw [← Option.some.inj hv, Bool.eq_false_iff.2 hhidden]
        exact Decoder.reads_bool false
    · split at hnone
      · next hshown => exact hshown
      · exact absurd hnone (by simp)
  have hposition : ∀ p ∈ h.position, Position.decoder.Reads p.toValue p := by
    intro p hp
    rw [Head.singles, Option.mem_def.1 hp] at hh
    exact Position.reads hh
  exact (((((Record.Reads.written rfl (Decoder.reads_string h.id)).map _).seq hname).seq
    hvisible).seq (.ifAny rfl hposition (by simp [Position.toValue])))

/-- A head and the parts of one kind are read back together. -/
lemma reads_headed {depth : ℕ} {h : Head} {kind : String} {fields : List (String × Option Value)}
    {d : Decoder Body} {b : Body} (hh : AllReread h.singles)
    (hd : (bodies (nodes depth)).lookup kind = some d) (hb : d.Reads (.ofFields fields) b)
    (hdistinct : Distinct (head h ++ ("type", some (.string kind)) :: fields)) :
    (nodes (depth + 1)).Reads (.ofFields (head h ++ ("type", some (.string kind)) :: fields))
      (b.withHead h) := by
  have htag : "type" ∉ fields.map Prod.fst := by
    have hnodup := hdistinct
    rw [Distinct, List.map_append, List.nodup_append', List.map_cons, List.nodup_cons] at hnodup
    exact hnodup.2.1.1
  have hothers : (Value.ofFields (("type", some (.string kind)) :: fields)).Rereads := by
    refine rereads_ofFields.2 (List.forall_mem_cons.2 ⟨fun v hv => ?_, ?_⟩)
    · rw [← Option.some.inj hv]
      exact .string kind
    · exact rereads_ofFields.1 hb.rereads
  have hflattened := Decoder.reads_flattened rfl hdistinct (reads_heads hh _) hothers
    (Decoder.taggedFields_eq_ok hd htag hb)
  exact Decoder.reads_map (fun p : Head × Body => p.2.withHead p.1) hflattened

mutual

lemma reads_node (n : Node) {depth : ℕ} (hn : AllReread n.singles)
    (hdepth : n.toValue.nesting ≤ depth) : (nodes depth).Reads n.toValue n.settled := by
  match n with
  | .container h l cs =>
    simp only [Node.singles, allReread_append] at hn
    obtain ⟨⟨hh, hl⟩, hcs⟩ := hn
    have hchildren : ("children", some (.array (Node.toValues cs))) ∈ head h ++
        ("type", some (.string l.kind)) :: layout l (.array (Node.toValues cs)) := by
      refine List.mem_append_right _ (List.mem_cons_of_mem _ ?_)
      cases l <;> simp [layout]
    have hnesting := nesting_lt_ofFields hchildren
    rw [← Node.toValue, Value.nesting] at hnesting
    obtain ⟨depth, rfl⟩ := Nat.exists_eq_succ_of_ne_zero (n := depth) (by omega)
    have hbelow : ∀ n ∈ cs, n.toValue.nesting ≤ depth := by
      intro n hn
      have hmem : n.toValue ∈ Node.toValues cs := by
        rw [Node.toValues_eq_map]
        exact List.mem_map_of_mem hn
      have hle := nesting_le_items hmem
      omega
    have hreads := reads_nodes cs hcs hbelow
    obtain ⟨d, hd, hb⟩ := exists_layout_reads hl hreads
    have hdistinct : Distinct (head h ++ ("type", some (.string l.kind)) ::
        layout l (.array (Node.toValues cs))) := by
      cases l <;> exact of_decide_eq_true rfl
    rw [Node.toValue]
    exact reads_headed hh hd hb hdistinct
  | .leaf h l =>
    simp only [Node.singles, allReread_append] at hn
    have hpos : 1 ≤ depth := by
      rw [Node.toValue, ofFields_eq, Value.nesting] at hdepth
      omega
    obtain ⟨depth, rfl⟩ := Nat.exists_eq_succ_of_ne_zero (n := depth) (by omega)
    obtain ⟨d, hd, hb⟩ := exists_leaf_reads (nodes depth) hn.2
    have hdistinct : Distinct (head h ++ ("type", some (.string l.kind)) :: leaf l) := by
      cases l <;> exact of_decide_eq_true rfl
    rw [Node.toValue]
    exact reads_headed hn.1 hd hb hdistinct

lemma reads_nodes (ns : List Node) {depth : ℕ} (hns : AllReread (Node.singlesIn ns))
    (hdepth : ∀ n ∈ ns, n.toValue.nesting ≤ depth) :
    ∀ n ∈ ns, (nodes depth).Reads n.toValue n.settled := by
  match ns with
  | [] => exact fun n hn => absurd hn List.not_mem_nil
  | n :: ns =>
    simp only [Node.singlesIn, allReread_append] at hns
    exact List.forall_mem_cons.2 ⟨reads_node n hns.1 (hdepth n List.mem_cons_self),
      reads_nodes ns hns.2 fun m hm => hdepth m (List.mem_cons_of_mem _ hm)⟩

end

end Node.Wire

end VisualTemplate
