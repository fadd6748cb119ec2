import VisualTemplate.Proofs.Node.Reread
/-!
Written templates can be read, whatever their numbers are.

A number that is not finite is written as `null`. A template's text is therefore always a document,
though perhaps not that of a template.
-/

namespace Float32

open VisualTemplate VisualTemplate.Decimal

variable {x : Float32}

/-- A number that is not finite has all bits of the exponent set. -/
lemma exponent_of_isFinite_eq_false (h : x.isFinite = false) :
    x.toBits.toNat / Nat.pow 2 23 % Nat.pow 2 8 = 255 := by
  replace h : (Float.Model.UnpackedFloat.unpack .binary32 x.toBits.toBitVec).isFinite = false := h
  unfold Float.Model.UnpackedFloat.unpack at h
  dsimp only at h
  split at h
  · next hexponent =>
    have hnat := congrArg BitVec.toNat hexponent
    simp [Float.Model.UnpackedFloat.unpackExponent, Nat.shiftRight_eq_div_pow] at hnat
    exact hnat
  · split at h
    · split at h <;> exact absurd h (by simp [Float.Model.UnpackedFloat.isFinite])
    · exact absurd h (by simp [Float.Model.UnpackedFloat.isFinite])

lemma documentText_of_isFinite_eq_false (h : x.isFinite = false) : x.documentText = "null" := by
  have hexponent := exponent_of_isFinite_eq_false h
  have hbinary : x.binary = if x.toBits.toNat % Nat.pow 2 23 = 0
      then .infinite (x.toBits.toNat / Nat.pow 2 31 % 2 == 1) else .nan := if_pos hexponent
  rw [documentText, hbinary]
  split <;> rfl

end Float32

namespace VisualTemplate

open Json

/-- A number can be read from the text that it is written as. -/
def AllLegible (xs : List Float32) : Prop := ∀ x ∈ xs, (Value.single x).Legible

lemma allLegible_append {xs ys : List Float32} :
    AllLegible (xs ++ ys) ↔ AllLegible xs ∧ AllLegible ys := List.forall_mem_append

lemma allLegible_cons {x : Float32} {xs : List Float32} :
    AllLegible (x :: xs) ↔ (Value.single x).Legible ∧ AllLegible xs := List.forall_mem_cons

/-- Finite numbers are read back, and the others are written as `null`. -/
lemma allLegible_of_reread {xs : List Float32}
    (h : ∀ x ∈ xs, x.isFinite = true → SingleRereads x) : AllLegible xs := by
  intro x hx
  cases hfinite : x.isFinite with
  | true => exact (h x hx hfinite).reads.rereads.legible
  | false => exact .lost (Float32.documentText_of_isFinite_eq_false hfinite)

lemma legible_ofFields {fields : List (String × Option Value)}
    (h : ∀ f ∈ fields, ∀ v ∈ f.2, v.Legible) : (Value.ofFields fields).Legible := by
  rw [ofFields_eq]
  refine .object fun g hg => ?_
  obtain ⟨f, hf, hfg⟩ := List.mem_filterMap.1 hg
  obtain ⟨v, hv, rfl⟩ := Option.map_eq_some_iff.1 hfg
  exact h f hf v hv

/-! ### Parts of nodes -/

lemma Length.legible {l : Length} (h : AllLegible l.singles) : l.toValue.Legible := by
  cases l with
  | px x => exact h x List.mem_cons_self
  | percent x => exact .string _
  | auto => exact .string _

lemma Insets.legible {i : Insets} (h : AllLegible i.singles) : i.toValue.Legible := by
  simp only [Insets.singles, allLegible_cons] at h
  obtain ⟨ht, hr, hb, hl, -⟩ := h
  exact .object (by simp [ht, hr, hb, hl])

lemma Position.legible {p : Position} (h : AllLegible p.singles) : p.toValue.Legible := by
  simp only [Position.singles, allLegible_cons] at h
  obtain ⟨hx, hy, -⟩ := h
  exact .object (by simp [hx, hy])

@[simp] lemma Paint.legible (p : Paint) : p.toValue.Legible := (Paint.reads p).rereads.legible

@[simp] lemma Binding.legible (b : Binding) : b.toValue.Legible := (Binding.reads b).rereads.legible

@[simp] lemma legible_string (s : String) : (Value.string s).Legible := .string s

lemma legible_nat {n : ℕ} (h : n < Nat.pow 2 64) : (Value.nat n).Legible :=
  .number (Number.rereads_whole h)

@[simp] lemma legible_bool (b : Bool) : (Value.bool b).Legible := .bool b

namespace Node.Wire

lemma legible_typography {t : Typography} (h : AllLegible t.singles) : (typography t).Legible := by
  rw [Typography.singles, allLegible_cons] at h
  obtain ⟨hsize, hline⟩ := h
  have hweight : (Value.nat t.weight.toNat).Legible :=
    legible_nat (t.weight.toNat_lt.trans (by decide))
  have hlines (x : Float32) (hx : t.lineHeight = some x) := hline x (by simpa using hx)
  exact legible_ofFields (by simpa [word, hsize, hweight] using hlines)

lemma legible_mask {m : Mask} (h : AllLegible m.singles) : (mask m).Legible := by
  have hoffset (p : Position) (hp : m.offset = some p) : p.toValue.Legible := by
    rw [Mask.singles, hp] at h
    exact Position.legible h
  exact legible_ofFields (by simpa [word] using hoffset)

lemma legible_unlessZero {x : Float32} (h : (Value.single x).Legible) :
    ∀ v ∈ unlessZero x, v.Legible := by
  intro v hv
  unfold unlessZero at hv
  split at hv
  · exact absurd hv (by simp)
  · rwa [← Option.some.inj hv]

lemma legible_unlessZeroInsets {i : Insets} (h : AllLegible i.singles) :
    ∀ v ∈ unlessZeroInsets i, v.Legible := by
  intro v hv
  unfold unlessZeroInsets at hv
  split at hv
  · exact absurd hv (by simp)
  · rw [← Option.some.inj hv]
    exact Insets.legible h

lemma legible_outline {o : Outline} (h : AllLegible o.singles) : (outline o).Legible := by
  cases o with
  | rectangle radius =>
    have hradius := legible_unlessZero (h radius List.mem_cons_self)
    exact legible_ofFields (by simpa [word] using hradius)
  | ellipse => exact legible_ofFields (by simp [word])
  | vector path viewBox => exact legible_ofFields (by simp [word])

lemma legible_stroke {s : Stroke} (h : (Value.single s.width).Legible) : (stroke s).Legible :=
  .object (by simp [h])

lemma legible_leaf {l : Leaf} (h : AllLegible l.singles) : ∀ f ∈ leaf l, ∀ v ∈ f.2, v.Legible := by
  cases l with
  | text t =>
    simp only [Leaf.singles, allLegible_append] at h
    obtain ⟨⟨⟨hw, hh⟩, hf⟩, hm⟩ := h
    have hmargin := legible_unlessZeroInsets hm
    simpa [leaf, word, Length.legible hw, Length.legible hh, legible_typography hf] using hmargin
  | image i =>
    simp only [Leaf.singles, allLegible_append] at h
    simp [leaf, word, Length.legible h.1, Length.legible h.2]
  | svg s =>
    simp only [Leaf.singles, allLegible_cons] at h
    obtain ⟨hw, hh, hm⟩ := h
    have hmask (m : Mask) (hmem : s.mask = some m) : (mask m).Legible := by
      rw [hmem] at hm
      exact legible_mask hm
    simpa [leaf, word, hw, hh] using hmask
  | shape s =>
    simp only [Leaf.singles, allLegible_cons, allLegible_append] at h
    obtain ⟨hw, hh, ho, hs⟩ := h
    have hstroke (st : Stroke) (hmem : s.stroke = some st) : (stroke st).Legible :=
      legible_stroke (hs st.width (by simp [hmem]))
    simpa [leaf, hw, hh, legible_outline ho] using hstroke

lemma legible_layout {l : Layout} {children : Value} (h : AllLegible l.singles)
    (hchildren : children.Legible) : ∀ f ∈ layout l children, ∀ v ∈ f.2, v.Legible := by
  cases l with
  | frame f =>
    have hsize (w : UInt32) : (Value.nat w.toNat).Legible :=
      legible_nat (w.toNat_lt.trans (by decide))
    have hpadding := legible_unlessZeroInsets h
    simpa [layout, hsize, hchildren] using hpadding
  | flex f =>
    simp only [Layout.singles, allLegible_append, allLegible_cons] at h
    obtain ⟨⟨hw, hh⟩, hgap, hp⟩ := h
    have hboth := And.intro (legible_unlessZero hgap) (legible_unlessZeroInsets hp)
    simpa [layout, word, Length.legible hw, Length.legible hh, hchildren] using hboth
  | box b =>
    simp only [Layout.singles, allLegible_append] at h
    obtain ⟨⟨hw, hh⟩, hp⟩ := h
    have hpadding := legible_unlessZeroInsets hp
    simpa [layout, word, Length.legible hw, Length.legible hh, hchildren] using hpadding

lemma legible_head {h : Head} (hh : AllLegible h.singles) : ∀ f ∈ head h, ∀ v ∈ f.2, v.Legible := by
  have hposition (p : Position) (hp : h.position = some p) : p.toValue.Legible := by
    rw [Head.singles, hp] at hh
    exact Position.legible hh
  simpa [head, word] using hposition

/-- A head and the parts of one kind together. -/
lemma legible_headed {h : Head} {kind : String} {fields : List (String × Option Value)}
    (hh : AllLegible h.singles) (hfields : ∀ f ∈ fields, ∀ v ∈ f.2, v.Legible) :
    (Value.ofFields (head h ++ ("type", some (.string kind)) :: fields)).Legible := by
  refine legible_ofFields (List.forall_mem_append.2 ⟨legible_head hh, ?_⟩)
  exact List.forall_mem_cons.2 ⟨by simp, hfields⟩

end Node.Wire

namespace Node

mutual

lemma legible (n : Node) (h : AllLegible n.singles) : n.toValue.Legible := by
  match n with
  | .container head l cs =>
    simp only [singles, allLegible_append] at h
    rw [toValue]
    exact Wire.legible_headed h.1.1 (Wire.legible_layout h.1.2 (.array (legibleIn cs h.2)))
  | .leaf head l =>
    simp only [singles, allLegible_append] at h
    rw [toValue]
    exact Wire.legible_headed h.1 (Wire.legible_leaf h.2)

lemma legibleIn (ns : List Node) (h : AllLegible (singlesIn ns)) :
    ∀ v ∈ toValues ns, v.Legible := by
  match ns with
  | [] => exact fun v hv => absurd hv List.not_mem_nil
  | n :: ns =>
    simp only [singlesIn, allLegible_append] at h
    exact List.forall_mem_cons.2 ⟨legible n h.1, legibleIn ns h.2⟩

end

end Node

lemma Token.legible {t : Token} (h : AllLegible t.singles) : t.toValue.Legible := by
  have hderivation (d : Derivation) (hd : t.derivation = some d) : d.toValue.Legible := by
    rw [Token.singles, hd] at h
    cases d with
    | lighten source percent =>
      have hpercent := h percent List.mem_cons_self
      exact .object (by simp [hpercent])
  exact legible_ofFields (by simpa using hderivation)

lemma Tokens.legible {ts : Tokens} (h : AllLegible (ts.entries.flatMap fun e => e.2.singles)) :
    ts.toValue.Legible :=
  .object (List.forall_mem_map.2 fun e he =>
    Token.legible fun x hx => h x (List.mem_flatMap.2 ⟨e, he, hx⟩))

end VisualTemplate
