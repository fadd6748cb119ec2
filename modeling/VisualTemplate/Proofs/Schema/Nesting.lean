import VisualTemplate.Proofs.Schema.RoundTrip
/-!
How deep written schemas nest their containers.

Each level of a template's tree nests two containers, an object and the list of its children, and
nothing else in a schema nests deep. So the text of a flat schema never exceeds the limit, and that
of a layout schema exceeds it only in its root.
-/

namespace VisualTemplate

open Json

/-! ### Parts of nodes -/

lemma nesting_ofFields_le {fields : List (String × Option Value)} {n : ℕ}
    (h : ∀ f ∈ fields, ∀ v ∈ f.2, v.nesting ≤ n) : (Value.ofFields fields).nesting ≤ n + 1 := by
  rw [ofFields_eq, Value.nesting, Nat.add_le_add_iff_right]
  refine fieldsNesting_le fun g hg => ?_
  obtain ⟨f, hf, hfg⟩ := List.mem_filterMap.1 hg
  obtain ⟨v, hv, rfl⟩ := Option.map_eq_some_iff.1 hfg
  exact h f hf v hv

namespace Json.Value

@[simp] lemma nesting_string (s : String) : (string s).nesting = 0 := rfl

@[simp] lemma nesting_bool (b : Bool) : (bool b).nesting = 0 := rfl

@[simp] lemma nesting_nat (n : ℕ) : (nat n).nesting = 0 := rfl

@[simp] lemma nesting_single (x : Float32) : (single x).nesting = 0 := rfl

end Json.Value

@[simp] lemma Length.nesting_toValue (l : Length) : l.toValue.nesting = 0 := by cases l <;> rfl

@[simp] lemma Insets.nesting_toValue (i : Insets) : i.toValue.nesting = 1 := rfl

@[simp] lemma Position.nesting_toValue (p : Position) : p.toValue.nesting = 1 := rfl

lemma Paint.nesting_toValue_le (p : Paint) : p.toValue.nesting ≤ 1 := by
  cases p with
  | token name => exact le_refl 1
  | literal text => exact Nat.zero_le 1

@[simp] lemma Binding.nesting_toValue (b : Binding) : b.toValue.nesting = 1 := by
  obtain ⟨field, kind, placeholder⟩ := b
  cases placeholder <;> rfl

namespace Node.Wire

@[simp] lemma nesting_typography (t : Typography) : (typography t).nesting = 1 := by
  obtain ⟨family, size, weight, lineHeight⟩ := t
  cases lineHeight <;> rfl

lemma nesting_unlessZero {x : Float32} : ∀ v ∈ unlessZero x, v.nesting = 0 := by
  intro v hv
  unfold unlessZero at hv
  split at hv
  · exact absurd hv (by simp)
  · rw [← Option.some.inj hv, Value.nesting_single]

lemma nesting_unlessZeroInsets {i : Insets} : ∀ v ∈ unlessZeroInsets i, v.nesting = 1 := by
  intro v hv
  unfold unlessZeroInsets at hv
  split at hv
  · exact absurd hv (by simp)
  · rw [← Option.some.inj hv, Insets.nesting_toValue]

lemma nesting_outline_le (o : Outline) : (outline o).nesting ≤ 1 := by
  cases o with
  | rectangle radius =>
    have hradius := nesting_unlessZero (x := radius)
    exact nesting_ofFields_le (n := 0) (by simpa [word] using hradius)
  | ellipse => exact le_refl 1
  | vector path viewBox => exact nesting_ofFields_le (n := 0) (by simp [word])

lemma nesting_mask_le (m : Mask) : (mask m).nesting ≤ 2 :=
  nesting_ofFields_le (by simp [word])

lemma nesting_stroke_le (s : Stroke) : (stroke s).nesting ≤ 2 := by
  have hcolor := s.color.nesting_toValue_le
  simp only [stroke, Value.nesting, fieldsNesting, Value.nesting_single]
  omega

lemma nesting_leaf_le (l : Leaf) : ∀ f ∈ leaf l, ∀ v ∈ f.2, v.nesting ≤ 2 := by
  cases l with
  | text t =>
    have hcolor := t.color.nesting_toValue_le
    have hmargin := nesting_unlessZeroInsets (i := t.margin)
    simp only [Option.mem_def] at hmargin
    simp [leaf, word]
    exact ⟨by omega, fun v hv => by rw [hmargin v hv]; decide⟩
  | image i => simp [leaf, word]
  | svg s =>
    have hmask := nesting_mask_le
    simp [leaf, word, hmask]
  | shape s =>
    have houtline := (nesting_outline_le s.shape).trans one_le_two
    have hfill (p : Paint) := p.nesting_toValue_le.trans one_le_two
    have hstroke := nesting_stroke_le
    simp [leaf, houtline, hfill, hstroke]

lemma nesting_head_le (h : Head) : ∀ f ∈ head h, ∀ v ∈ f.2, v.nesting ≤ 1 := by
  simp [head, word]

end Node.Wire

lemma Node.nesting_leaf_le (h : Head) (l : Leaf) : (Node.leaf h l).toValue.nesting ≤ 3 := by
  rw [toValue]
  refine nesting_ofFields_le fun f hf => ?_
  rcases List.mem_append.1 hf with hf | hf
  · exact fun v hv => (Wire.nesting_head_le h f hf v hv).trans one_le_two
  · rcases List.mem_cons.1 hf with rfl | hf
    · simp
    · exact Wire.nesting_leaf_le l f hf

/-- The parts of a container nest no deeper than one level or its children. -/
lemma Node.Wire.nesting_layout_le (l : Layout) (children : Value) :
    ∀ f ∈ layout l children, ∀ v ∈ f.2, v.nesting ≤ max 1 children.nesting := by
  have hpaint (p : Paint) : p.toValue.nesting ≤ 1 ∨ p.toValue.nesting ≤ children.nesting :=
    .inl p.nesting_toValue_le
  have hinsets (i : Insets) (v : Value) (hv : unlessZeroInsets i = some v) :
      v.nesting ≤ 1 ∨ v.nesting ≤ children.nesting := .inl (nesting_unlessZeroInsets v hv).le
  have hzero (x : Float32) (v : Value) (hv : unlessZero x = some v) :
      v.nesting ≤ 1 ∨ v.nesting ≤ children.nesting := by
    rw [nesting_unlessZero v hv]
    exact .inl (Nat.zero_le 1)
  cases l with
  | frame f =>
    simp [layout, hpaint]
    exact hinsets f.padding
  | flex f =>
    simp [layout, word, hpaint]
    exact ⟨hzero f.gap, hinsets f.padding⟩
  | box b =>
    simp [layout, word, hpaint]
    exact hinsets b.padding

mutual

/-- How many nodes stand above each other. -/
def Node.depth : Node → ℕ
  | .container _ _ cs => Node.depthIn cs + 1
  | .leaf _ _ => 1

def Node.depthIn : List Node → ℕ
  | [] => 0
  | n :: ns => max n.depth (Node.depthIn ns)

end

mutual

lemma Node.nesting_le_depth (n : Node) : n.toValue.nesting ≤ 2 * n.depth + 1 := by
  match n with
  | .container h l cs =>
    have hchildren : (Value.array (toValues cs)).nesting ≤ 2 * depthIn cs + 2 :=
      Nat.add_le_add_right (nesting_le_depthIn cs) 1
    rw [toValue, depth]
    refine nesting_ofFields_le (n := 2 * depthIn cs + 2) fun f hf v hv => ?_
    rcases List.mem_append.1 hf with hf | hf
    · have hle := Wire.nesting_head_le h f hf v hv
      omega
    · rcases List.mem_cons.1 hf with rfl | hf
      · simp [← Option.some.inj hv]
      · have hle := Wire.nesting_layout_le l (.array (toValues cs)) f hf v hv
        omega
  | .leaf h l => exact nesting_leaf_le h l

lemma Node.nesting_le_depthIn (ns : List Node) :
    itemsNesting (toValues ns) ≤ 2 * depthIn ns + 1 := by
  match ns with
  | [] => exact Nat.zero_le _
  | n :: ns =>
    have hn := nesting_le_depth n
    have hns := nesting_le_depthIn ns
    rw [toValues, itemsNesting, depthIn]
    omega

end

/-! ### Parts of schemas -/

lemma Derivation.nesting_toValue (d : Derivation) : d.toValue.nesting = 1 := by
  cases d with
  | lighten source percent => rfl

lemma Token.nesting_toValue_le (t : Token) : t.toValue.nesting ≤ 2 :=
  nesting_ofFields_le (by simp [Derivation.nesting_toValue])

lemma Tokens.nesting_toValue_le (ts : Tokens) : ts.toValue.nesting ≤ 3 := by
  rw [toValue, Value.nesting, Nat.add_le_add_iff_right]
  exact fieldsNesting_le (List.forall_mem_map.2 fun e _ => e.2.nesting_toValue_le)

/-- A written list nests one deeper than its items. -/
lemma nesting_array_le {α : Type} {f : α → Value} {as : List α} {n : ℕ}
    (h : ∀ a ∈ as, (f a).nesting ≤ n) : (Value.array (as.map f)).nesting ≤ n + 1 := by
  rw [Value.nesting, Nat.add_le_add_iff_right]
  exact itemsNesting_le (List.forall_mem_map.2 h)

lemma Variant.nesting_toValue_le (v : Variant) : v.toValue.nesting ≤ 3 := by
  have hoverrides : (Value.array (v.overrides.map (·.toValue))).nesting ≤ 2 :=
    nesting_array_le fun o _ => le_refl 1
  simp only [toValue, Value.nesting, fieldsNesting] at hoverrides ⊢
  omega

lemma BindingEntry.nesting_toValue (e : BindingEntry) : e.toValue.nesting = 1 := rfl

namespace Schema

variable {s : Schema}

/-- What a schema has besides its nodes nests at most four deep. -/
lemma nesting_toValue_le {n : ℕ} (hn : 4 ≤ n) (hroot : ∀ r ∈ s.draft.root, r.toValue.nesting ≤ n)
    (hnodes : ∀ m ∈ s.draft.nodes, m.toValue.nesting + 1 ≤ n) : s.toValue.nesting ≤ n + 1 := by
  have htokens : s.tokens.toValue.nesting ≤ n := by
    have hle := s.tokens.nesting_toValue_le
    omega
  have hvariants : (Value.array (s.variants.map (·.toValue))).nesting ≤ n :=
    (nesting_array_le fun v _ => v.nesting_toValue_le).trans hn
  have hbindings : (Value.array (s.bindings.map (·.toValue))).nesting ≤ n := by
    have hle : (Value.array (s.bindings.map (·.toValue))).nesting ≤ 2 :=
      nesting_array_le fun e _ => e.nesting_toValue.le
    omega
  have hcanvas : s.canvas.toValue.nesting ≤ n := by
    show 1 ≤ n
    omega
  have hlist : (Value.array (Node.toValues s.draft.nodes)).nesting ≤ n := by
    obtain ⟨k, rfl⟩ : ∃ k, n = k + 1 := Nat.exists_eq_succ_of_ne_zero (by omega)
    rw [Node.toValues_eq_map]
    exact nesting_array_le fun m hm => Nat.le_of_add_le_add_right (hnodes m hm)
  refine nesting_ofFields_le ?_
  simp only [Option.mem_def] at hroot
  simp [root, hcanvas, hlist, htokens, hvariants, hbindings]
  exact hroot

/-- A flat schema never nests its containers too deep. -/
lemma nesting_le_of_flat (h : s.draft.version = .flat) : s.toValue.nesting ≤ 5 := by
  have hstructured : s.draft.Structured := (Draft.fault?_eq_none.1 s.accepted).1.structured
  rw [Draft.Structured, h] at hstructured
  obtain ⟨hroot, hleaves⟩ := hstructured
  refine nesting_toValue_le (le_refl 4) (by simp [hroot]) fun m hm => ?_
  cases m with
  | container h l cs => exact absurd (hleaves _ hm) (by simp [Node.isContainer])
  | leaf h l => exact Nat.add_le_add_right (Node.nesting_leaf_le h l) 1

end Schema

end VisualTemplate
