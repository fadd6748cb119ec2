import VisualTemplate.Fill.Submission
import VisualTemplate.Proofs.Json.Readings
import VisualTemplate.Proofs.Path.Spelling
import VisualTemplate.Proofs.Table
/-!
The look-up of fields in nested and in flat data.

A path finds a value under its own text as a name, or by its steps from the top. Where all names in
the data are identifiers the first happens only for paths of one step, and then both find the same.
So the data may as well be given flat, each leaf under the text of its path: different paths have
different texts.
-/

namespace VisualTemplate

namespace Submission

open Json

/-! ### Values that fill fields -/

/-- A value fills a field with a text: a text that is not blank, a number or a truth value. -/
inductive Gives : Value → String → Prop
  | string (s : String) (c : Char) : c ∈ s.toList → Text.isBlank c = false → Gives (.string s) s
  | number (n : Number) : Gives (.number n) n.text
  | true : Gives (.bool true) "true"
  | false : Gives (.bool false) "false"

/-- Steps lead from a value to a value in it. -/
inductive Reaches : Value → List Segment → Value → Prop
  | here (v : Value) : Reaches v [] v
  | field {fields : List (String × Value)} {k : String} {v w : Value} {rest : List Segment} :
    fields.lookup k = some v → Reaches v rest w → Reaches (.object fields) (.key k :: rest) w
  | item {items : List Value} {i : ℕ} {v w : Value} {rest : List Segment} :
    items[i]? = some v → Reaches v rest w → Reaches (.array items) (.index i :: rest) w

/-- The data as one value. -/
def root (t : Table Value) : Value := .object t.entries

/-- A text under the path's own text as a name. -/
def HoldsNamed (t : Table Value) (p : FieldPath) (text : String) : Prop :=
  ∃ v, t.get? p.text = some v ∧ Gives v text

/-- A text at the end of the path's steps. -/
def HoldsNested (t : Table Value) (p : FieldPath) (text : String) : Prop :=
  ∃ v, Reaches (root t) p.segments v ∧ Gives v text

/-- A text that the data has for a path, the name counting before the steps. -/
def Holds (t : Table Value) (p : FieldPath) (text : String) : Prop :=
  HoldsNamed t p text ∨ (∀ other, ¬ HoldsNamed t p other) ∧ HoldsNested t p text

lemma scalar?_eq_some {v : Value} {text : String} : scalar? v = some text ↔ Gives v text := by
  constructor
  · intro h
    unfold scalar? at h
    split at h
    · next s =>
      split at h
      · cases h
      · next hblank =>
        rw [Bool.not_eq_true, String.isBlank, List.all_eq_false] at hblank
        obtain ⟨c, hc, hblank⟩ := hblank
        rw [← Option.some.inj h]
        exact .string s c hc (Bool.not_eq_true _ ▸ hblank)
    · cases h
      exact .number _
    · next b =>
      cases h
      cases b
      · exact .false
      · exact .true
    · cases h
  · rintro (⟨_, c, hc, hblank⟩ | n | _ | _)
    · have htext : text.isBlank = false := by
        rw [String.isBlank, List.all_eq_false]
        exact ⟨c, hc, by simp [hblank]⟩
      rw [scalar?, htext]
      rfl
    all_goals rfl

lemma walk_eq_some {v w : Value} {ss : List Segment} : walk v ss = some w ↔ Reaches v ss w := by
  induction ss generalizing v with
  | nil =>
    rw [walk, Option.some.injEq]
    constructor
    · rintro rfl
      exact .here v
    · rintro ⟨⟩
      rfl
  | cons s ss ih =>
    constructor
    · intro h
      cases s with
      | key k =>
        obtain ⟨x, hx, hw⟩ := Option.bind_eq_some_iff.1 h
        cases v with
        | object fields => exact .field hx (ih.1 hw)
        | _ => cases hx
      | index i =>
        obtain ⟨x, hx, hw⟩ := Option.bind_eq_some_iff.1 h
        cases v with
        | array items => exact .item hx (ih.1 hw)
        | _ => cases hx
      | slot => cases h
    · intro h
      cases h with
      | field hx hw => rw [walk, Value.field?, hx, Option.bind_some, ih.2 hw]
      | item hx hw => rw [walk, Value.item?, hx, Option.bind_some, ih.2 hw]

lemma lookupIn_eq (t : Table Value) (p : FieldPath) : lookupIn t p =
    ((t.get? p.text).bind scalar?).or ((walk (root t) p.segments).bind scalar?) := by
  rw [lookupIn]
  rcases p.segments with _ | ⟨_ | _ | _, rest⟩ <;> rfl

lemma lookupIn_eq_some {t : Table Value} {p : FieldPath} {text : String} :
    lookupIn t p = some text ↔ Holds t p text := by
  have hnamed (text : String) :
      (t.get? p.text).bind scalar? = some text ↔ HoldsNamed t p text := by
    simp only [Option.bind_eq_some_iff, scalar?_eq_some]
    rfl
  have hnested : (walk (root t) p.segments).bind scalar? = some text ↔ HoldsNested t p text := by
    simp only [Option.bind_eq_some_iff, scalar?_eq_some, walk_eq_some]
    rfl
  rw [lookupIn_eq, Option.or_eq_some_iff, Option.eq_none_iff_forall_ne_some, Holds, hnested]
  simp only [ne_eq, hnamed]

/-! ### Flat data -/

def IsLeaf : Value → Prop
  | .object _ => False
  | .array _ => False
  | _ => True

mutual

/-- Every leaf of a value with the steps that lead to it. -/
def leaves : Value → List (List Segment × Value)
  | .object fields => fieldLeaves fields
  | .array items => itemLeaves 0 items
  | v => [([], v)]

def itemLeaves (i : ℕ) : List Value → List (List Segment × Value)
  | [] => []
  | v :: vs => (leaves v).map (fun (ss, w) => (.index i :: ss, w)) ++ itemLeaves (i + 1) vs

def fieldLeaves : List (String × Value) → List (List Segment × Value)
  | [] => []
  | (k, v) :: fs => (leaves v).map (fun (ss, w) => (.key k :: ss, w)) ++ fieldLeaves fs

end

/-- The data with every leaf under the text of its path. -/
def flat (t : Table Value) : Table Value :=
  .ofList ((leaves (root t)).map fun (ss, v) => (FieldPath.text ⟨ss⟩, v))

/-! ### Names in data -/

mutual

/-- The names of every object in a value have a property. -/
def EachObject (P : List String → Prop) : Value → Prop
  | .object fields => P (fields.map Prod.fst) ∧ EachObjectOfFields P fields
  | .array items => EachObjectOfItems P items
  | _ => True

def EachObjectOfItems (P : List String → Prop) : List Value → Prop
  | [] => True
  | v :: vs => EachObject P v ∧ EachObjectOfItems P vs

def EachObjectOfFields (P : List String → Prop) : List (String × Value) → Prop
  | [] => True
  | (_, v) :: fs => EachObject P v ∧ EachObjectOfFields P fs

end

/-- All names are identifiers. -/
def Named : Value → Prop := EachObject fun names => ∀ k ∈ names, FieldPath.IsIdentifier k.toList

/-- No object has a name twice. -/
def Distinct : Value → Prop := EachObject List.Nodup

variable {P : List String → Prop}

lemma eachObjectOfItems_iff {items : List Value} :
    EachObjectOfItems P items ↔ ∀ v ∈ items, EachObject P v := by
  induction items with
  | nil => simp [EachObjectOfItems]
  | cons v items ih => rw [EachObjectOfItems, ih, List.forall_mem_cons]

lemma eachObjectOfFields_iff {fields : List (String × Value)} :
    EachObjectOfFields P fields ↔ ∀ f ∈ fields, EachObject P f.2 := by
  induction fields with
  | nil => simp [EachObjectOfFields]
  | cons f fields ih => rw [EachObjectOfFields, ih, List.forall_mem_cons]

mutual

/-- In what is read no object has a name twice. -/
lemma distinct_value (s : Source) : Distinct s.value := by
  match s with
  | .object _ fields =>
    refine ⟨Table.nodup_names _, eachObjectOfFields_iff.2 fun f hf => ?_⟩
    exact distinct_fieldValues fields f (Table.mem_of_mem_ofList hf)
  | .array _ items => exact eachObjectOfItems_iff.2 (distinct_itemValues items)
  | .null | .bool _ | .number _ | .string _ | .broken | .huge | .halved => exact trivial

lemma distinct_itemValues (items : List Source) : ∀ v ∈ itemValues items, Distinct v := by
  match items with
  | [] => simp [itemValues]
  | s :: items =>
    rw [itemValues, List.forall_mem_cons]
    exact ⟨distinct_value s, distinct_itemValues items⟩

lemma distinct_fieldValues (fields : List (Option String × Source)) :
    ∀ f ∈ fieldValues fields, Distinct f.2 := by
  match fields with
  | [] => simp [fieldValues]
  | (k, s) :: fields =>
    rw [fieldValues, List.forall_mem_cons]
    exact ⟨distinct_value s, distinct_fieldValues fields⟩

end

section

variable {mode : Mode} {source : Source}

lemma eq_fieldValues_of_entries {fs : List (Option String × Source)} {es : List (String × Value)}
    (h : Decoder.entries .value mode fs = .ok es) : es = fieldValues fs := by
  induction fs generalizing es with
  | nil => exact (Except.ok.inj h).symm
  | cons f fs ih =>
    obtain ⟨_ | k, s⟩ := f
    · cases h
    · obtain ⟨v, hv, h⟩ := Except.bind_eq_ok_iff.1 h
      obtain ⟨es', hes, h⟩ := Except.bind_eq_ok_iff.1 h
      obtain ⟨-, -, hv⟩ := Except.bind_eq_ok_iff.1 hv
      rw [← Except.ok.inj h, ← Except.ok.inj hv, ih hes]
      rfl

/-- A table of values is the value of its source. -/
lemma root_of_table {t : Table Value} (h : Decoder.table .value mode source = .ok t) :
    root t = source.value := by
  unfold Decoder.table at h
  split at h
  · obtain ⟨-, -, h⟩ := Except.bind_eq_ok_iff.1 h
    obtain ⟨es, hes, h⟩ := Except.bind_eq_ok_iff.1 h
    rw [← Except.ok.inj h, eq_fieldValues_of_entries hes]
    rfl
  · cases h

/-- In data that are read no object has a name twice. -/
lemma distinct_of_decoder {s : Submission} (h : Submission.decoder mode source = .ok s) :
    Distinct (root s.values) ∧ Distinct (root s.dynamic) := by
  unfold Submission.decoder Decoder.map at h
  generalize hread : Decoder.flattened _ _ mode source = read at h
  cases read with
  | error e => cases h
  | ok p =>
    obtain rfl := Except.ok.inj h
    unfold Decoder.flattened at hread
    split at hread
    · obtain ⟨-, -, hread⟩ := Except.bind_eq_ok_iff.1 hread
      obtain ⟨dynamic, hdynamic, hread⟩ := Except.bind_eq_ok_iff.1 hread
      obtain ⟨values, hvalues, hread⟩ := Except.bind_eq_ok_iff.1 hread
      obtain rfl := Except.ok.inj hread
      refine ⟨?_, ?_⟩
      · rw [← Except.ok.inj hvalues]
        exact distinct_value (.object false _)
      · rcases Record.default_or_read_of_part (Record.fromObject_of_ofFields hdynamic).2 with
          hdefault | ⟨inner, hinner⟩
        · rw [← Option.some.inj hdefault]
          exact distinct_value (.object false [])
        · rw [root_of_table hinner]
          exact distinct_value inner
    · cases hread

end

/-! ### Leaves and the steps to them -/

mutual

lemma mem_leaves_iff {v : Value} (h : Distinct v) {ss : List Segment} {w : Value} :
    (ss, w) ∈ leaves v ↔ Reaches v ss w ∧ IsLeaf w := by
  match v with
  | .object fields =>
    rw [leaves, mem_fieldLeaves_iff (eachObjectOfFields_iff.1 h.2) h.1]
    constructor
    · rintro ⟨k, v, rest, hk, rfl, hreach, hleaf⟩
      exact ⟨.field hk hreach, hleaf⟩
    · rintro ⟨hreach, hleaf⟩
      cases hreach with
      | here => exact hleaf.elim
      | field hk hreach => exact ⟨_, _, _, hk, rfl, hreach, hleaf⟩
  | .array items =>
    rw [leaves, mem_itemLeaves_iff (eachObjectOfItems_iff.1 h)]
    constructor
    · rintro ⟨i, v, rest, hi, rfl, hreach, hleaf⟩
      rw [Nat.zero_add]
      exact ⟨.item hi hreach, hleaf⟩
    · rintro ⟨hreach, hleaf⟩
      cases hreach with
      | here => exact hleaf.elim
      | item hi hreach => exact ⟨_, _, _, hi, by rw [Nat.zero_add], hreach, hleaf⟩
  | .null | .bool _ | .number _ | .string _ =>
    refine List.mem_singleton.trans ⟨?_, ?_⟩
    · rintro ⟨rfl, rfl⟩
      exact ⟨.here _, trivial⟩
    · rintro ⟨hreach, -⟩
      cases hreach
      rfl

lemma mem_itemLeaves_iff {items : List Value} (h : ∀ v ∈ items, Distinct v) {i : ℕ}
    {ss : List Segment} {w : Value} : (ss, w) ∈ itemLeaves i items ↔
      ∃ j v rest, items[j]? = some v ∧ ss = .index (i + j) :: rest ∧ Reaches v rest w ∧
        IsLeaf w := by
  match items with
  | [] => simp [itemLeaves]
  | v :: items =>
    rw [List.forall_mem_cons] at h
    rw [itemLeaves, List.mem_append, List.mem_map, mem_itemLeaves_iff h.2]
    constructor
    · rintro (⟨⟨rest, w'⟩, hmem, heq⟩ | ⟨j, x, rest, hj, rfl, hreach⟩)
      · cases heq
        exact ⟨0, v, rest, rfl, rfl, (mem_leaves_iff h.1).1 hmem⟩
      · exact ⟨j + 1, x, rest, hj, by rw [Nat.add_assoc, Nat.add_comm 1], hreach⟩
    · rintro ⟨j, x, rest, hj, rfl, hreach⟩
      cases j with
      | zero =>
        obtain rfl := Option.some.inj hj
        exact .inl ⟨(rest, w), (mem_leaves_iff h.1).2 hreach, rfl⟩
      | succ j => exact .inr ⟨j, x, rest, hj, by rw [Nat.add_assoc, Nat.add_comm 1], hreach⟩

lemma mem_fieldLeaves_iff {fields : List (String × Value)} (h : ∀ f ∈ fields, Distinct f.2)
    (hkeys : (fields.map Prod.fst).Nodup) {ss : List Segment} {w : Value} :
    (ss, w) ∈ fieldLeaves fields ↔ ∃ k v rest, fields.lookup k = some v ∧ ss = .key k :: rest ∧
      Reaches v rest w ∧ IsLeaf w := by
  match fields with
  | [] => simp [fieldLeaves]
  | (key, v) :: fields =>
    rw [List.forall_mem_cons] at h
    rw [List.map_cons, List.nodup_cons] at hkeys
    rw [fieldLeaves, List.mem_append, List.mem_map, mem_fieldLeaves_iff h.2 hkeys.2]
    constructor
    · rintro (⟨⟨rest, w'⟩, hmem, heq⟩ | ⟨k, x, rest, hk, rfl, hreach⟩)
      · cases heq
        exact ⟨key, v, rest, List.lookup_cons_self, rfl, (mem_leaves_iff h.1).1 hmem⟩
      · have hne : (k == key) = false := by
          rw [beq_eq_false_iff_ne]
          rintro rfl
          exact hkeys.1 (List.mem_map.2 ⟨_, Table.mem_of_lookup hk, rfl⟩)
        exact ⟨k, x, rest, by rw [List.lookup_cons, hne]; exact hk, rfl, hreach⟩
    · rintro ⟨k, x, rest, hk, rfl, hreach⟩
      rw [List.lookup_cons] at hk
      split at hk
      · next heq =>
        obtain rfl := beq_iff_eq.1 heq
        obtain rfl := Option.some.inj hk
        exact .inl ⟨(rest, w), (mem_leaves_iff h.1).2 hreach, rfl⟩
      · exact .inr ⟨k, x, rest, hk, rfl, hreach⟩

end

/-- All keys on the way to a value are identifiers. -/
lemma Reaches.keys {v w : Value} {ss : List Segment} (h : Reaches v ss w) (hv : Named v) :
    ∀ name, .key name ∈ ss → FieldPath.IsIdentifier name.toList := by
  induction h with
  | here => simp
  | field hk _ ih =>
    have hmem := Table.mem_of_lookup hk
    intro name hname
    rcases List.mem_cons.1 hname with hname | hname
    · obtain rfl := Segment.key.inj hname
      exact hv.1 _ (List.mem_map_of_mem hmem)
    · exact ih (eachObjectOfFields_iff.1 hv.2 _ hmem) name hname
  | item hi _ ih =>
    have hnamed := eachObjectOfItems_iff.1 hv _ (List.mem_of_getElem? hi)
    intro name hname
    exact ih hnamed name ((List.mem_cons.1 hname).resolve_left (by simp))

/-- Steps lead to one value. -/
lemma Reaches.unique {v w w' : Value} {ss : List Segment} (h : Reaches v ss w)
    (h' : Reaches v ss w') : w = w' :=
  Option.some.inj ((walk_eq_some.2 h).symm.trans (walk_eq_some.2 h'))

/-- Behind a leaf there are no steps. -/
lemma Reaches.of_isLeaf {v w : Value} {ss : List Segment} (h : Reaches v ss w) (hv : IsLeaf v) :
    ss = [] ∧ w = v := by
  cases h with
  | here => exact ⟨rfl, rfl⟩
  | field => exact hv.elim
  | item => exact hv.elim

lemma Gives.isLeaf {v : Value} {text : String} (h : Gives v text) : IsLeaf v := by
  cases h <;> trivial

section

variable {t : Table Value} (ht : Named (root t)) (hdistinct : Distinct (root t))
include ht

/-- The steps to a leaf of the data are a path. -/
lemma Reaches.proper {v : Value} {ss : List Segment} (h : Reaches (root t) ss v)
    (hleaf : IsLeaf v) : FieldPath.Proper ⟨ss⟩ := by
  refine ⟨?_, h.keys ht⟩
  cases h with
  | here => exact hleaf.elim
  | field => exact ⟨_, _, rfl⟩

lemma isIdentifier_of_get? {name : String} {v : Value} (h : t.get? name = some v) :
    FieldPath.IsIdentifier name.toList :=
  ht.1 name (List.mem_map_of_mem (Table.mem_entries_iff.2 h))

/-- In nested data a path holds what its steps lead to. -/
lemma holds_iff_nested {p : FieldPath} (hp : p.Proper) {text : String} :
    Holds t p text ↔ HoldsNested t p text := by
  -- a name of the data is an identifier, so a path that is one has no further step
  have hstep {v : Value} (hget : t.get? p.text = some v) : Reaches (root t) p.segments v := by
    rw [hp.eq_of_isIdentifier (isIdentifier_of_get? ht hget)]
    exact .field hget (.here v)
  constructor
  · rintro (⟨v, hget, hgives⟩ | ⟨-, hnested⟩)
    · exact ⟨v, hstep hget, hgives⟩
    · exact hnested
  · rintro ⟨v, hreach, hgives⟩
    by_cases hnamed : ∃ other, HoldsNamed t p other
    · obtain ⟨-, w, hget, -⟩ := hnamed
      obtain rfl := (hstep hget).unique hreach
      exact .inl ⟨w, hget, hgives⟩
    · exact .inr ⟨not_exists.1 hnamed, v, hreach, hgives⟩

include hdistinct

/-- The flat data have the leaves, each under the text of its path, and nothing else. -/
lemma get?_flat {name : String} {v : Value} : (flat t).get? name = some v ↔
    ∃ ss, FieldPath.text ⟨ss⟩ = name ∧ Reaches (root t) ss v ∧ IsLeaf v := by
  have hmem (v : Value) : (name, v) ∈ (leaves (root t)).map
      (fun (ss, v) => (FieldPath.text ⟨ss⟩, v)) ↔
        ∃ ss, FieldPath.text ⟨ss⟩ = name ∧ Reaches (root t) ss v ∧ IsLeaf v := by
    simp [Prod.exists, mem_leaves_iff hdistinct, and_comm, and_assoc]
  rw [flat, Table.get?_ofList, hmem]
  intro v w hv hw
  obtain ⟨ss, hss, hreach, hleaf⟩ := (hmem v).1 hv
  obtain ⟨ss', hss', hreach', hleaf'⟩ := (hmem w).1 hw
  have hpath := (hreach.proper ht hleaf).text_inj (hreach'.proper ht hleaf') (hss.trans hss'.symm)
  obtain rfl := FieldPath.mk.inj hpath
  exact hreach.unique hreach'

lemma holdsNamed_flat {p : FieldPath} (hp : p.Proper) {text : String} :
    HoldsNamed (flat t) p text ↔ HoldsNested t p text := by
  constructor
  · rintro ⟨v, hget, hgives⟩
    obtain ⟨ss, htext, hreach, hleaf⟩ := (get?_flat ht hdistinct).1 hget
    obtain rfl := (hreach.proper ht hleaf).text_inj hp htext
    exact ⟨v, hreach, hgives⟩
  · rintro ⟨v, hreach, hgives⟩
    exact ⟨v, (get?_flat ht hdistinct).2 ⟨p.segments, rfl, hreach, hgives.isLeaf⟩, hgives⟩

/-- Steps into flat data end at the first, so they find nothing that the data do not have. -/
lemma HoldsNested.of_flat {p : FieldPath} (hp : p.Proper) {text : String}
    (h : HoldsNested (flat t) p text) : HoldsNested t p text := by
  obtain ⟨w, hreach, hgives⟩ := h
  obtain ⟨k, rest, hhead⟩ := hp.head
  rw [hhead] at hreach
  cases hreach with
  | field hk hrest =>
    obtain ⟨ss, htext, hreach, hleaf⟩ := (get?_flat ht hdistinct).1 hk
    obtain ⟨rfl, rfl⟩ := hrest.of_isLeaf hleaf
    have hkey := hp.keys k (hhead ▸ List.mem_cons_self)
    have hstep := (hreach.proper ht hleaf).eq_of_isIdentifier (htext ▸ hkey)
    rw [htext] at hstep
    exact ⟨_, hhead ▸ FieldPath.mk.inj hstep ▸ hreach, hgives⟩

/-- Flat data hold the same at a path. -/
lemma lookupIn_flat {p : FieldPath} (hp : p.Proper) : lookupIn (flat t) p = lookupIn t p := by
  refine Option.ext fun text => ?_
  rw [lookupIn_eq_some, lookupIn_eq_some, holds_iff_nested ht hp]
  constructor
  · rintro (hnamed | ⟨-, hnested⟩)
    · exact (holdsNamed_flat ht hdistinct hp).1 hnamed
    · exact hnested.of_flat ht hdistinct hp
  · exact fun h => .inl ((holdsNamed_flat ht hdistinct hp).2 h)

end

/-- The flat data have the leaves, each under the text of its path, and nothing else, and a path
finds the same in them, whether they are the values or the dynamic fields. -/
structure Flattens (t : Table Value) (p : FieldPath) : Prop where
  leaves (name : String) (v : Value) : (flat t).get? name = some v ↔
    ∃ ss, FieldPath.text ⟨ss⟩ = name ∧ Reaches (root t) ss v ∧ IsLeaf v
  values (u : Table Value) : lookup ⟨flat t, u⟩ p = lookup ⟨t, u⟩ p
  dynamic (u : Table Value) : lookup ⟨u, flat t⟩ p = lookup ⟨u, t⟩ p

lemma flattens {t : Table Value} {p : FieldPath} (ht : Named (root t))
    (hdistinct : Distinct (root t)) (hp : p.Proper) : Flattens t p where
  leaves _ _ := get?_flat ht hdistinct
  values u := by simp only [lookup, lookupIn_flat ht hdistinct hp]
  dynamic u := by simp only [lookup, lookupIn_flat ht hdistinct hp]

/-- **A look-up finds what the values hold at a path, else what the dynamic fields hold there, and
flat data hold the same as nested ones.** No name has to be checked to be alone in its object where
the data are read. -/
theorem lookup_spec {raw : String} {p : FieldPath} (hraw : FieldPath.ofText? raw = some p) :
    (∀ s : Submission,
      (∀ text, s.lookup p = some (text, .literal) ↔ Holds s.values p text) ∧
      (∀ text, s.lookup p = some (text, .dynamic) ↔
        (∀ other, ¬ Holds s.values p other) ∧ Holds s.dynamic p text) ∧
      (s.lookup p = none ↔
        (∀ other, ¬ Holds s.values p other) ∧ ∀ other, ¬ Holds s.dynamic p other)) ∧
    (∀ t : Table Value, Named (root t) → Distinct (root t) → Flattens t p) ∧
    ∀ (mode : Mode) (source : Source) (s : Submission), Submission.decoder mode source = .ok s →
      (Named (root s.values) → Flattens s.values p) ∧
        (Named (root s.dynamic) → Flattens s.dynamic p) := by
  obtain ⟨w, hw, -, hsegments, -⟩ := FieldPath.ofText?_eq_some.1 hraw
  have hp := hw.proper hsegments
  refine ⟨fun s => ?_, fun t ht hdistinct => flattens ht hdistinct hp,
    fun mode source s hread => ?_⟩
  · simp only [← lookupIn_eq_some]
    rw [lookup]
    cases lookupIn s.values p <;> cases lookupIn s.dynamic p <;> simp
  · obtain ⟨hvalues, hdynamic⟩ := distinct_of_decoder hread
    exact ⟨fun h => flattens h hvalues hp, fun h => flattens h hdynamic hp⟩

/-- A list of talks with titles, the first of them blank. -/
def talks : Table Value :=
  .ofList [("talks", .array [.object [("title", .string " ")], .object [("title", .string "Two")]])]

def talksSource : Source :=
  .object false [("talks", .array false [.object false [("title", .string " ")],
    .object false [("title", .string "Two")]])]

theorem lookup_spec_talks :
    Submission.decoder .streamed talksSource = .ok ⟨talks, .empty⟩ ∧
    lookup ⟨flat talks, .empty⟩ ⟨[.key "talks", .index 1, .key "title"]⟩ = some ("Two", .literal) ∧
    (flat talks).get? "talks[0].title" = some (.string " ") := by
  have hread : Submission.decoder .streamed talksSource = .ok ⟨talks, .empty⟩ := rfl
  have hraw : FieldPath.ofText? "talks[1].title" =
      some ⟨[.key "talks", .index 1, .key "title"]⟩ := by decide +kernel
  have hroot : root talks = .object [("talks",
      .array [.object [("title", .string " ")], .object [("title", .string "Two")]])] := rfl
  have hnamed : Named (root talks) := by
    have htalks : FieldPath.IsIdentifier "talks".toList := FieldPath.isKey_iff.1 (by decide +kernel)
    have htitle : FieldPath.IsIdentifier "title".toList := FieldPath.isKey_iff.1 (by decide +kernel)
    simpa [hroot, Named, EachObject, EachObjectOfFields, EachObjectOfItems] using ⟨htalks, htitle⟩
  have hflat : Flattens talks _ := ((lookup_spec hraw).2.2 _ _ _ hread).1 hnamed
  refine ⟨hread, (hflat.values .empty).trans (by decide +kernel), (hflat.leaves _ _).2 ?_⟩
  exact ⟨[.key "talks", .index 0, .key "title"], by decide +kernel,
    .field rfl (.item rfl (.field rfl (.here _))), trivial⟩

end Submission

end VisualTemplate
