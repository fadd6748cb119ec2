import VisualTemplate.Fill.Resolve
import VisualTemplate.Proofs.Decimal.Layout
import VisualTemplate.Proofs.Node.Rendered
/-!
Open slots are numbered in the order of the rendered nodes.

A rendered bound node takes the path of its field with the first open slot filled by the number of
rendered nodes before it that have the same field. This path is there before any data is looked at:
a node without a value has its number all the same, and no two rendered nodes with one slotted field
have one path.
-/

namespace VisualTemplate

/-! ### Paths with a number in their slot -/

namespace FieldPath

/-- The first open slot of a path, if there is one, is filled with a number. -/
def Fills (k : ℕ) (p q : FieldPath) : Prop :=
  (.slot ∉ p.segments ∧ q = p) ∨
    ∃ front back, .slot ∉ front ∧ p.segments = front ++ .slot :: back ∧
      q.segments = front ++ .index k :: back

lemma fillFirst_of_notMem (k : ℕ) {ss : List Segment} (h : .slot ∉ ss) : fillFirst k ss = ss := by
  induction ss with
  | nil => rfl
  | cons s ss ih =>
    rw [List.mem_cons, not_or] at h
    cases s with
    | slot => exact absurd rfl h.1
    | key name => rw [fillFirst, ih h.2]; simp
    | index n => rw [fillFirst, ih h.2]; simp

lemma fillFirst_append (k : ℕ) {front : List Segment} (back : List Segment)
    (h : .slot ∉ front) :
    fillFirst k (front ++ .slot :: back) = front ++ .index k :: back := by
  induction front with
  | nil => rfl
  | cons s front ih =>
    rw [List.mem_cons, not_or] at h
    cases s with
    | slot => exact absurd rfl h.1
    | key name => rw [List.cons_append, fillFirst, ih h.2, List.cons_append]; simp
    | index n => rw [List.cons_append, fillFirst, ih h.2, List.cons_append]; simp

lemma hasSlot_iff {p : FieldPath} : p.hasSlot = true ↔ .slot ∈ p.segments := by
  simp [hasSlot]

lemma fills_fillSlot (k : ℕ) (p : FieldPath) : Fills k p (p.fillSlot k) := by
  by_cases h : .slot ∈ p.segments
  · obtain ⟨front, back, heq, hfront⟩ := List.eq_append_cons_of_mem h
    refine .inr ⟨front, back, hfront, heq, ?_⟩
    rw [fillSlot, heq, fillFirst_append k back hfront]
  · refine .inl ⟨h, ?_⟩
    rw [fillSlot, fillFirst_of_notMem k h]

lemma fillSlot_of_not_hasSlot (k : ℕ) {p : FieldPath} (h : p.hasSlot = false) :
    p.fillSlot k = p := by
  have hslot : .slot ∉ p.segments := by
    rw [← hasSlot_iff, h]
    simp
  rw [fillSlot, fillFirst_of_notMem k hslot]

/-- In the text of a path an index stands between brackets, whatever is around it. -/
lemma exists_text_index (front back : List Segment) : ∃ a b : String, ∀ k,
    FieldPath.text ⟨front ++ .index k :: back⟩ = a ++ (("[" ++ toString k ++ "]") ++ b) := by
  have hjoin (ss : List Segment) (k : ℕ) :
      String.join ((ss ++ .index k :: back).map Segment.text) =
        String.join (ss.map Segment.text) ++
          (("[" ++ toString k ++ "]") ++ String.join (back.map Segment.text)) := by
    rw [List.map_append, List.map_cons, String.join_append, String.join_cons, Segment.text]
  cases front with
  | nil => exact ⟨_, _, hjoin []⟩
  | cons s front =>
    cases s with
    | key name =>
      refine ⟨name ++ String.join (front.map Segment.text), String.join (back.map Segment.text),
        fun k => ?_⟩
      show name ++ String.join ((front ++ .index k :: back).map Segment.text) = _
      rw [hjoin]
      exact String.append_assoc.symm
    | index n => exact ⟨_, _, hjoin (.index n :: front)⟩
    | slot => exact ⟨_, _, hjoin (.slot :: front)⟩

/-- Different numbers in one slot give different texts. -/
lemma text_index_inj {front back : List Segment} {k k' : ℕ}
    (h : FieldPath.text ⟨front ++ .index k :: back⟩ =
      FieldPath.text ⟨front ++ .index k' :: back⟩) : k = k' := by
  obtain ⟨a, b, htext⟩ := exists_text_index front back
  rw [htext, htext] at h
  have hlist := congrArg String.toList h
  simp only [String.toList_append, List.append_cancel_left_eq] at hlist
  have hdigits : Decimal.digitsOf k ++ ']' :: b.toList = Decimal.digitsOf k' ++ ']' :: b.toList := by
    simpa [Decimal.digitsOf, toString] using hlist
  have hk := List.append_cancel_right hdigits
  rw [← Decimal.wholeOf_digitsOf k, hk, Decimal.wholeOf_digitsOf]

lemma text_fillSlot_inj {p : FieldPath} (hp : p.hasSlot = true) {k k' : ℕ}
    (h : (p.fillSlot k).text = (p.fillSlot k').text) : k = k' := by
  obtain ⟨front, back, heq, hfront⟩ := List.eq_append_cons_of_mem (hasSlot_iff.1 hp)
  rw [fillSlot, fillSlot, heq, fillFirst_append k back hfront, fillFirst_append k' back hfront] at h
  exact text_index_inj h

end FieldPath

/-! ### Occurrences of fields -/

/-- A bound node and the field that it is bound to. -/
structure Occurrence where
  nodeId : String
  field : String
  deriving DecidableEq

namespace Occurrence

def of? (n : Node) : Option Occurrence := n.binding.map fun b => ⟨n.id, b.field⟩

/-- The bound nodes that are exposed, in pre-order. -/
def rendered (ns : List Node) : List Occurrence :=
  (((Node.placesIn [] ns).filter (Node.Exposed ·)).map Prod.fst).filterMap of?

/-- How many occurrences have a field. -/
def count (os : List Occurrence) (field : String) : ℕ := os.countP (·.field == field)

/-- The path of an occurrence behind others. -/
def path (before : List Occurrence) (o : Occurrence) : FieldPath :=
  ((FieldPath.ofText? o.field).getD ⟨[]⟩).fillSlot (count before o.field)

/-- Occurrences behind others, each with its path. -/
def numbered (before : List Occurrence) : List Occurrence → List (Occurrence × FieldPath)
  | [] => []
  | o :: os => (o, o.path before) :: numbered (before ++ [o]) os

lemma rendered_eq (ns : List Node) : rendered ns = (Node.renderedIn ns).filterMap of? := by
  rw [rendered, Node.filter_placesIn (by simp)]

lemma map_fst_numbered (before os : List Occurrence) :
    (numbered before os).map Prod.fst = os := by
  induction os generalizing before with
  | nil => rfl
  | cons o os ih => rw [numbered, List.map_cons, ih]

/-- The path at a position is numbered by what stands before it. -/
lemma getElem?_numbered (before os : List Occurrence) (i : ℕ) :
    (numbered before os)[i]? = os[i]?.map fun o => (o, o.path (before ++ os.take i)) := by
  induction os generalizing before i with
  | nil => rfl
  | cons o os ih =>
    cases i with
    | zero => simp [numbered]
    | succ i => simp [numbered, ih]

lemma ids_sublist (ns : List Node) :
    ((ns.filterMap of?).map (·.nodeId)).Sublist (ns.map (·.id)) := by
  induction ns with
  | nil => exact List.Sublist.refl _
  | cons n ns ih =>
    rw [List.map_cons]
    cases h : of? n with
    | none =>
      rw [List.filterMap_cons_none h]
      exact ih.cons _
    | some o =>
      obtain ⟨b, -, rfl⟩ := Option.map_eq_some_iff.1 h
      rw [List.filterMap_cons_some h, List.map_cons]
      exact ih.cons_cons _

/-- An occurrence counts for all that stand behind it. -/
lemma count_take_lt {os : List Occurrence} {i j : ℕ} (hij : i < j) {o : Occurrence}
    (ho : os[i]? = some o) : count (os.take i) o.field < count (os.take j) o.field := by
  have hsplit : os.take (i + 1) = os.take i ++ [o] := by
    rw [List.take_add_one, ho, Option.toList_some]
  have hprefix : (os.take (i + 1)).Sublist (os.take j) :=
    (List.take_prefix_take_left (by omega)).sublist
  calc count (os.take i) o.field
      < count (os.take i ++ [o]) o.field := by simp [count, List.countP_append]
    _ = count (os.take (i + 1)) o.field := by rw [hsplit]
    _ ≤ count (os.take j) o.field := hprefix.countP_le

/-- The path of an occurrence, where the text of its field is one. -/
lemma path_of_ofText? {o : Occurrence} {p : FieldPath} (hp : FieldPath.ofText? o.field = some p)
    (before : List Occurrence) : o.path before = p.fillSlot (count before o.field) := by
  rw [path, hp, Option.getD_some]

/-- Occurrences of one slotted field have different paths. -/
lemma text_path_ne {os : List Occurrence} {i j : ℕ} {o o' : Occurrence} {p : FieldPath}
    (hp : FieldPath.ofText? o.field = some p) (hslot : p.hasSlot = true) (hji : j ≠ i)
    (ho : os[i]? = some o) (ho' : os[j]? = some o') (hfield : o'.field = o.field) :
    (o'.path (os.take j)).text ≠ (o.path (os.take i)).text := by
  intro htext
  have hp' : FieldPath.ofText? o'.field = some p := by rw [hfield, hp]
  rw [path_of_ofText? hp, path_of_ofText? hp', hfield] at htext
  have hcount := FieldPath.text_fillSlot_inj hslot htext
  rcases Nat.lt_or_gt_of_ne hji with hlt | hgt
  · have hless := count_take_lt hlt ho'
    rw [hfield] at hless
    omega
  · have hless := count_take_lt hgt ho
    omega

variable {ns : List Node}

lemma isSome_ofText? (hparse : ∀ n ∈ Node.renderedIn ns, ∀ b ∈ n.binding,
    (FieldPath.ofText? b.field).isSome) : ∀ o ∈ rendered ns, (FieldPath.ofText? o.field).isSome := by
  intro o ho
  rw [rendered_eq, List.mem_filterMap] at ho
  obtain ⟨n, hn, hno⟩ := ho
  obtain ⟨b, hb, rfl⟩ := Option.map_eq_some_iff.1 hno
  exact hparse n hn b hb

/-- Each node occurs once. -/
lemma nodup_numbered (hids : ((Node.preorders ns).map (·.id)).Nodup) :
    ((numbered [] (rendered ns)).map (·.1.nodeId)).Nodup := by
  have hnodes : (numbered [] (rendered ns)).map (·.1.nodeId) = (rendered ns).map (·.nodeId) := by
    conv_rhs => rw [← map_fst_numbered [] (rendered ns), List.map_map]
    rfl
  rw [hnodes, rendered_eq]
  exact (hids.sublist ((Node.sublist_preorders ns).map _)).sublist (ids_sublist _)

end Occurrence

/-! ### The run over the rendered nodes -/

lemma Slots.count_next (ss : Slots) (field other : String) :
    (ss.next field).count other = if other = field then ss.count field + 1 else ss.count other := by
  unfold next
  rw [count, List.lookup_cons]
  by_cases h : other = field
  · simp [h]
  · have hb : (other == field) = false := by simpa using h
    rw [hb, Table.lookup_filter_ne, if_neg h, if_neg h]
    rfl

namespace Resolution

variable (s : Submission)

/-- One more occurrence with its path. -/
def record (r : Resolution) (o : Occurrence × FieldPath) : Resolution :=
  match s.lookup o.2 with
  | some (value, _) => { r with values := r.values.insert o.1.nodeId ⟨o.2.text, value⟩ }
  | none => { r with diagnostics := r.diagnostics ++ [.unresolved o.2.text o.1.nodeId] }

/-- The slots count the occurrences of each field that has one. -/
def Counted (before : List Occurrence) (ss : Slots) : Prop :=
  ∀ field p, FieldPath.ofText? field = some p → p.hasSlot = true →
    ss.count field = Occurrence.count before field

lemma counted_nil : Counted [] [] := fun _ _ _ _ => rfl

variable {s} {before : List Occurrence} {ss : Slots}

/-- The path of the next occurrence is known from what stands before it. -/
lemma concretePath?_eq (hss : Counted before ss) {o : Occurrence} {p : FieldPath}
    (hp : FieldPath.ofText? o.field = some p) :
    ∃ ss', concretePath? ss o.field = (some (o.path before), ss') ∧ Counted (before ++ [o]) ss' := by
  have hpath : o.path before = p.fillSlot (Occurrence.count before o.field) := by
    rw [Occurrence.path, hp, Option.getD_some]
  have hcount (field : String) : Occurrence.count (before ++ [o]) field =
      Occurrence.count before field + if o.field = field then 1 else 0 := by
    simp [Occurrence.count, List.countP_append, List.countP_singleton]
  unfold concretePath?
  rw [hp]
  cases hslot : p.hasSlot with
  | true =>
    refine ⟨ss.next o.field, by simp [hslot, hpath, hss _ _ hp hslot], fun field q hq hqslot => ?_⟩
    rw [Slots.count_next, hcount]
    by_cases h : field = o.field
    · rw [if_pos h, if_pos h.symm, h, hss _ _ hp hslot]
    · rw [if_neg h, if_neg (Ne.symm h), hss _ _ hq hqslot, Nat.add_zero]
  | false =>
    refine ⟨ss, ?_, fun field q hq hqslot => ?_⟩
    · simp [hslot, hpath, FieldPath.fillSlot_of_not_hasSlot _ hslot]
    · have h : o.field ≠ field := by
        rintro rfl
        rw [hp, Option.some.injEq] at hq
        rw [← hq, hslot] at hqslot
        exact absurd hqslot (by simp)
      rw [hcount, if_neg h, hss _ _ hq hqslot, Nat.add_zero]

/-- One node of the run: an occurrence is recorded with its path, another node changes nothing. -/
lemma step_eq (hss : Counted before ss) {n : Node} (r : Resolution)
    (hn : ∀ b ∈ n.binding, (FieldPath.ofText? b.field).isSome) :
    (Occurrence.of? n = none ∧ step s (r, ss) n = (r, ss)) ∨
    ∃ o ss', Occurrence.of? n = some o ∧ Counted (before ++ [o]) ss' ∧
      step s (r, ss) n = (record s r (o, o.path before), ss') := by
  unfold step Occurrence.of?
  cases hb : n.binding with
  | none => exact .inl ⟨rfl, rfl⟩
  | some b =>
    obtain ⟨p, hp⟩ := Option.isSome_iff_exists.1 (hn b hb)
    obtain ⟨ss', hpath, hss'⟩ := concretePath?_eq hss (o := ⟨n.id, b.field⟩) hp
    refine .inr ⟨⟨n.id, b.field⟩, ss', rfl, hss', ?_⟩
    have hpath' : concretePath? ss b.field = _ := hpath
    simp only [resolveField, hpath', record]
    cases s.lookup (Occurrence.path before ⟨n.id, b.field⟩) <;> rfl

/-- The run records the occurrences with paths that are known before it. -/
lemma foldl_step (ns : List Node)
    (hns : ∀ n ∈ ns, ∀ b ∈ n.binding, (FieldPath.ofText? b.field).isSome)
    (hss : Counted before ss) (r : Resolution) :
    (ns.foldl (step s) (r, ss)).1 =
      (Occurrence.numbered before (ns.filterMap Occurrence.of?)).foldl (record s) r := by
  induction ns generalizing before ss r with
  | nil => rfl
  | cons n ns ih =>
    have hrest := fun m hm => hns m (List.mem_cons_of_mem _ hm)
    rw [List.foldl_cons]
    rcases step_eq hss r (hns n List.mem_cons_self) with ⟨ho, hstep⟩ | ⟨o, ss', ho, hss', hstep⟩
    · rw [hstep, List.filterMap_cons_none ho, ih hrest hss]
    · rw [hstep, List.filterMap_cons_some ho, Occurrence.numbered, List.foldl_cons, ih hrest hss']

/-- What is reported of an occurrence without a value. -/
def reported? (s : Submission) (o : Occurrence × FieldPath) : Option Diagnostic :=
  if (s.lookup o.2).isNone then some (.unresolved o.2.text o.1.nodeId) else none

lemma diagnostics_record (r : Resolution) (o : Occurrence × FieldPath) :
    (record s r o).diagnostics = r.diagnostics ++ (reported? s o).toList := by
  unfold record reported?
  cases s.lookup o.2 <;> simp

lemma diagnostics_foldl (os : List (Occurrence × FieldPath)) (r : Resolution) :
    (os.foldl (record s) r).diagnostics = r.diagnostics ++ os.filterMap (reported? s) := by
  induction os generalizing r with
  | nil => simp
  | cons o os ih =>
    rw [List.foldl_cons, ih, diagnostics_record, List.append_assoc]
    cases h : reported? s o <;> simp [h]

lemma get?_record (r : Resolution) (o : Occurrence × FieldPath) (id : String) :
    (record s r o).values.get? id =
      if id = o.1.nodeId then
        ((s.lookup o.2).map fun v => (⟨o.2.text, v.1⟩ : Resolved)).or (r.values.get? id)
      else r.values.get? id := by
  unfold record
  cases s.lookup o.2 <;> simp

/-- A node that does not occur keeps what it has. -/
lemma get?_foldl_of_notMem {os : List (Occurrence × FieldPath)} {id : String}
    (h : ∀ o ∈ os, o.1.nodeId ≠ id) (r : Resolution) :
    (os.foldl (record s) r).values.get? id = r.values.get? id := by
  induction os generalizing r with
  | nil => rfl
  | cons o os ih =>
    rw [List.foldl_cons, ih (fun x hx => h x (List.mem_cons_of_mem _ hx)), get?_record,
      if_neg (h o List.mem_cons_self).symm]

/-- A node that occurs once has the value of its path. -/
lemma get?_foldl {os : List (Occurrence × FieldPath)} (hos : (os.map (·.1.nodeId)).Nodup)
    {o : Occurrence × FieldPath} (ho : o ∈ os) (r : Resolution)
    (hr : r.values.get? o.1.nodeId = none) :
    (os.foldl (record s) r).values.get? o.1.nodeId =
      (s.lookup o.2).map fun v => ⟨o.2.text, v.1⟩ := by
  induction os generalizing r with
  | nil => exact absurd ho List.not_mem_nil
  | cons x os ih =>
    rw [List.map_cons, List.nodup_cons, List.mem_map] at hos
    obtain ⟨hx, hos⟩ := hos
    rw [List.foldl_cons]
    rcases List.mem_cons.1 ho with rfl | ho
    · rw [get?_foldl_of_notMem (fun y hy heq => hx ⟨y, hy, heq⟩), get?_record, if_pos rfl, hr,
        Option.or_none]
    · have hne : o.1.nodeId ≠ x.1.nodeId := fun heq => hx ⟨o, ho, heq⟩
      exact ih hos ho _ (by rw [get?_record, if_neg hne, hr])

end Resolution

/-- **Slots are numbered along the rendered order.** The rendered bound nodes have paths that do
not depend on any data: each is the field of its node with the first open slot filled by the number
of rendered nodes before it with the same field, so that nodes with one slotted field have
different paths. Whatever is submitted, a node has the value that is found under its path, or it is
reported with that path; reports stand in the order of the nodes, and no other node has a value. -/
theorem Resolution.ofNodes_numbers_rendered {ns : List Node}
    (hids : ((Node.preorders ns).map (·.id)).Nodup)
    (hfields : ∀ n ∈ Node.preorders ns, ∀ b ∈ n.binding, (FieldPath.ofText? b.field).isSome) :
    ∃ paths : List FieldPath, paths.length = (Occurrence.rendered ns).length ∧
      (∀ (i : ℕ) (o : Occurrence), (Occurrence.rendered ns)[i]? = some o →
        ∃ p q, FieldPath.ofText? o.field = some p ∧ paths[i]? = some q ∧
          FieldPath.Fills (Occurrence.count ((Occurrence.rendered ns).take i) o.field) p q ∧
          ∀ (j : ℕ) (o' : Occurrence) (q' : FieldPath), j ≠ i → p.hasSlot = true →
            (Occurrence.rendered ns)[j]? = some o' → o'.field = o.field →
            paths[j]? = some q' → q'.text ≠ q.text) ∧
      ∀ s : Submission,
        (∀ o q, (o, q) ∈ (Occurrence.rendered ns).zip paths →
          (ofNodes s ns).values.get? o.nodeId = (s.lookup q).map fun v => ⟨q.text, v.1⟩) ∧
        (∀ id, (∀ o ∈ Occurrence.rendered ns, o.nodeId ≠ id) →
          (ofNodes s ns).values.get? id = none) ∧
        (ofNodes s ns).diagnostics =
          ((Occurrence.rendered ns).zip paths).filterMap fun (o, q) =>
            if (s.lookup q).isNone then some (.unresolved q.text o.nodeId) else none := by
  set os := Occurrence.rendered ns with hos
  set numbered := Occurrence.numbered [] os with hnumbered
  have hfst : numbered.map Prod.fst = os := Occurrence.map_fst_numbered [] os
  have hzip : os.zip (numbered.map Prod.snd) = numbered := by
    rw [← hfst, List.zip_map', List.map_id']
  have hat (i : ℕ) : (numbered.map Prod.snd)[i]? = os[i]?.map fun o => o.path (os.take i) := by
    simp [hnumbered, Occurrence.getElem?_numbered, Function.comp_def]
  have hparse : ∀ n ∈ Node.renderedIn ns, ∀ b ∈ n.binding, (FieldPath.ofText? b.field).isSome :=
    fun n hn => hfields n ((Node.sublist_preorders ns).subset hn)
  refine ⟨numbered.map Prod.snd, by rw [List.length_map, ← hfst, List.length_map], ?_, ?_⟩
  · intro i o ho
    obtain ⟨p, hp⟩ := Option.isSome_iff_exists.1
      (Occurrence.isSome_ofText? hparse o (List.mem_of_getElem? ho))
    refine ⟨p, o.path (os.take i), hp, by rw [hat, ho, Option.map_some], ?_, ?_⟩
    · rw [Occurrence.path_of_ofText? hp]
      exact FieldPath.fills_fillSlot _ p
    · intro j o' q' hji hslot ho' hfield hq'
      rw [hat, ho', Option.map_some, Option.some.injEq] at hq'
      rw [← hq']
      exact Occurrence.text_path_ne hp hslot hji ho ho' hfield
  · intro s
    have hrun : ofNodes s ns = numbered.foldl (record s) {} := by
      rw [ofNodes, foldl_step _ hparse counted_nil, hnumbered, hos, Occurrence.rendered_eq]
    rw [hzip, hrun]
    refine ⟨fun o q hoq => get?_foldl (Occurrence.nodup_numbered hids) hoq {} rfl,
      fun id hid => ?_, diagnostics_foldl ..⟩
    rw [get?_foldl_of_notMem]
    · rfl
    · intro x hx
      apply hid
      rw [← hfst]
      exact List.mem_map_of_mem hx

/-- Two rendered talks with a hidden one between them, and a text without a slot. -/
def talkNodes : List Node :=
  let talk (id : String) (visible : Bool) : Node :=
    .leaf { id, visible } (.text { content := "", binding := some ⟨"talks[].title", .text, none⟩ })
  [.container { id := "root" } (.box {}) [talk "a" true, talk "hidden" false, talk "b" true],
    .leaf { id := "city" } (.text { content := "", binding := some ⟨"city", .text, none⟩ })]

theorem Resolution.ofNodes_numbers_rendered_talks :
    Occurrence.rendered talkNodes =
      [⟨"a", "talks[].title"⟩, ⟨"b", "talks[].title"⟩, ⟨"city", "city"⟩] ∧
    ∃ paths : List FieldPath, paths.length = 3 ∧
      (∃ q, paths[1]? = some q ∧
        FieldPath.Fills 1 ⟨[.key "talks", .slot, .key "title"]⟩ q) ∧
      ∀ s : Submission, (ofNodes s talkNodes).values.get? "hidden" = none := by
  have hrendered : Occurrence.rendered talkNodes =
      [⟨"a", "talks[].title"⟩, ⟨"b", "talks[].title"⟩, ⟨"city", "city"⟩] := by decide +kernel
  have hpath : FieldPath.ofText? "talks[].title" =
      some ⟨[.key "talks", .slot, .key "title"]⟩ := by decide +kernel
  have hids : ((Node.preorders talkNodes).map (·.id)).Nodup := by decide +kernel
  have hfields : ∀ n ∈ Node.preorders talkNodes, ∀ b ∈ n.binding,
      (FieldPath.ofText? b.field).isSome := by decide +kernel
  obtain ⟨paths, hlength, hpaths, hvalues⟩ := ofNodes_numbers_rendered hids hfields
  rw [hrendered] at hlength hpaths
  refine ⟨hrendered, paths, hlength, ?_, fun s => ?_⟩
  · obtain ⟨p, q, hp, hq, hfills, -⟩ := hpaths 1 ⟨"b", "talks[].title"⟩ rfl
    obtain rfl := Option.some.inj (hpath.symm.trans hp)
    exact ⟨q, hq, hfills⟩
  · apply (hvalues s).2.1
    rw [hrendered]
    decide

end VisualTemplate
