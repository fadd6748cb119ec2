import Mathlib.Data.List.Induction
import Mathlib.Data.List.Nodup
import VisualTemplate.Proofs.Node.Variants
import VisualTemplate.Proofs.Schema.Gate
/-!
A variant is the run of its overrides.

The tree for a variant is found in one walk that looks up the last override of every node. It is the
tree that comes out when the overrides are carried out one after another on the stored tree, each
setting the flag of one node: the gate sees to it that a node has every id that an override names,
and no more than one.
-/

namespace VisualTemplate

namespace Node

mutual

/-- A node with all of it visible. -/
def unveiled : Node → Node
  | container h l cs => container { h with visible := true } l (unveiledIn cs)
  | leaf h l => leaf { h with visible := true } l

def unveiledIn : List Node → List Node
  | [] => []
  | n :: ns => n.unveiled :: unveiledIn ns

end

mutual

/-- The flag of the first node with an id set, if there is such a node. -/
def setFlag? (id : String) (visible : Bool) : Node → Option Node
  | container h l cs =>
    if h.id = id then some (container { h with visible } l cs)
    else (setFlagIn? id visible cs).map (container h l)
  | leaf h l => if h.id = id then some (leaf { h with visible } l) else none

def setFlagIn? (id : String) (visible : Bool) : List Node → Option (List Node)
  | [] => none
  | n :: ns =>
    match setFlag? id visible n with
    | some n => some (n :: ns)
    | none => (setFlagIn? id visible ns).map (n :: ·)

end

end Node

namespace Variant

/-! ### The flag of one node -/

/-- The flag that the last override of a node gives it, and the stored one where there is none. -/
def lastFlag (os : List Override) (n : Node) : Bool :=
  match (os.filter (·.nodeId == n.id)).getLast? with
  | some o => o.operation == .reveal
  | none => n.visible

lemma visibilityOf_append (os os' : List Override) (id : String) (stored : Bool) :
    visibilityOf (os ++ os') id stored = visibilityOf os' id (visibilityOf os id stored) :=
  List.foldl_append

/-- The last override of a node counts. -/
lemma visibilityOf_eq (os : List Override) (id : String) (stored : Bool) :
    visibilityOf os id stored =
      ((os.filter (·.nodeId == id)).getLast?.map (·.operation.isVisible)).getD stored := by
  induction os using List.reverseRecOn with
  | nil => rfl
  | append_singleton os o ih =>
    rw [visibilityOf_append, List.filter_append, ih]
    by_cases h : o.nodeId = id <;> simp [visibilityOf, h]

lemma visibilityOf_head (os : List Override) (n : Node) :
    visibilityOf os n.id n.visible = lastFlag os n := by
  rw [visibilityOf_eq, lastFlag]
  cases (os.filter (·.nodeId == n.id)).getLast? with
  | none => rfl
  | some o => cases h : o.operation <;> simp [h, Visibility.isVisible]

/-- Overrides that agree node by node leave every flag alike. -/
lemma visibilityOf_congr {os os' : List Override}
    (h : ∀ id, os.filter (·.nodeId == id) = os'.filter (·.nodeId == id)) :
    visibilityOf os = visibilityOf os' := by
  funext id stored
  rw [visibilityOf_eq, visibilityOf_eq, h]

lemma visibilityOf_twice (os : List Override) : visibilityOf (os ++ os) = visibilityOf os := by
  funext id stored
  rw [visibilityOf_eq, visibilityOf_eq, List.filter_append, List.getLast?_append, Option.or_self]

/-! ### The walk over a tree -/

mutual

lemma applyTo_congr {os os' : List Override} (h : visibilityOf os = visibilityOf os') (n : Node) :
    applyTo os n = applyTo os' n := by
  match n with
  | .container hd l cs => rw [applyTo, applyTo, h, applyToAll_congr h cs]
  | .leaf hd l => rw [applyTo, applyTo, h]

lemma applyToAll_congr {os os' : List Override} (h : visibilityOf os = visibilityOf os')
    (ns : List Node) : applyToAll os ns = applyToAll os' ns := by
  match ns with
  | [] => rfl
  | n :: ns => rw [applyToAll, applyToAll, applyTo_congr h n, applyToAll_congr h ns]

end

mutual

lemma applyTo_append (os os' : List Override) (n : Node) :
    applyTo (os ++ os') n = applyTo os' (applyTo os n) := by
  match n with
  | .container h l cs =>
    rw [applyTo, applyTo, applyTo, visibilityOf_append, applyToAll_append os os' cs]
  | .leaf h l => rw [applyTo, applyTo, applyTo, visibilityOf_append]

/-- Two lists of overrides after each other are two walks. -/
lemma applyToAll_append (os os' : List Override) (ns : List Node) :
    applyToAll (os ++ os') ns = applyToAll os' (applyToAll os ns) := by
  match ns with
  | [] => rfl
  | n :: ns => rw [applyToAll, applyToAll, applyToAll, applyTo_append os os' n,
      applyToAll_append os os' ns]

end

mutual

lemma unveiled_applyTo (os : List Override) (n : Node) : (applyTo os n).unveiled = n.unveiled := by
  match n with
  | .container h l cs =>
    rw [applyTo, Node.unveiled, Node.unveiled, unveiledIn_applyToAll os cs]
  | .leaf h l => rfl

/-- Nothing but flags is changed. -/
lemma unveiledIn_applyToAll (os : List Override) (ns : List Node) :
    Node.unveiledIn (applyToAll os ns) = Node.unveiledIn ns := by
  match ns with
  | [] => rfl
  | n :: ns =>
    rw [applyToAll, Node.unveiledIn, Node.unveiledIn, unveiled_applyTo os n,
      unveiledIn_applyToAll os ns]

end

mutual

lemma flags_applyTo (os : List Override) (n : Node) :
    (applyTo os n).preorder.map (·.visible) = n.preorder.map (lastFlag os) := by
  match n with
  | .container h l cs =>
    rw [applyTo, Node.preorder, Node.preorder, List.map_cons, List.map_cons,
      flags_applyToAll os cs]
    exact congrArg (· :: _) (visibilityOf_head os (.container h l cs))
  | .leaf h l => exact congrArg (fun b => [b]) (visibilityOf_head os (.leaf h l))

/-- Every flag is that of the last override of its node. -/
lemma flags_applyToAll (os : List Override) (ns : List Node) :
    (Node.preorders (applyToAll os ns)).map (·.visible) =
      (Node.preorders ns).map (lastFlag os) := by
  match ns with
  | [] => rfl
  | n :: ns =>
    rw [applyToAll, Node.preorders, Node.preorders, List.map_append, List.map_append,
      flags_applyTo os n, flags_applyToAll os ns]

end

lemma ids_applyToAll (os : List Override) (ns : List Node) :
    Node.idsIn (applyToAll os ns) = Node.idsIn ns :=
  map_applyToAll id_applyTo os ns

/-! ### One override after another -/

mutual

lemma applyTo_of_notMem {os : List Override} {n : Node} (h : ∀ o ∈ os, o.nodeId ∉ n.ids) :
    applyTo os n = n := by
  have hflag {id : String} (hid : id ∈ n.ids) (stored : Bool) :
      visibilityOf os id stored = stored := by
    have hnone : os.filter (·.nodeId == id) = [] := List.filter_eq_nil_iff.2 fun o ho heq =>
      h o ho (beq_iff_eq.1 heq ▸ hid)
    rw [visibilityOf_eq, hnone]
    rfl
  match n with
  | .container hd l cs =>
    have hid : hd.id ∈ Node.ids (.container hd l cs) := List.mem_cons_self
    rw [applyTo, hflag hid,
      applyToAll_of_notMem fun o ho hmem => h o ho (List.mem_cons_of_mem _ hmem)]
  | .leaf hd l =>
    have hid : hd.id ∈ Node.ids (.leaf hd l) := List.mem_cons_self
    rw [applyTo, hflag hid]

/-- Overrides of nodes elsewhere change nothing here. -/
lemma applyToAll_of_notMem {os : List Override} {ns : List Node}
    (h : ∀ o ∈ os, o.nodeId ∉ Node.idsIn ns) : applyToAll os ns = ns := by
  match ns with
  | [] => rfl
  | n :: ns =>
    have hsplit : ∀ o ∈ os, o.nodeId ∉ n.ids ∧ o.nodeId ∉ Node.idsIn ns := fun o ho =>
      not_or.1 fun hmem => h o ho (Node.idsIn_cons n ns ▸ List.mem_append.2 hmem)
    rw [applyToAll, applyTo_of_notMem fun o ho => (hsplit o ho).1,
      applyToAll_of_notMem fun o ho => (hsplit o ho).2]

end

mutual

lemma setFlag?_of_notMem {id : String} {visible : Bool} {n : Node} (h : id ∉ n.ids) :
    Node.setFlag? id visible n = none := by
  match n with
  | .container hd l cs =>
    rw [Node.ids_container, List.mem_cons, not_or] at h
    rw [Node.setFlag?, if_neg (Ne.symm h.1), setFlagIn?_of_notMem h.2]
    rfl
  | .leaf hd l =>
    rw [Node.ids_leaf, List.mem_singleton] at h
    rw [Node.setFlag?, if_neg (Ne.symm h)]

lemma setFlagIn?_of_notMem {id : String} {visible : Bool} {ns : List Node}
    (h : id ∉ Node.idsIn ns) : Node.setFlagIn? id visible ns = none := by
  match ns with
  | [] => rfl
  | n :: ns =>
    rw [Node.idsIn_cons, List.mem_append, not_or] at h
    rw [Node.setFlagIn?, setFlag?_of_notMem h.1, setFlagIn?_of_notMem h.2]
    rfl

end

variable {o : Override}

mutual

lemma setFlag?_eq {n : Node} (hids : n.ids.Nodup) (h : o.nodeId ∈ n.ids) :
    Node.setFlag? o.nodeId o.operation.isVisible n = some (applyTo [o] n) := by
  match n with
  | .container hd l cs =>
    rw [Node.ids_container] at hids h
    obtain ⟨hnot, hcs⟩ := List.nodup_cons.1 hids
    rw [Node.setFlag?, applyTo]
    by_cases heq : hd.id = o.nodeId
    · have hrest : applyToAll [o] cs = cs := applyToAll_of_notMem (by simpa [← heq] using hnot)
      rw [if_pos heq, hrest]
      simp [visibilityOf, heq]
    · have hmem := (List.mem_cons.1 h).resolve_left (Ne.symm heq)
      rw [if_neg heq, setFlagIn?_eq hcs hmem]
      simp [visibilityOf, Ne.symm heq]
  | .leaf hd l =>
    rw [Node.ids_leaf, List.mem_singleton] at h
    simp [Node.setFlag?, applyTo, visibilityOf, h]

/-- Where every id is there once, an override sets one flag. -/
lemma setFlagIn?_eq {ns : List Node} (hids : (Node.idsIn ns).Nodup) (h : o.nodeId ∈ Node.idsIn ns) :
    Node.setFlagIn? o.nodeId o.operation.isVisible ns = some (applyToAll [o] ns) := by
  match ns with
  | [] => exact absurd h List.not_mem_nil
  | n :: ns =>
    rw [Node.idsIn_cons] at hids h
    obtain ⟨hn, hns, hdisjoint⟩ := List.nodup_append.1 hids
    rw [Node.setFlagIn?, applyToAll]
    by_cases hmem : o.nodeId ∈ n.ids
    · have hrest : applyToAll [o] ns = ns := applyToAll_of_notMem (by
        simpa using fun hns => hdisjoint _ hmem _ hns rfl)
      rw [setFlag?_eq hn hmem, hrest]
    · have hmem' := (List.mem_append.1 h).resolve_left hmem
      rw [setFlag?_of_notMem hmem, setFlagIn?_eq hns hmem', applyTo_of_notMem (by simpa using hmem)]
      rfl

end

/-- Overrides are carried out one after another, each on what the one before has left. -/
def carriedOut (os : List Override) (ns : List Node) : Option (List Node) :=
  os.foldlM (fun ns o => Node.setFlagIn? o.nodeId o.operation.isVisible ns) ns

/-- The run of a list of overrides is the one walk with all of them. -/
lemma carriedOut_eq {os : List Override} {ns : List Node} (hids : (Node.idsIn ns).Nodup)
    (h : ∀ o ∈ os, o.nodeId ∈ Node.idsIn ns) : carriedOut os ns = some (applyToAll os ns) := by
  induction os generalizing ns with
  | nil => exact congrArg some (applyToAll_of_notMem (by simp)).symm
  | cons o os ih =>
    rw [List.forall_mem_cons] at h
    have hstep := setFlagIn?_eq hids h.1
    have hsame := ids_applyToAll [o] ns
    rw [carriedOut, List.foldlM_cons, hstep]
    show carriedOut os (applyToAll [o] ns) = _
    rw [ih (hsame ▸ hids) (hsame ▸ h.2), ← applyToAll_append]
    rfl

end Variant

/-! ### Accepted schemas -/

namespace Schema

lemma valid (s : Schema) : s.draft.Valid := (Draft.fault?_eq_none.1 s.accepted).1

lemma variant?_of_mem {s : Schema} {v : Variant} (hv : v ∈ s.variants) :
    s.variant? v.id = some v := by
  have hids := s.valid.variants_nodup
  cases hfound : s.variant? v.id with
  | none =>
    exact absurd (beq_self_eq_true v.id) (List.find?_eq_none.1 hfound v hv)
  | some w =>
    have hid : w.id = v.id := by simpa using List.find?_some hfound
    rw [List.inj_on_of_nodup_map hids (List.mem_of_find?_eq_some hfound) hv hid]

/-- **A variant is the run of its overrides on the stored tree.** -/
theorem nodesFor_runs_overrides (s : Schema) :
    s.nodesFor none = .ok s.top ∧
    (∀ id ∉ s.variants.map (·.id), s.nodesFor (some id) = .error (.unknownVariant id)) ∧
    ∀ v ∈ s.variants, ∃ nodes, s.nodesFor (some v.id) = .ok nodes ∧
      Node.unveiledIn nodes = Node.unveiledIn s.top ∧
      (Node.preorders nodes).map (·.visible) =
        (Node.preorders s.top).map (Variant.lastFlag v.overrides) ∧
      (∀ o ∈ v.overrides, (Node.idsIn s.top).count o.nodeId = 1) ∧
      Variant.carriedOut v.overrides s.top = some nodes ∧
      (∀ s' : Schema, s'.top = s.top → ∀ v' ∈ s'.variants,
        (∀ id, v'.overrides.filter (·.nodeId == id) = v.overrides.filter (·.nodeId == id)) →
        s'.nodesFor (some v'.id) = .ok nodes) ∧
      Variant.applyToAll v.overrides nodes = nodes ∧
      Variant.applyToAll (v.overrides ++ v.overrides) s.top = nodes := by
  have hfound (s : Schema) {v : Variant} (hv : v ∈ s.variants) :
      s.nodesFor (some v.id) = .ok (Variant.applyToAll v.overrides s.top) := by
    rw [nodesFor, variant?_of_mem hv]
  have hids : (Node.idsIn s.top).Nodup := s.valid.ids_nodup
  refine ⟨rfl, fun id hid => ?_, fun v hv => ?_⟩
  · have hnone : s.variant? id = none := List.find?_eq_none.2 fun v hv heq =>
      hid (List.mem_map.2 ⟨v, hv, beq_iff_eq.1 heq⟩)
    rw [nodesFor, hnone]
  · have hnames : ∀ o ∈ v.overrides, o.nodeId ∈ Node.idsIn s.top := by
      intro o ho
      obtain ⟨n, hn, hid⟩ := s.valid.overrides_name v hv o ho
      exact List.mem_map.2 ⟨n, (Node.mem_preorders_iff n _).2 hn, hid⟩
    have htwice := Variant.applyToAll_congr (Variant.visibilityOf_twice v.overrides) s.top
    refine ⟨_, hfound s hv, Variant.unveiledIn_applyToAll .., Variant.flags_applyToAll ..,
      fun o ho => List.count_eq_one_of_mem hids (hnames o ho), Variant.carriedOut_eq hids hnames,
      fun s' htop v' hv' hsame => ?_, ?_, htwice⟩
    · rw [hfound s' hv', htop, Variant.applyToAll_congr (Variant.visibilityOf_congr hsame)]
    · rw [← Variant.applyToAll_append, htwice]

end Schema

/-- A frame that is hidden around a title that is hidden and shown again. -/
def veiled : Draft :=
  { sample with variants :=
      [⟨"plain", "Plain", [⟨"title", .hide⟩, ⟨"root", .hide⟩, ⟨"title", .reveal⟩]⟩] }

lemma veiled_accepted : veiled.fault? [] = none := by decide +kernel

theorem Schema.nodesFor_runs_overrides_veiled : ∃ nodes,
    Schema.nodesFor ⟨veiled, veiled_accepted⟩ (some "plain") = .ok nodes ∧
    (Node.preorders nodes).map (·.visible) = [false, true] ∧
    Variant.carriedOut [⟨"title", .hide⟩, ⟨"root", .hide⟩, ⟨"title", .reveal⟩] veiled.top =
      some nodes := by
  obtain ⟨nodes, hnodes, -, hflags, -, hrun, -⟩ :=
    (Schema.nodesFor_runs_overrides ⟨veiled, veiled_accepted⟩).2.2 _ List.mem_cons_self
  refine ⟨nodes, hnodes, hflags.trans ?_, hrun⟩
  decide +kernel

end VisualTemplate
