import VisualTemplate.Proofs.Schema.Gate
/-!
What a draft is refused for.

The gate names the first fault that it finds. Whatever it names is a fault that the draft has, so
what holds of the errors of the gate is shown once for each kind of fault.
-/

namespace VisualTemplate

namespace Draft

variable {d : Draft} {index : List BindingEntry} {e : Error}

/-- A draft with a stored list of bindings has a fault, which the error tells. -/
inductive HasFault (d : Draft) (index : List BindingEntry) : Error → Prop where
  | canvas (empty : d.canvas.isEmpty = true) : HasFault d index (.invalidCanvas d.canvas)
  | tree {fault : StructureFault} (found : d.structureFault? = some fault) :
    HasFault d index (.structural fault)
  | repeatedId {id : String} (repeated : ¬ (d.preorder.map (·.id)).Nodup) :
    HasFault d index (.duplicateNodeId id)
  | path {n : Node} {b : Binding} (within : Node.Within n d.top) (bound : n.binding = some b)
    (unread : FieldPath.ofText? b.field = none) : HasFault d index (.invalidFieldPath b.field)
  | row {r : BindingEntry} (stored : r ∈ index) (dangling : ¬ d.Names r.nodeId) :
    HasFault d index (.danglingReference r.nodeId (.indexEntry r.field))
  | repeatedVariant {v : Variant} (declared : v ∈ d.variants) :
    HasFault d index (.structural (.duplicateVariant v.id))
  | override {v : Variant} {o : Override} (declared : v ∈ d.variants) (listed : o ∈ v.overrides)
    (dangling : ¬ d.Names o.nodeId) :
    HasFault d index (.danglingReference o.nodeId (.variant v.id))
  | token {e : Error} (found : d.tokens.firstFault? = some e) : HasFault d index e

lemma hasFault_of_pathFault? (h : d.pathFault? = some e) : d.HasFault index e := by
  obtain ⟨row, hrow, rfl⟩ := Option.map_eq_some_iff.1 h
  obtain ⟨n, hn, b, hb, rfl⟩ := (mem_bindings_iff row).1 (List.mem_of_find?_eq_some hrow)
  exact .path hn hb (by simpa using List.find?_some hrow)

lemma hasFault_of_indexFault? (h : d.indexFault? index = some e) : d.HasFault index e := by
  obtain ⟨row, hrow, rfl⟩ := Option.map_eq_some_iff.1 h
  have hnone := List.find?_some hrow
  rw [Bool.not_eq_true', ← Bool.not_eq_true, hasNode_iff] at hnone
  exact .row (List.mem_of_find?_eq_some hrow) hnone

lemma hasFault_of_variantsFault? {seen : List String} {vs : List Variant}
    (hvs : vs ⊆ d.variants) (h : d.variantsFault? seen vs = some e) : d.HasFault index e := by
  induction vs generalizing seen with
  | nil => cases h
  | cons v vs ih =>
    rw [List.cons_subset] at hvs
    unfold variantsFault? at h
    split at h
    · rw [← Option.some.inj h]
      exact .repeatedVariant hvs.1
    · split at h
      · next o ho =>
        have hnone := List.find?_some ho
        rw [Bool.not_eq_true', ← Bool.not_eq_true, hasNode_iff] at hnone
        rw [← Option.some.inj h]
        exact .override hvs.1 (List.mem_of_find?_eq_some ho) hnone
      · exact ih hvs.2 h

/-- The fault that is found is one that the draft has. -/
theorem hasFault_of_fault? (h : d.fault? index = some e) : d.HasFault index e := by
  simp only [fault?, Option.or_eq_some_iff] at h
  rcases h with h | ⟨-, h | ⟨-, h | ⟨-, h | ⟨-, h | ⟨-, h | ⟨-, h⟩⟩⟩⟩⟩⟩
  · unfold canvasFault? at h
    split at h
    · next hempty =>
      rw [← Option.some.inj h]
      exact .canvas hempty
    · cases h
  · obtain ⟨fault, hfault, rfl⟩ := Option.map_eq_some_iff.1 h
    exact .tree hfault
  · obtain ⟨id, hid, rfl⟩ := Option.map_eq_some_iff.1 h
    refine .repeatedId fun hnodup => ?_
    rw [idFault?_eq_none.2 hnodup] at h
    cases h
  · exact hasFault_of_pathFault? h
  · exact hasFault_of_indexFault? h
  · exact hasFault_of_variantsFault? (List.Subset.refl _) h
  · exact .token h

lemma check_eq_error_iff : d.check index = .error e ↔ d.fault? index = some e := by
  unfold check
  split
  · next hfault => rw [hfault, Except.error.injEq, Option.some.injEq]
  · next hfault => simp [hfault]

end Draft

end VisualTemplate
