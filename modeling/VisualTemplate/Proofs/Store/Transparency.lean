import VisualTemplate.Proofs.Store.Session
/-!
Keeping documents cannot be seen in the answers of a store.

Every kept document equals what compiling its request now would give. Each call preserves this: a
schema's documents go whenever the schema changes, and all go with the configuration. Since keys
tell the requests of a run apart, a kept document is only handed out for its own request.
-/

namespace VisualTemplate.Store

/-- The requests have keys of their own. -/
def KeysDistinct (ps : List (String × FillRequest)) : Prop :=
  ∀ p ∈ ps, ∀ q ∈ ps, Document.cacheKey p.1 p.2 = Document.cacheKey q.1 q.2 → p = q

variable {ps : List (String × FillRequest)} {x : Session}

/-- A kept document stands under the key of its request and is what that request gives now. -/
def Fresh (ps : List (String × FillRequest)) (b : Bare) (k : Kept) : Prop :=
  ∃ r, (k.schemaId, r) ∈ ps ∧ k.key = Document.cacheKey k.schemaId r ∧
    b.fill k.schemaId r = .ok k.document

/-- All kept documents are up to date. -/
def Current (ps : List (String × FillRequest)) (x : Session) : Prop :=
  ∀ k ∈ x.store.cache, Fresh ps x.bare k

lemma compile_eq_fill (x : Session) (id : String) (r : FillRequest) :
    x.store.compile x.config id r = x.bare.fill id r := rfl

lemma mem_of_mem_latest {n : ℕ} {k : Kept} {cache : List Kept} (h : k ∈ latest n cache) :
    k ∈ cache := List.mem_of_mem_drop h

/-- What another schema id gives does not hang on the schema that is put in or taken out. -/
lemma fill_of_get?_eq {b c : Bare} {id : String} (h : b.schemas.get? id = c.schemas.get? id)
    (hs : b.shared = c.shared) (hc : b.config = c.config) (r : FillRequest) :
    b.fill id r = c.fill id r := by
  unfold Bare.fill
  rw [h, hs, hc]

lemma Fresh.of_get?_eq {b c : Bare} {k : Kept} (hk : Fresh ps b k)
    (h : b.schemas.get? k.schemaId = c.schemas.get? k.schemaId) (hs : b.shared = c.shared)
    (hc : b.config = c.config) : Fresh ps c k := by
  obtain ⟨r, hr, hkey, hd⟩ := hk
  exact ⟨r, hr, hkey, by rw [← hd, fill_of_get?_eq h hs hc]⟩

/-! ### What each call does to the kept documents -/

lemma mem_invalidate {s : Store} {id : String} {k : Kept} :
    k ∈ (s.invalidate id).cache ↔ k ∈ s.cache ∧ k.schemaId ≠ id := by
  simp [invalidate]

lemma mem_of_mem_keep {s : Store} {k k' : Kept} (h : k' ∈ (s.keep k).cache) :
    k' ∈ s.cache ∨ k' = k := by
  unfold keep at h
  split at h
  · exact .inl h
  · rcases List.mem_append.1 h with h | h
    · exact .inl (mem_of_mem_latest h)
    · exact .inr (by simpa using h)

/-- A store that keeps nothing keeps nothing out of date. -/
lemma current_of_cache_nil (h : x.store.cache = []) : Current ps x := by
  intro k hk
  rw [h] at hk
  exact absurd hk List.not_mem_nil

lemma current_put (h : Current ps x) (i : Import) : Current ps (x.step (.put i)).1 := by
  intro k hk
  obtain ⟨hk, hne⟩ := mem_invalidate.1 (show k ∈ (x.store.invalidate i.schema.id).cache from hk)
  exact (h k hk).of_get?_eq (by simp [Session.step, Session.bare, hne]) rfl rfl

lemma current_remove (h : Current ps x) (id : String) : Current ps (x.step (.remove id)).1 := by
  intro k hk
  obtain ⟨hk, hne⟩ := mem_invalidate.1 (show k ∈ (x.store.invalidate id).cache from hk)
  exact (h k hk).of_get?_eq (by simp [Session.step, Session.bare, hne]) rfl rfl

lemma current_fill (h : Current ps x) {id : String} {r : FillRequest} (hr : (id, r) ∈ ps) :
    Current ps (x.step (.fill id r)).1 := by
  have hbare : (x.step (.fill id r)).1.bare = x.bare := bare_step x _
  intro k hk
  rw [hbare]
  obtain ⟨k', -, -, hf⟩ | ⟨d, hd, hf⟩ | ⟨e, -, hf⟩ := fill_cases x.store x.config id r
  · exact h k (by simpa [Session.step, hf] using hk)
  · have hk' : k ∈ (x.store.keep ⟨Document.cacheKey id r, id, d⟩).cache := by
      simpa [Session.step, hf] using hk
    rcases mem_of_mem_keep hk' with hk' | rfl
    · exact h k hk'
    · exact ⟨r, hr, rfl, hd⟩
  · exact h k (by simpa [Session.step, hf] using hk)

/-- Each call leaves the kept documents up to date. -/
lemma current_step (h : Current ps x) (op : Operation) (hop : requests [op] ⊆ ps) :
    Current ps (x.step op).1 := by
  cases op with
  | put i => exact current_put h i
  | remove id => exact current_remove h id
  | invalidate id =>
    intro k hk
    exact h k (mem_invalidate.1 (show k ∈ (x.store.invalidate id).cache from hk)).1
  | clearCache => exact current_of_cache_nil rfl
  | withCapacity n =>
    intro k hk
    exact h k (mem_of_mem_latest (show k ∈ latest n x.store.cache from hk))
  | fill id r => exact current_fill h (hop (by simp [requests]))
  | recompile config => exact current_of_cache_nil rfl

/-- A fill answers what compiling afresh would give. -/
lemma fill_eq_bare_fill (hps : KeysDistinct ps) (h : Current ps x) {id : String}
    {r : FillRequest} (hr : (id, r) ∈ ps) :
    (x.store.fill x.config id r).1 = x.bare.fill id r := by
  obtain ⟨k, hk, hkey, hf⟩ | ⟨d, hd, hf⟩ | ⟨e, he, hf⟩ := fill_cases x.store x.config id r
  · obtain ⟨r', hr', hkey', hd⟩ := h k hk
    have heq : (k.schemaId, r') = (id, r) := hps _ hr' _ hr (hkey'.symm.trans hkey)
    obtain ⟨rfl, rfl⟩ := Prod.mk.inj heq
    rw [hf, hd]
  · rw [hf, ← compile_eq_fill, hd]
  · rw [hf, ← compile_eq_fill, he]

/-- Each call answers what it would answer without kept documents. -/
lemma answer_step (hps : KeysDistinct ps) (h : Current ps x) (op : Operation)
    (hop : requests [op] ⊆ ps) : (x.step op).2 = (x.bare.step op).2 := by
  cases op with
  | fill id r =>
    have hr : (id, r) ∈ ps := hop (by simp [requests])
    simp [Session.step, Bare.step, fill_eq_bare_fill hps h hr]
  | _ => rfl

lemma run_eq_bare_run (hps : KeysDistinct ps) (ops : List Operation) (h : Current ps x)
    (hops : requests ops ⊆ ps) :
    (x.run ops).2 = (x.bare.run ops).2 ∧ (x.run ops).1.bare = (x.bare.run ops).1 := by
  induction ops generalizing x with
  | nil => exact ⟨rfl, rfl⟩
  | cons op ops ih =>
    have hsplit : requests (op :: ops) = requests [op] ++ requests ops := by
      simp [requests, ← List.filterMap_append]
    rw [hsplit, List.append_subset] at hops
    obtain ⟨ih1, ih2⟩ := ih (current_step h op hops.1) hops.2
    have hb := bare_step x op
    have ha := answer_step hps h op hops.1
    simp only [Session.run, Bare.run]
    rw [ih1, ih2, hb, ha]
    exact ⟨rfl, rfl⟩

/-- **Kept documents are transparent.** From a store that keeps nothing yet, with whatever
schemas, assets and capacity, every fill of a run answers what a store that never keeps anything
answers at that point, and both end with the same schemas. A fill never changes schemas or shared
assets, and one that fails changes nothing at all. -/
theorem run_answers_eq (x : Session) (start : x.store.cache = []) (ops : List Operation)
    (distinct : KeysDistinct (requests ops)) :
    (x.run ops).2 = (x.bare.run ops).2 ∧ (x.run ops).1.bare = (x.bare.run ops).1 ∧
    ∀ (s : Store) (config : CompileConfig) (id : String) (r : FillRequest),
      (s.fill config id r).2.schemas = s.schemas ∧ (s.fill config id r).2.shared = s.shared ∧
      ∀ e, (s.fill config id r).1 = .error e → (s.fill config id r).2 = s := by
  have hcur : Current (requests ops) x := current_of_cache_nil start
  obtain ⟨h1, h2⟩ := run_eq_bare_run distinct ops hcur (List.Subset.refl _)
  refine ⟨h1, h2, fun s config id r => ⟨?_, ?_, ?_⟩⟩
  · exact schemas_fill s config id r
  · exact shared_fill s config id r
  · exact fun e he => fill_error s config id r he

/-- A schema without nodes and with one variant. -/
def blankImport : Import where
  schema := ⟨{ id := "s", canvas := {}, version := .flat, variants := [⟨"v", "V", []⟩] }, rfl⟩

/-- A request that is filled twice, another one that pushes its document out of a store with room
for one, the first again, and a fill after the schema is gone. -/
def takingTurns : List Operation :=
  [.put blankImport, .fill "s" {}, .fill "s" {}, .fill "s" { variant := some "v" }, .fill "s" {},
    .remove "s", .fill "s" {}]

theorem run_answers_eq_takingTurns :
    ((Session.run ⟨{ capacity := 1 }, {}⟩ (takingTurns.take 2)).1.store.cache.map (·.key)) =
        [Document.cacheKey "s" {}] ∧
      KeysDistinct (requests takingTurns) ∧
      (Session.run ⟨{ capacity := 1 }, {}⟩ takingTurns).2 =
        (Bare.run ⟨.empty, .empty, {}⟩ takingTurns).2 := by
  have hne : Document.cacheKey "s" {} ≠ Document.cacheKey "s" { variant := some "v" } := by
    decide +kernel
  have distinct : KeysDistinct (requests takingTurns) := by
    have hmem : ∀ p ∈ requests takingTurns, p = ("s", {}) ∨ p = ("s", { variant := some "v" }) := by
      intro p hp
      simpa [requests, takingTurns, or_comm, or_assoc, or_left_comm] using hp
    intro p hp q hq h
    rcases hmem p hp with rfl | rfl <;> rcases hmem q hq with rfl | rfl
    · rfl
    · exact absurd h hne
    · exact absurd h.symm hne
    · rfl
  refine ⟨?_, distinct, (run_answers_eq ⟨{ capacity := 1 }, {}⟩ rfl takingTurns distinct).1⟩
  -- the document of the first fill is kept, so the second one is answered with it
  decide +kernel

end VisualTemplate.Store
