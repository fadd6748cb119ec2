import VisualTemplate.Proofs.Store.Shelf
import VisualTemplate.Proofs.Store.Transparency
/-!
Which documents a store keeps, and which go first.

The queue is read against the history of a run: which documents came in, and which schemas had
theirs dropped. Behind a document in the queue stands everything that came in after it and was not
dropped since, in the order in which it came in. Only what stands in front of it has gone to make
room. Each change of the queue preserves this: it drops a schema's documents, drops the first ones,
or puts a new one at the end.
-/

namespace VisualTemplate.Store

/-- What a call does to the kept documents, other than making room. -/
inductive Event where
  | came (k : Kept)
  | dropped (id : String)
  | cleared

/-- The documents of a schema are dropped. -/
def Event.drops (id : String) : Event → Bool
  | .came _ => false
  | .dropped other => other == id
  | .cleared => true

/-- The documents that came in and were not dropped after that. -/
def surviving : List Event → List Kept
  | [] => []
  | .came k :: es => if es.any (Event.drops k.schemaId) then surviving es else k :: surviving es
  | .dropped _ :: es => surviving es
  | .cleared :: es => surviving es

lemma surviving_append (es es' : List Event) : surviving (es ++ es') =
    (surviving es).filter (fun k => !es'.any (Event.drops k.schemaId)) ++ surviving es' := by
  induction es with
  | nil => rfl
  | cons e es ih =>
    cases e with
    | came k =>
      rw [List.cons_append, surviving, surviving, List.any_append, ih]
      cases es.any (Event.drops k.schemaId) with
      | true => rfl
      | false => cases hany : es'.any (Event.drops k.schemaId) <;> simp [hany]
    | dropped id => exact ih
    | cleared => exact ih

lemma surviving_dropped (es : List Event) (id : String) :
    surviving (es ++ [.dropped id]) = (surviving es).filter (·.schemaId != id) := by
  rw [surviving_append, surviving, surviving, List.append_nil]
  refine List.filter_congr fun k _ => ?_
  simp [Event.drops, bne, Bool.beq_comm]

lemma surviving_came (es : List Event) (k : Kept) :
    surviving (es ++ [.came k]) = surviving es ++ [k] := by
  rw [surviving_append]
  simp [surviving, Event.drops]

/-- A document came in, and what followed neither dropped it nor kept its key anew. -/
structure Since (es : List Event) (k : Kept) (after : List Event) : Prop where
  split : ∃ before, es = before ++ .came k :: after
  undropped : ∀ e ∈ after, e.drops k.schemaId = false
  alone : ∀ other, .came other ∈ after → other.key ≠ k.key

lemma Since.snoc {es after : List Event} {k : Kept} (h : Since es k after) {e : Event}
    (hdrops : e.drops k.schemaId = false) (hkey : ∀ other, e = .came other → other.key ≠ k.key) :
    Since (es ++ [e]) k (after ++ [e]) := by
  obtain ⟨⟨before, rfl⟩, hundropped, halone⟩ := h
  refine ⟨⟨before, by simp⟩, fun e' he' => ?_, fun other hother => ?_⟩
  · rcases List.mem_append.1 he' with he' | he'
    · exact hundropped e' he'
    · rwa [List.mem_singleton.1 he']
  · rcases List.mem_append.1 hother with hother | hother
    · exact halone other hother
    · exact hkey other (List.mem_singleton.1 hother).symm

/-- First in, first out: behind a document stands all that came in after it and was not dropped
since, in that order. -/
structure FirstOut (es : List Event) (cache : List Kept) : Prop where
  behind : ∀ older k newer, cache = older ++ k :: newer →
    ∃ after, Since es k after ∧ newer = surviving after

namespace FirstOut

variable {es : List Event} {cache : List Kept}

lemma nil : FirstOut es [] := ⟨fun older k newer h => by simp at h⟩

/-- Only the first ones go to make room. -/
lemma latest (h : FirstOut es cache) (n : ℕ) : FirstOut es (latest n cache) where
  behind older k newer hsplit := by
    refine h.behind (cache.take (cache.length - n) ++ older) k newer ?_
    rw [List.append_assoc, ← hsplit, Store.latest, List.take_append_drop]

lemma dropped (h : FirstOut es cache) (id : String) :
    FirstOut (es ++ [.dropped id]) (cache.filter (·.schemaId != id)) where
  behind older k newer hsplit := by
    -- the document stands in the whole queue too, with more around it
    obtain ⟨front, back, rfl, -, hback⟩ := List.filter_eq_append_iff.1 hsplit
    obtain ⟨gone, rest, rfl, -, hk, rfl⟩ := List.filter_eq_cons_iff.1 hback
    obtain ⟨after, hsince, rfl⟩ := h.behind (front ++ gone) k rest (by rw [List.append_assoc])
    have hid : k.schemaId ≠ id := by simpa using hk
    refine ⟨after ++ [.dropped id], hsince.snoc ?_ fun other hother => ?_,
      (surviving_dropped after id).symm⟩
    · simpa [Event.drops] using hid.symm
    · cases hother

lemma came (h : FirstOut es cache) {new : Kept} (hnew : ∀ k ∈ cache, new.key ≠ k.key) :
    FirstOut (es ++ [.came new]) (cache ++ [new]) where
  behind older k newer hsplit := by
    rcases List.eq_nil_or_concat newer with rfl | ⟨newer, last, rfl⟩
    · -- the new one, with nothing behind it
      obtain ⟨-, hk⟩ := List.append_inj' hsplit rfl
      rw [(List.cons.inj hk).1]
      exact ⟨[], ⟨⟨es, rfl⟩, nofun, nofun⟩, rfl⟩
    · -- an older one, with the new one as the last behind it
      rw [List.concat_eq_append] at hsplit ⊢
      rw [← List.cons_append, ← List.append_assoc] at hsplit
      obtain ⟨rfl, hlast⟩ := List.append_inj' hsplit rfl
      rw [← (List.cons.inj hlast).1]
      obtain ⟨after, hsince, rfl⟩ := h.behind older k newer rfl
      refine ⟨after ++ [.came new], hsince.snoc rfl fun other hother => ?_,
        (surviving_came after new).symm⟩
      rw [← Event.came.inj hother]
      exact hnew k (List.mem_append_right _ List.mem_cons_self)

end FirstOut

namespace Queued

/-- The document under a key, as one that came in. -/
def arrival (q : Queued) (key : String) : List Event :=
  ((q.shelf.documents.get? key).map fun d => .came ⟨key, d.schemaId, d.document⟩).toList

/-- What a call does to the kept documents. A document comes in if its key was not there before. -/
def events (q : Queued) : Call → List Event
  | .put i => [.dropped i.schema.id]
  | .remove id => [.dropped id]
  | .invalidate id => [.dropped id]
  | .clearCache => [.cleared]
  | .withCapacity _ => []
  | .fill config id r =>
    let key := Document.cacheKey id r
    if q.shelf.documents.contains key then [] else (q.fill config id r).2.arrival key

def history (q : Queued) : List Call → List Event
  | [] => []
  | c :: cs => q.events c ++ (q.step c).1.history cs

/-- All that a call can change. -/
inductive Change (q q' : Queued) : List Event → Prop
  | same (eq : q' = q) : Change q q' []
  | dropped (id : String) (capacity : q'.capacity = q.capacity)
      (schemas : ∀ other, other ≠ id → q'.schemas.get? other = q.schemas.get? other)
      (kept : q'.shelf.kept = q.shelf.kept.filter (·.schemaId != id)) :
      Change q q' [.dropped id]
  | cleared (kept : q'.shelf.kept = []) : Change q q' [.cleared]
  | trimmed (schemas : q'.schemas = q.schemas)
      (kept : q'.shelf.kept = latest q'.capacity q.shelf.kept) : Change q q' []
  | came (k : Kept) (fresh : ∀ other ∈ q.shelf.kept, k.key ≠ other.key)
      (stored : q.schemas.contains k.schemaId = true) (schemas : q'.schemas = q.schemas)
      (room : q.capacity ≠ 0) (capacity : q'.capacity = q.capacity)
      (kept : q'.shelf.kept = latest (q.capacity - 1) q.shelf.kept ++ [k]) :
      Change q q' [.came k]

variable {q q' : Queued}

/-- A document that is found is handed out, and nothing changes. -/
lemma fill_of_get? {config : CompileConfig} {id : String} {r : FillRequest} {d : Shelved}
    (hd : q.shelf.documents.get? (Document.cacheKey id r) = some d) :
    q.fill config id r = (.ok d.document, q) := by
  simp only [fill, hd]

lemma contains_of_fill {b : Bare} {id : String} {r : FillRequest} {d : Document}
    (h : b.fill id r = .ok d) : b.schemas.contains id = true := by
  unfold Bare.fill at h
  split at h
  · cases h
  · next stored hget => exact Table.contains_iff.2 ⟨stored, hget⟩

/-- A new document comes in, if any may be kept. -/
lemma keep_change (h : q.shelf.Tidy) {key : String} (hkey : q.shelf.documents.get? key = none)
    {d : Shelved} (hstored : q.schemas.contains d.schemaId = true) :
    Change q (q.keep key d) ((q.keep key d).arrival key) := by
  obtain ⟨-, hkeep⟩ := keep_eq h (h.notMem_order hkey) d
  by_cases hroom : q.capacity = 0
  · rw [keep, if_pos hroom, arrival, hkey]
    exact .same rfl
  · have hkept := congrArg Store.cache hkeep
    rw [Store.keep, if_neg (by exact hroom)] at hkept
    rw [keep, if_neg hroom] at hkept ⊢
    rw [arrival, Shelf.push, Table.get?_insert, if_pos rfl]
    refine .came ⟨key, d.schemaId, d.document⟩ (fun other hother heq => ?_) hstored rfl hroom rfl
      hkept
    refine h.notMem_order hkey ?_
    rw [show key = other.key from heq]
    exact (Shelf.mem_kept.1 hother).1

lemma fill_change (h : q.shelf.Tidy) (config : CompileConfig) (id : String) (r : FillRequest) :
    Change q (q.fill config id r).2 (q.events (.fill config id r)) := by
  cases hd : q.shelf.documents.get? (Document.cacheKey id r) with
  | some d =>
    rw [events, if_pos (Table.contains_iff.2 ⟨d, hd⟩), fill_of_get? hd]
    exact .same rfl
  | none =>
    rw [events, if_neg (by simp [Table.contains, hd])]
    cases hc : Bare.fill ⟨q.schemas, q.shared, config⟩ id r with
    | error e =>
      have hfill : (q.fill config id r).2 = q := by simp only [fill, hd, hc]
      rw [hfill, arrival, hd]
      exact .same rfl
    | ok d =>
      have hfill : (q.fill config id r).2 = q.keep (Document.cacheKey id r) ⟨id, d⟩ := by
        simp only [fill, hd, hc]
      rw [hfill]
      exact keep_change h hd (contains_of_fill hc)

lemma step_change (h : q.shelf.Tidy) (c : Call) : Change q (q.step c).1 (q.events c) := by
  cases c with
  | put i =>
    refine .dropped i.schema.id rfl (fun other hother => ?_) (h.without _).2
    exact (Table.get?_insert ..).trans (if_neg hother)
  | remove id =>
    refine .dropped id rfl (fun other hother => ?_) (h.without _).2
    exact (Table.get?_erase ..).trans (if_neg hother)
  | invalidate id => exact .dropped id rfl (fun _ _ => rfl) (h.without _).2
  | clearCache => exact .cleared rfl
  | withCapacity n => exact .trimmed rfl (h.evictTo n).2
  | fill config id r => exact fill_change h config id r

/-! ### What holds in every state -/

/-- The table and the queue agree, no more documents are kept than may be, and each of them is of
a schema that is stored. -/
structure Sound (q : Queued) : Prop where
  tidy : q.shelf.Tidy
  size_le : q.shelf.documents.size ≤ q.capacity
  stored : ∀ key d, q.shelf.documents.get? key = some d → q.schemas.contains d.schemaId = true

lemma Sound.contains (h : q.Sound) {k : Kept} (hk : k ∈ q.shelf.kept) :
    q.schemas.contains k.schemaId = true := h.stored _ _ (Shelf.mem_kept.1 hk).2

/-- Soundness can be read off the documents in order. -/
lemma Sound.of_kept (tidy : q.shelf.Tidy) (length_le : q.shelf.kept.length ≤ q.capacity)
    (contains : ∀ k ∈ q.shelf.kept, q.schemas.contains k.schemaId = true) : q.Sound where
  tidy := tidy
  size_le := tidy.length_kept ▸ length_le
  stored key d hd := contains ⟨key, d.schemaId, d.document⟩
    (Shelf.mem_kept.2 ⟨tidy.mem_order hd, hd⟩)

lemma length_latest_le (n : ℕ) (cache : List Kept) : (latest n cache).length ≤ n := by
  rw [latest, List.length_drop]
  omega

lemma Sound.change {es : List Event} (h : q.Sound) (tidy : q'.shelf.Tidy)
    (hc : Change q q' es) : q'.Sound := by
  have hlength := h.tidy.length_kept ▸ h.size_le
  cases hc with
  | same eq => exact eq ▸ h
  | dropped id capacity schemas kept =>
    refine .of_kept tidy ?_ fun k hk => ?_
    · rw [kept, capacity]
      exact Nat.le_trans (List.length_filter_le ..) hlength
    · rw [kept] at hk
      obtain ⟨hk, hid⟩ := List.mem_filter.1 hk
      rw [Table.contains, schemas _ (by simpa using hid)]
      exact h.contains hk
  | cleared kept =>
    exact .of_kept tidy (by simp [kept]) fun k hk => by simp [kept] at hk
  | trimmed schemas kept =>
    refine .of_kept tidy (kept ▸ length_latest_le ..) fun k hk => ?_
    rw [kept] at hk
    rw [schemas]
    exact h.contains (List.mem_of_mem_drop hk)
  | came k fresh stored schemas room capacity kept =>
    refine .of_kept tidy ?_ fun k' hk' => ?_
    · have := length_latest_le (q.capacity - 1) q.shelf.kept
      rw [kept, capacity, List.length_append, List.length_singleton]
      omega
    · rw [kept] at hk'
      rw [schemas]
      rcases List.mem_append.1 hk' with hk' | hk'
      · exact h.contains (List.mem_of_mem_drop hk')
      · rwa [List.mem_singleton.1 hk']

lemma firstOut_change {es es' : List Event} (h : FirstOut es q.shelf.kept)
    (hc : Change q q' es') : FirstOut (es ++ es') q'.shelf.kept := by
  cases hc with
  | same eq => rwa [List.append_nil, eq]
  | dropped id capacity schemas kept => exact kept ▸ h.dropped id
  | cleared kept => exact kept ▸ .nil
  | trimmed schemas kept =>
    rw [List.append_nil, kept]
    exact h.latest _
  | came k fresh stored schemas room capacity kept =>
    rw [kept]
    exact (h.latest _).came fun other hother => fresh other (List.mem_of_mem_drop hother)

lemma run_inv {es : List Event} (hs : q.Sound) (hf : FirstOut es q.shelf.kept)
    (calls : List Call) : (q.run calls).1.Sound ∧
      FirstOut (es ++ q.history calls) (q.run calls).1.shelf.kept := by
  induction calls generalizing q es with
  | nil => exact ⟨hs, by rwa [history, List.append_nil]⟩
  | cons c cs ih =>
    have hc := step_change hs.tidy c
    have hrest := ih (hs.change (step_eq hs.tidy c).1 hc) (firstOut_change hf hc)
    rwa [List.append_assoc] at hrest

/-- A store that was just made. -/
def ofShared (shared : Assets) : Queued := { shared }

/-- **The kept documents.** After any calls on a new store, the queue holds each key of the table
once, there are at most as many documents as may be kept, and each is of a stored schema. They went
first in, first out. A fill that finds its document changes nothing, and invalidating a schema drops
just its documents, counts them, and leaves the others in their order. The replies are those of the
store with the same documents in a list. -/
theorem run_sound (shared : Assets) (calls : List Call) :
    let q := ((ofShared shared).run calls).1
    q.Sound ∧
    q.shelf.kept.map (·.key) = q.shelf.order ∧
    FirstOut ((ofShared shared).history calls) q.shelf.kept ∧
    (∀ config id r d, q.shelf.documents.get? (Document.cacheKey id r) = some d →
      q.step (.fill config id r) = (q, .answer (.ok d.document))) ∧
    (∀ id, ∃ q' n, q.step (.invalidate id) = (q', .dropped n) ∧
      (∀ key, q'.shelf.documents.get? key =
        (q.shelf.documents.get? key).filter (·.schemaId != id)) ∧
      n = q.shelf.kept.countP (·.schemaId == id) ∧
      q'.shelf.kept = q.shelf.kept.filter (·.schemaId != id) ∧
      q'.shelf.order = q'.shelf.kept.map (·.key)) ∧
    Store.run { shared } calls = (q.store, ((ofShared shared).run calls).2) := by
  intro q
  have hempty : (ofShared shared).Sound :=
    ⟨Shelf.tidy_empty, Nat.zero_le _, fun key d hd => by cases hd⟩
  have hnone : FirstOut [] (ofShared shared).shelf.kept := .nil
  obtain ⟨hsound, hfirst⟩ := run_inv hempty hnone calls
  refine ⟨hsound, hsound.tidy.map_key_kept, hfirst, fun config id r d hd => ?_, fun id => ?_, ?_⟩
  · rw [step, fill_of_get? hd]
  · obtain ⟨htidy, -, hcount⟩ := invalidate_eq hsound.tidy id
    exact ⟨_, _, rfl, fun key => Table.get?_filter .., hcount, (hsound.tidy.without id).2,
      htidy.map_key_kept.symm⟩
  · exact (run_eq hempty.tidy calls).2

/-- Two requests for a store with room for one document. -/
def pushingOut : List Call :=
  [.put blankImport, .withCapacity 1, .fill {} "s" {}, .fill {} "s" { variant := some "v" }]

theorem run_sound_pushingOut :
    let q := ((ofShared .empty).run pushingOut).1
    q.shelf.order = [Document.cacheKey "s" { variant := some "v" }] ∧
      q.shelf.documents.size = 1 ∧
      (∃ d, q.step (.fill {} "s" { variant := some "v" }) = (q, .answer (.ok d))) ∧
      ∃ q', q.step (.invalidate "s") = (q', .dropped 1) := by
  intro q
  have horder : q.shelf.order = [Document.cacheKey "s" { variant := some "v" }] := by
    decide +kernel
  obtain ⟨hsound, -, -, hhit, hinvalidate, -⟩ := run_sound .empty pushingOut
  have hmem : Document.cacheKey "s" { variant := some "v" } ∈ q.shelf.order := by
    rw [horder]
    exact List.mem_singleton_self _
  obtain ⟨d, hd⟩ := hsound.tidy.exists_get? hmem
  obtain ⟨q', n, hstep, -, hcount, -⟩ := hinvalidate "s"
  have hn : n = 1 := by
    rw [hcount]
    decide +kernel
  refine ⟨horder, ?_, ⟨d.document, hhit {} "s" _ d hd⟩, q', hn ▸ hstep⟩
  rw [hsound.tidy.size_eq]
  exact congrArg List.length horder

end Queued

end VisualTemplate.Store
