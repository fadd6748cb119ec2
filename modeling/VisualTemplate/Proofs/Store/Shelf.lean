import Mathlib.Data.List.Basic
import Mathlib.Data.List.Nodup
import VisualTemplate.Proofs.Store.Session
import VisualTemplate.Proofs.Table
/-!
Kept documents in a table, with a queue of their keys.

A document is found in the table and goes by the queue, so each call that changes one must change
the other. As long as the queue holds each key of the table once, a store with both is a store with
a list of documents: every call makes the same step and gives the same reply.
-/

namespace VisualTemplate

namespace Table

variable {α : Type}

/-- The entries that satisfy a condition. -/
def filter (t : Table α) (p : α → Bool) : Table α :=
  ⟨t.entries.filter fun e => p e.2, t.sorted.sublist List.filter_sublist⟩

@[simp] lemma get?_filter (t : Table α) (p : α → Bool) (key : String) :
    (t.filter p).get? key = (t.get? key).filter p := by
  ext a
  rw [← mem_entries_iff, filter, List.mem_filter, mem_entries_iff, Option.filter_eq_some_iff]

end Table

namespace Store

/-- A document of the table. -/
structure Shelved where
  schemaId : String
  document : Document

structure Shelf where
  documents : Table Shelved := .empty
  /-- The keys of the documents, the oldest first. -/
  order : List String := []

namespace Shelf

def evict (n : Nat) (documents : Table Shelved) : List String → Shelf
  | [] => ⟨documents, []⟩
  | key :: order =>
    if documents.size ≤ n then ⟨documents, key :: order⟩
    else evict n (documents.erase key) order

/-- Drops the documents of the oldest keys until so many documents are left. -/
def evictTo (x : Shelf) (n : Nat) : Shelf := evict n x.documents x.order

/-- Puts a new document at the end. -/
def push (x : Shelf) (key : String) (d : Shelved) : Shelf :=
  ⟨x.documents.insert key d, x.order ++ [key]⟩

/-- Drops the documents of a schema. -/
def without (x : Shelf) (id : String) : Shelf :=
  let documents := x.documents.filter (·.schemaId != id)
  ⟨documents, x.order.filter documents.contains⟩

/-- The queue holds the keys of the table, each once. -/
structure Tidy (x : Shelf) : Prop where
  nodup : x.order.Nodup
  mem_order_iff : ∀ key, key ∈ x.order ↔ x.documents.contains key = true

/-- The documents in the order of the queue. -/
def kept (x : Shelf) : List Kept :=
  x.order.filterMap fun key => (x.documents.get? key).map fun d => ⟨key, d.schemaId, d.document⟩

variable {x : Shelf} {key id : String} {d : Shelved}

lemma tidy_empty : Tidy {} := ⟨List.nodup_nil, fun key => by simp [Table.contains]⟩

lemma mem_kept {k : Kept} :
    k ∈ x.kept ↔ k.key ∈ x.order ∧ x.documents.get? k.key = some ⟨k.schemaId, k.document⟩ := by
  simp only [kept, List.mem_filterMap, Option.map_eq_some_iff]
  constructor
  · rintro ⟨key, hkey, d, hd, rfl⟩
    exact ⟨hkey, hd⟩
  · rintro ⟨hkey, hd⟩
    exact ⟨k.key, hkey, _, hd, rfl⟩

/-- What is kept hangs only on what the table answers for the keys of the queue. -/
lemma kept_congr {documents documents' : Table Shelved} {order : List String}
    (h : ∀ key ∈ order, documents.get? key = documents'.get? key) :
    kept ⟨documents, order⟩ = kept ⟨documents', order⟩ :=
  List.filterMap_congr fun key hkey => by rw [h key hkey]

namespace Tidy

lemma exists_get? (h : x.Tidy) (hkey : key ∈ x.order) : ∃ d, x.documents.get? key = some d :=
  Table.contains_iff.1 ((h.mem_order_iff key).1 hkey)

lemma mem_order (h : x.Tidy) (hd : x.documents.get? key = some d) : key ∈ x.order :=
  (h.mem_order_iff key).2 (Table.contains_iff.2 ⟨d, hd⟩)

lemma notMem_order (h : x.Tidy) (hd : x.documents.get? key = none) : key ∉ x.order := by
  intro hkey
  obtain ⟨d, hd'⟩ := h.exists_get? hkey
  rw [hd] at hd'
  cases hd'

lemma size_eq (h : x.Tidy) : x.documents.size = x.order.length := by
  have hperm : x.order.Perm x.documents.names := by
    refine (List.perm_ext_iff_of_nodup h.nodup x.documents.nodup_names).2 fun key => ?_
    rw [h.mem_order_iff, Table.mem_names_iff, Table.contains_iff]
  rw [hperm.length_eq, Table.length_names]

lemma map_key_kept (h : x.Tidy) : x.kept.map (·.key) = x.order := by
  have hsome (key : String) (hkey : key ∈ x.order) :
      ((x.documents.get? key).map fun d => (⟨key, d.schemaId, d.document⟩ : Kept)).map (·.key) =
        some key := by
    obtain ⟨d, hd⟩ := h.exists_get? hkey
    rw [hd]
    rfl
  rw [kept, List.map_filterMap, List.filterMap_congr hsome, List.filterMap_some]

lemma length_kept (h : x.Tidy) : x.kept.length = x.documents.size := by
  rw [h.size_eq, ← h.map_key_kept, List.length_map]

/-- Looking for a document in the queue finds the one of the table. -/
lemma find?_kept (h : x.Tidy) (key : String) :
    x.kept.find? (·.key == key) =
      (x.documents.get? key).map fun d => ⟨key, d.schemaId, d.document⟩ := by
  cases hd : x.documents.get? key with
  | none =>
    refine List.find?_eq_none.2 fun k hk hkey => h.notMem_order hd ?_
    rw [← show k.key = key by simpa using hkey]
    exact (mem_kept.1 hk).1
  | some d =>
    -- some document with the key is found, and the table has only one
    have hmem : (⟨key, d.schemaId, d.document⟩ : Kept) ∈ x.kept :=
      mem_kept.2 ⟨h.mem_order hd, hd⟩
    have hsome : (x.kept.find? (·.key == key)).isSome := List.find?_isSome.2 ⟨_, hmem, by simp⟩
    obtain ⟨k, hk⟩ := Option.isSome_iff_exists.1 hsome
    have hkey : k.key = key := by simpa using List.find?_some hk
    have hget := (mem_kept.1 (List.mem_of_find?_eq_some hk)).2
    rw [hkey, hd] at hget
    rw [hk, ← hkey, Option.map_some, Option.some.inj hget]

/-! ### What each change does to the documents in order -/

lemma kept_cons {documents : Table Shelved} {order : List String}
    (h : Tidy ⟨documents, key :: order⟩) : ∃ k : Kept, k.key = key ∧
      kept ⟨documents, key :: order⟩ = k :: kept ⟨documents, order⟩ := by
  obtain ⟨d, hd⟩ := h.exists_get? List.mem_cons_self
  refine ⟨⟨key, d.schemaId, d.document⟩, rfl, ?_⟩
  rw [kept, List.filterMap_cons_some (by rw [hd]; rfl)]
  rfl

lemma erase {documents : Table Shelved} {order : List String}
    (h : Tidy ⟨documents, key :: order⟩) : Tidy ⟨documents.erase key, order⟩ := by
  obtain ⟨hkey, horder⟩ := List.nodup_cons.1 h.nodup
  refine ⟨horder, fun other => ?_⟩
  rw [Table.contains, Table.get?_erase]
  by_cases hother : other = key
  · rw [if_pos hother, hother]
    exact iff_of_false hkey (by simp)
  · rw [if_neg hother]
    exact (List.mem_cons.trans (or_iff_right hother)).symm.trans (h.mem_order_iff other)

lemma evict (n : Nat) {documents : Table Shelved} {order : List String}
    (h : Tidy ⟨documents, order⟩) : (Shelf.evict n documents order).Tidy ∧
      (Shelf.evict n documents order).kept = latest n (kept ⟨documents, order⟩) := by
  induction order generalizing documents with
  | nil => exact ⟨h, by simp [Shelf.evict, kept, latest]⟩
  | cons key order ih =>
    have hlength := h.length_kept
    obtain ⟨k, -, hcons⟩ := h.kept_cons
    unfold Shelf.evict
    split
    · next hle =>
      exact ⟨h, by rw [latest, Nat.sub_eq_zero_of_le (hlength ▸ hle), List.drop_zero]⟩
    · next hlt =>
      obtain ⟨htidy, hkept⟩ := ih h.erase
      -- the key that goes does not stand in the rest of the queue
      have herase : kept ⟨documents.erase key, order⟩ = kept ⟨documents, order⟩ := by
        refine kept_congr fun other hother => ?_
        rw [Table.get?_erase, if_neg]
        rintro rfl
        exact (List.nodup_cons.1 h.nodup).1 hother
      rw [hcons] at hlength
      simp only [List.length_cons] at hlength
      refine ⟨htidy, ?_⟩
      rw [hkept, herase, hcons, latest, latest, List.length_cons,
        Nat.sub_add_comm (by omega : n ≤ (kept ⟨documents, order⟩).length), List.drop_succ_cons]

lemma evictTo (h : x.Tidy) (n : Nat) :
    (x.evictTo n).Tidy ∧ (x.evictTo n).kept = latest n x.kept := evict n h

lemma push (h : x.Tidy) (hkey : key ∉ x.order) :
    (x.push key d).Tidy ∧ (x.push key d).kept = x.kept ++ [⟨key, d.schemaId, d.document⟩] := by
  refine ⟨⟨?_, fun other => ?_⟩, ?_⟩
  · exact List.nodup_append.2 ⟨h.nodup, List.nodup_singleton _, by
      rintro a ha b hb rfl
      exact hkey (List.mem_singleton.1 hb ▸ ha)⟩
  · rw [Shelf.push, List.mem_append, List.mem_singleton, h.mem_order_iff, Table.contains,
      Table.contains, Table.get?_insert]
    by_cases hother : other = key <;> simp [hother]
  · have hold : kept ⟨x.documents.insert key d, x.order⟩ = x.kept := by
      refine kept_congr fun other hother => ?_
      rw [Table.get?_insert, if_neg]
      rintro rfl
      exact hkey hother
    rw [← hold, Shelf.push, kept, List.filterMap_append]
    simp [kept]

lemma without (h : x.Tidy) (id : String) : (x.without id).Tidy ∧
    (x.without id).kept = x.kept.filter (·.schemaId != id) := by
  have hcontains (key : String) : (x.documents.filter (·.schemaId != id)).contains key = true →
      key ∈ x.order := by
    rw [Table.contains_iff, Table.get?_filter]
    rintro ⟨d, hd⟩
    exact h.mem_order (Option.filter_eq_some_iff.1 hd).1
  refine ⟨⟨h.nodup.filter _, fun key => ?_⟩, ?_⟩
  · exact List.mem_filter.trans ⟨And.right, fun hkey => ⟨hcontains key hkey, hkey⟩⟩
  · rw [kept, Shelf.without, List.filterMap_filter, kept, List.filter_filterMap]
    refine List.filterMap_congr fun key _ => ?_
    rw [Table.contains, Table.get?_filter]
    cases x.documents.get? key with
    | none => rfl
    | some d => by_cases hd : d.schemaId = id <;> simp [hd, Option.filter]

end Tidy

end Shelf

/-! ### Stores with a table and a queue -/

/-- A call on a store, with the configuration that a fill compiles with. -/
inductive Call where
  | put (i : Import)
  | remove (id : String)
  | invalidate (id : String)
  | clearCache
  | withCapacity (n : Nat)
  | fill (config : CompileConfig) (id : String) (r : FillRequest)

inductive Reply where
  | done
  /-- The schema that was replaced or removed. -/
  | previous (schema : Option Schema)
  /-- How many documents were dropped. -/
  | dropped (n : Nat)
  | answer (a : Answer)

/-- One call, with its reply. -/
def step (s : Store) : Call → Store × Reply
  | .put i => (s.put i, .previous (s.schema? i.schema.id))
  | .remove id => (s.remove id, .previous (s.schema? id))
  | .invalidate id => (s.invalidate id, .dropped (s.keptOf id))
  | .clearCache => (s.clearCache, .done)
  | .withCapacity n => (s.withCapacity n, .done)
  | .fill config id r => ((s.fill config id r).2, .answer (s.fill config id r).1)

/-- Calls one after another, with their replies in order. -/
def run (s : Store) : List Call → Store × List Reply
  | [] => (s, [])
  | c :: cs => (((s.step c).1.run cs).1, (s.step c).2 :: ((s.step c).1.run cs).2)

/-- A store whose documents are in a table, with a queue of their keys. -/
structure Queued where
  schemas : Table Stored := .empty
  shared : Assets := .empty
  shelf : Shelf := {}
  capacity : Nat := 64

namespace Queued

def withCapacity (q : Queued) (n : Nat) : Queued :=
  { q with capacity := n, shelf := q.shelf.evictTo n }

/-- Drops the documents of a schema and counts them. -/
def invalidate (q : Queued) (id : String) : Queued × Nat :=
  let shelf := q.shelf.without id
  ({ q with shelf }, q.shelf.documents.size - shelf.documents.size)

def clearCache (q : Queued) : Queued := { q with shelf := {} }

def put (q : Queued) (i : Import) : Queued :=
  let q := (q.invalidate i.schema.id).1
  { q with schemas := q.schemas.insert i.schema.id ⟨i.schema, i.assets⟩ }

def remove (q : Queued) (id : String) : Queued :=
  let q := (q.invalidate id).1
  { q with schemas := q.schemas.erase id }

def schema? (q : Queued) (id : String) : Option Schema := (q.schemas.get? id).map (·.schema)

/-- Makes room for a document and keeps it, if any may be kept. -/
def keep (q : Queued) (key : String) (d : Shelved) : Queued :=
  if q.capacity = 0 then q
  else { q with shelf := (q.shelf.evictTo (q.capacity - 1)).push key d }

def fill (q : Queued) (config : CompileConfig) (id : String) (r : FillRequest) :
    Answer × Queued :=
  let key := Document.cacheKey id r
  match q.shelf.documents.get? key with
  | some d => (.ok d.document, q)
  | none =>
    match Bare.fill ⟨q.schemas, q.shared, config⟩ id r with
    | .ok d => (.ok d, q.keep key ⟨id, d⟩)
    | .error e => (.error e, q)

def step (q : Queued) : Call → Queued × Reply
  | .put i => (q.put i, .previous (q.schema? i.schema.id))
  | .remove id => (q.remove id, .previous (q.schema? id))
  | .invalidate id => ((q.invalidate id).1, .dropped (q.invalidate id).2)
  | .clearCache => (q.clearCache, .done)
  | .withCapacity n => (q.withCapacity n, .done)
  | .fill config id r => ((q.fill config id r).2, .answer (q.fill config id r).1)

def run (q : Queued) : List Call → Queued × List Reply
  | [] => (q, [])
  | c :: cs => (((q.step c).1.run cs).1, (q.step c).2 :: ((q.step c).1.run cs).2)

/-- The store with the same documents in a list. -/
def store (q : Queued) : Store := ⟨q.schemas, q.shared, q.shelf.kept, q.capacity⟩

variable {q : Queued}

lemma invalidate_eq (h : q.shelf.Tidy) (id : String) : (q.invalidate id).1.shelf.Tidy ∧
    (q.invalidate id).1.store = q.store.invalidate id ∧
    (q.invalidate id).2 = q.store.keptOf id := by
  obtain ⟨htidy, hkept⟩ := h.without id
  refine ⟨htidy, ?_, ?_⟩
  · simp only [store, invalidate, Store.invalidate, hkept]
  · -- the table is counted before and after; what is left is of other schemas
    have hsplit := q.shelf.kept.length_eq_countP_add_countP (·.schemaId == id)
    have hrest : (q.shelf.without id).documents.size =
        q.shelf.kept.countP (fun k => ¬ (k.schemaId == id) = true) := by
      rw [← htidy.length_kept, hkept, ← List.countP_eq_length_filter]
      congr
      funext k
      by_cases hk : k.schemaId = id <;> simp [hk]
    simp only [invalidate, hrest, ← h.length_kept, keptOf, store]
    omega

lemma keep_eq (h : q.shelf.Tidy) {key : String} (hkey : key ∉ q.shelf.order) (d : Shelved) :
    (q.keep key d).shelf.Tidy ∧
    (q.keep key d).store = q.store.keep ⟨key, d.schemaId, d.document⟩ := by
  unfold keep Store.keep
  split
  · next hroom => exact ⟨h, by rw [if_pos (by exact hroom)]⟩
  · next hroom =>
    rw [if_neg (by exact hroom)]
    obtain ⟨htidy, hkept⟩ := h.evictTo (q.capacity - 1)
    have hkey' : key ∉ (q.shelf.evictTo (q.capacity - 1)).order := by
      rw [← htidy.map_key_kept, hkept]
      rw [← h.map_key_kept] at hkey
      exact fun hmem => hkey (List.map_subset _ (List.drop_subset _ _) hmem)
    exact ⟨(htidy.push hkey').1, by simp only [store, (htidy.push hkey').2, hkept]⟩

lemma fill_eq (h : q.shelf.Tidy) (config : CompileConfig) (id : String) (r : FillRequest) :
    (q.fill config id r).2.shelf.Tidy ∧
    q.store.fill config id r = ((q.fill config id r).1, (q.fill config id r).2.store) := by
  have hfind := h.find?_kept (Document.cacheKey id r)
  unfold fill Store.fill
  simp only [store] at hfind ⊢
  rw [hfind]
  cases hd : q.shelf.documents.get? (Document.cacheKey id r) with
  | some d => exact ⟨h, rfl⟩
  | none =>
    have hcompile : q.store.compile config id r = Bare.fill ⟨q.schemas, q.shared, config⟩ id r :=
      rfl
    simp only [store] at hcompile
    rw [Option.map_none, hcompile]
    cases hc : Bare.fill ⟨q.schemas, q.shared, config⟩ id r with
    | ok d =>
      obtain ⟨htidy, hkeep⟩ := keep_eq h (h.notMem_order hd) ⟨id, d⟩
      exact ⟨htidy, congrArg (Prod.mk _) hkeep.symm⟩
    | error e => exact ⟨h, rfl⟩

/-- A tidy store makes the steps of the store with the same documents in a list. -/
lemma step_eq (h : q.shelf.Tidy) (c : Call) : (q.step c).1.shelf.Tidy ∧
    q.store.step c = ((q.step c).1.store, (q.step c).2) := by
  cases c with
  | put i =>
    obtain ⟨htidy, hstore, -⟩ := invalidate_eq h i.schema.id
    refine ⟨htidy, Prod.ext ?_ rfl⟩
    simp only [Store.step, Store.put, ← hstore]
    rfl
  | remove id =>
    obtain ⟨htidy, hstore, -⟩ := invalidate_eq h id
    refine ⟨htidy, Prod.ext ?_ rfl⟩
    simp only [Store.step, Store.remove, ← hstore]
    rfl
  | invalidate id =>
    obtain ⟨htidy, hstore, hcount⟩ := invalidate_eq h id
    exact ⟨htidy, by rw [step, hstore, hcount, Store.step]⟩
  | clearCache => exact ⟨Shelf.tidy_empty, rfl⟩
  | withCapacity n =>
    obtain ⟨htidy, hkept⟩ := h.evictTo n
    refine ⟨htidy, Prod.ext ?_ rfl⟩
    simp only [Store.step, Store.withCapacity, step, withCapacity, store, hkept]
  | fill config id r =>
    obtain ⟨htidy, hfill⟩ := fill_eq h config id r
    exact ⟨htidy, by rw [Store.step, hfill, step]⟩

lemma run_eq (h : q.shelf.Tidy) (cs : List Call) : (q.run cs).1.shelf.Tidy ∧
    q.store.run cs = ((q.run cs).1.store, (q.run cs).2) := by
  induction cs generalizing q with
  | nil => exact ⟨h, rfl⟩
  | cons c cs ih =>
    obtain ⟨htidy, hstep⟩ := step_eq h c
    obtain ⟨htidy', hrun⟩ := ih htidy
    exact ⟨htidy', by rw [Store.run, hstep, hrun, run]⟩

end Queued

end Store

end VisualTemplate
