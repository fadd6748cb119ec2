import Mathlib.Tactic.Common
import VisualTemplate.Store
/-!
Runs of calls on a store, beside the same calls on a store that keeps no documents.

A session is a store with the configuration that its documents are compiled with. A bare session
holds the same schemas and compiles every document afresh.
-/

namespace VisualTemplate.Store

/-- A call on a store. -/
inductive Operation where
  | put (i : Import)
  | remove (id : String)
  | invalidate (id : String)
  | clearCache
  | withCapacity (n : Nat)
  | fill (id : String) (r : FillRequest)
  /-- Another configuration, with all kept documents dropped. -/
  | recompile (config : CompileConfig)

abbrev Answer := Except Error Document

structure Session where
  store : Store
  config : CompileConfig

namespace Session

/-- One call, with its answer if it is a fill. -/
def step (x : Session) : Operation → Session × Option Answer
  | .put i => ({ x with store := x.store.put i }, none)
  | .remove id => ({ x with store := x.store.remove id }, none)
  | .invalidate id => ({ x with store := x.store.invalidate id }, none)
  | .clearCache => ({ x with store := x.store.clearCache }, none)
  | .withCapacity n => ({ x with store := x.store.withCapacity n }, none)
  | .fill id r =>
    ({ x with store := (x.store.fill x.config id r).2 }, some (x.store.fill x.config id r).1)
  | .recompile config => (⟨x.store.clearCache, config⟩, none)

/-- Calls one after another, with the answers of the fills in order. -/
def run (x : Session) : List Operation → Session × List Answer
  | [] => (x, [])
  | op :: ops =>
    (((x.step op).1.run ops).1, (x.step op).2.toList ++ ((x.step op).1.run ops).2)

end Session

/-- Schemas with their assets and a configuration, and nothing that is kept from a fill. -/
structure Bare where
  schemas : Table Stored
  shared : Assets
  config : CompileConfig

namespace Bare

/-- The document of the schema that is stored now. -/
def fill (b : Bare) (id : String) (r : FillRequest) : Answer :=
  match b.schemas.get? id with
  | none => .error (.unknownSchema id)
  | some stored =>
    Document.compile b.config stored.schema r (.layered stored.assets.get? b.shared.get?)

def step (b : Bare) : Operation → Bare × Option Answer
  | .put i => ({ b with schemas := b.schemas.insert i.schema.id ⟨i.schema, i.assets⟩ }, none)
  | .remove id => ({ b with schemas := b.schemas.erase id }, none)
  | .invalidate _ => (b, none)
  | .clearCache => (b, none)
  | .withCapacity _ => (b, none)
  | .fill id r => (b, some (b.fill id r))
  | .recompile config => ({ b with config := config }, none)

def run (b : Bare) : List Operation → Bare × List Answer
  | [] => (b, [])
  | op :: ops =>
    (((b.step op).1.run ops).1, (b.step op).2.toList ++ ((b.step op).1.run ops).2)

end Bare

/-- A session without its kept documents. -/
def Session.bare (x : Session) : Bare := ⟨x.store.schemas, x.store.shared, x.config⟩

/-- The requests that are filled in a run, with the schemas they are for. -/
def requests (ops : List Operation) : List (String × FillRequest) :=
  ops.filterMap fun
    | .fill id r => some (id, r)
    | _ => none

/-! ### What each call leaves alone -/

section

variable (s : Store)

@[simp] lemma schemas_invalidate (id : String) : (s.invalidate id).schemas = s.schemas := rfl
@[simp] lemma shared_invalidate (id : String) : (s.invalidate id).shared = s.shared := rfl
@[simp] lemma schemas_clearCache : s.clearCache.schemas = s.schemas := rfl
@[simp] lemma shared_clearCache : s.clearCache.shared = s.shared := rfl
@[simp] lemma schemas_withCapacity (n : ℕ) : (s.withCapacity n).schemas = s.schemas := rfl
@[simp] lemma shared_withCapacity (n : ℕ) : (s.withCapacity n).shared = s.shared := rfl
@[simp] lemma shared_put (i : Import) : (s.put i).shared = s.shared := rfl
@[simp] lemma shared_remove (id : String) : (s.remove id).shared = s.shared := rfl

@[simp] lemma schemas_put (i : Import) :
    (s.put i).schemas = s.schemas.insert i.schema.id ⟨i.schema, i.assets⟩ := rfl

@[simp] lemma schemas_remove (id : String) : (s.remove id).schemas = s.schemas.erase id := rfl

@[simp] lemma schemas_keep (k : Kept) : (s.keep k).schemas = s.schemas := by
  unfold keep
  split <;> rfl

@[simp] lemma shared_keep (k : Kept) : (s.keep k).shared = s.shared := by
  unfold keep
  split <;> rfl

variable (config : CompileConfig) (id : String) (r : FillRequest)

/-- A fill answers with a kept document of its key and changes nothing, or it compiles; then it
keeps the new document, or it fails and changes nothing. -/
lemma fill_cases :
    (∃ k ∈ s.cache, k.key = Document.cacheKey id r ∧ s.fill config id r = (.ok k.document, s)) ∨
    (∃ d, s.compile config id r = .ok d ∧
      s.fill config id r = (.ok d, s.keep ⟨Document.cacheKey id r, id, d⟩)) ∨
    (∃ e, s.compile config id r = .error e ∧ s.fill config id r = (.error e, s)) := by
  cases hf : s.cache.find? (·.key == Document.cacheKey id r) with
  | some k =>
    have hk : k.key = Document.cacheKey id r := by simpa using List.find?_some hf
    exact .inl ⟨k, List.mem_of_find?_eq_some hf, hk, by simp only [fill, hf]⟩
  | none =>
    cases hc : s.compile config id r with
    | ok d => exact .inr (.inl ⟨d, rfl, by simp only [fill, hf, hc]⟩)
    | error e => exact .inr (.inr ⟨e, rfl, by simp only [fill, hf, hc]⟩)

@[simp] lemma schemas_fill : (s.fill config id r).2.schemas = s.schemas := by
  obtain ⟨k, -, -, h⟩ | ⟨d, -, h⟩ | ⟨e, -, h⟩ := fill_cases s config id r <;> simp [h]

@[simp] lemma shared_fill : (s.fill config id r).2.shared = s.shared := by
  obtain ⟨k, -, -, h⟩ | ⟨d, -, h⟩ | ⟨e, -, h⟩ := fill_cases s config id r <;> simp [h]

/-- A fill that fails changes nothing. -/
lemma fill_error {e : Error} (he : (s.fill config id r).1 = .error e) :
    (s.fill config id r).2 = s := by
  obtain ⟨k, -, -, h⟩ | ⟨d, -, h⟩ | ⟨e', -, h⟩ := fill_cases s config id r
  · simp [h] at he
  · simp [h] at he
  · rw [h]

end

/-- Without its documents, a session makes the steps of a bare one. -/
lemma bare_step (x : Session) (op : Operation) :
    (x.step op).1.bare = (x.bare.step op).1 := by
  cases op <;> simp [Session.step, Bare.step, Session.bare]

end VisualTemplate.Store
