import VisualTemplate.Document
import VisualTemplate.Import
/-!
A store of schemas and the documents that were last compiled from them.

A document is kept under the key of its request, the oldest first. When the store would hold more
documents than it may, the oldest goes. A schema's documents go when it is replaced or removed.
-/

namespace VisualTemplate

structure Stored where
  schema : Schema
  assets : Assets

/-- A kept document. -/
structure Kept where
  key : String
  schemaId : String
  document : Document

structure Store where
  schemas : Table Stored := .empty
  /-- Assets that every schema may refer to. -/
  shared : Assets := .empty
  /-- The kept documents, the oldest first. -/
  cache : List Kept := []
  capacity : Nat := 64

namespace Store

/-- The latest documents, so many at most. -/
def latest (n : Nat) (cache : List Kept) : List Kept := cache.drop (cache.length - n)

/-- Keeps so many documents from now on. -/
def withCapacity (s : Store) (n : Nat) : Store :=
  { s with capacity := n, cache := latest n s.cache }

/-- Drops the documents of a schema. -/
def invalidate (s : Store) (id : String) : Store :=
  { s with cache := s.cache.filter (·.schemaId != id) }

/-- How many documents of a schema are kept. -/
def keptOf (s : Store) (id : String) : Nat := s.cache.countP (·.schemaId == id)

def clearCache (s : Store) : Store := { s with cache := [] }

/-- Stores an import in place of the schema with its id. -/
def put (s : Store) (i : Import) : Store :=
  let s := s.invalidate i.schema.id
  { s with schemas := s.schemas.insert i.schema.id ⟨i.schema, i.assets⟩ }

def remove (s : Store) (id : String) : Store :=
  let s := s.invalidate id
  { s with schemas := s.schemas.erase id }

def schema? (s : Store) (id : String) : Option Schema := (s.schemas.get? id).map (·.schema)

def assets? (s : Store) (id : String) : Option Assets := (s.schemas.get? id).map (·.assets)

/-- The document of a schema for a request, compiled afresh. -/
def compile (s : Store) (config : CompileConfig) (id : String) (r : FillRequest) :
    Except Error Document :=
  match s.schemas.get? id with
  | none => .error (.unknownSchema id)
  | some stored =>
    Document.compile config stored.schema r (.layered stored.assets.get? s.shared.get?)

/-- Keeps a document, if any may be kept. -/
def keep (s : Store) (k : Kept) : Store :=
  if s.capacity = 0 then s else { s with cache := latest (s.capacity - 1) s.cache ++ [k] }

/-- The document of a schema for a request: the kept one, or a new one that is kept. -/
def fill (s : Store) (config : CompileConfig) (id : String) (r : FillRequest) :
    Except Error Document × Store :=
  let key := Document.cacheKey id r
  match s.cache.find? (·.key == key) with
  | some k => (.ok k.document, s)
  | none =>
    match s.compile config id r with
    | .ok d => (.ok d, s.keep ⟨key, id, d⟩)
    | .error e => (.error e, s)

end Store

end VisualTemplate
