import VisualTemplate.Error
import VisualTemplate.FieldPath
import VisualTemplate.Color
import VisualTemplate.Token
import VisualTemplate.Variant
/-!
Template schemas and the gate that every schema passes.

A draft collects the parts of a schema. It becomes a schema if no fault is found in it, and is
refused otherwise, with the first fault in a fixed order: the canvas, the structure, the nodes, the
stored list of bindings, the variants, the tokens.
-/

namespace VisualTemplate

inductive Version where
  /-- A list of leaves at absolute positions. -/
  | flat
  /-- A tree below one frame. -/
  | tree
  deriving DecidableEq

def Version.number : Version → Nat
  | flat => 1
  | tree => 2

/-- The parts of a schema before they are checked. -/
structure Draft where
  id : String
  title : String := ""
  canvas : Canvas
  version : Version
  root : Option Node := none
  nodes : List Node := []
  tokens : Tokens := .empty
  variants : List Variant := []
  deriving BEq

namespace Draft

/-- The root, or the nodes of a flat schema. -/
def top (d : Draft) : List Node :=
  match d.root with
  | some root => [root]
  | none => d.nodes

/-- All nodes, each before its children. -/
def preorder (d : Draft) : List Node := Node.preorders d.top

/-- Every bound node with its field and kind. -/
def bindings (d : Draft) : List BindingEntry :=
  d.preorder.filterMap fun n => n.binding.map fun b => ⟨n.id, b.field, b.kind⟩

def canvasFault? (d : Draft) : Option Error :=
  if d.canvas.isEmpty then some (.invalidCanvas d.canvas) else none

def structureFault? (d : Draft) : Option StructureFault :=
  match d.version with
  | .flat =>
    if d.root.isSome then some .rootInFlat
    else (d.nodes.find? (·.isContainer)).map fun n => .containerInFlat n.id n.kind
  | .tree =>
    match d.root with
    | none => some .rootMissing
    | some root =>
      if !d.nodes.isEmpty then some .nodesBesideRoot
      else if !root.isFrame then some (.rootNotFrame root.id root.kind)
      else ((Node.preorders root.children).find? (·.isFrame)).map fun n => .nestedFrame n.id

/-- The first entry of a list that stands in it before. -/
def firstRepeated (seen : List String) : List String → Option String
  | [] => none
  | x :: xs => if seen.contains x then some x else firstRepeated (x :: seen) xs

def idFault? (d : Draft) : Option Error :=
  (firstRepeated [] (d.preorder.map (·.id))).map .duplicateNodeId

def pathFault? (d : Draft) : Option Error :=
  (d.bindings.find? fun e => (FieldPath.ofText? e.field).isNone).map (.invalidFieldPath ·.field)

def hasNode (d : Draft) (id : String) : Bool := d.preorder.any (·.id == id)

def indexFault? (d : Draft) (index : List BindingEntry) : Option Error :=
  (index.find? fun e => !d.hasNode e.nodeId).map fun e =>
    .danglingReference e.nodeId (.indexEntry e.field)

/-- The first fault of the variants, given the ids of those before. -/
def variantsFault? (d : Draft) (seen : List String) : List Variant → Option Error
  | [] => none
  | v :: vs =>
    if seen.contains v.id then some (.structural (.duplicateVariant v.id))
    else match v.overrides.find? fun o => !d.hasNode o.nodeId with
      | some o => some (.danglingReference o.nodeId (.variant v.id))
      | none => variantsFault? d (v.id :: seen) vs

def variantFault? (d : Draft) : Option Error := d.variantsFault? [] d.variants

end Draft

namespace Tokens

/-- What is wrong with one token. -/
def fault? (ts : Tokens) (name : String) (t : Token) : Option Error :=
  match t.default_, t.derivation with
  | none, none => some (.structural (.tokenWithoutSource name))
  | some _, some _ => some (.structural (.derivedTokenWithDefault name))
  | some value, none =>
    if (Color.ofText? value).isSome then none else some (.invalidColor value.trimmed)
  | none, some d =>
    if ts.contains d.source then none else some (.structural (.unknownSource name d.source))

/-- Following derivations from a token comes to an end within so many steps. -/
def ends (ts : Tokens) : Nat → String → Bool
  | 0, name => (ts.sourceOf? name).isNone
  | n + 1, name =>
    match ts.sourceOf? name with
    | none => true
    | some source => ends ts n source

/-- The first fault of the tokens. A chain with more steps than there are tokens runs in a circle. -/
def firstFault? (ts : Tokens) : Option Error :=
  (ts.entries.findSome? fun (name, t) => ts.fault? name t).or
    ((ts.names.find? fun name => !ts.ends ts.size name).map fun name =>
      .structural (.cyclicDerivation name))

end Tokens

namespace Draft

/-- The first fault of a draft with a stored list of bindings. -/
def fault? (d : Draft) (index : List BindingEntry) : Option Error :=
  d.canvasFault?.or <| (d.structureFault?.map .structural).or <| d.idFault?.or <|
    d.pathFault?.or <| (d.indexFault? index).or <| d.variantFault?.or d.tokens.firstFault?

theorem fault?_nil {d : Draft} {index : List BindingEntry} (h : d.fault? index = none) :
    d.fault? [] = none := by
  simp only [fault?, Option.or_eq_none_iff] at h ⊢
  exact ⟨h.1, h.2.1, h.2.2.1, h.2.2.2.1, rfl, h.2.2.2.2.2⟩

end Draft

/-- A draft without a fault. -/
structure Schema where
  draft : Draft
  accepted : draft.fault? [] = none

namespace Schema

instance : BEq Schema := ⟨fun s t => s.draft == t.draft⟩

def id (s : Schema) : String := s.draft.id
def title (s : Schema) : String := s.draft.title
def canvas (s : Schema) : Canvas := s.draft.canvas
def version (s : Schema) : Version := s.draft.version
def root (s : Schema) : Option Node := s.draft.root
def tokens (s : Schema) : Tokens := s.draft.tokens
def variants (s : Schema) : List Variant := s.draft.variants
def top (s : Schema) : List Node := s.draft.top
def preorder (s : Schema) : List Node := s.draft.preorder
def bindings (s : Schema) : List BindingEntry := s.draft.bindings

def find? (s : Schema) (id : String) : Option Node := Node.find? s.top id

def variant? (s : Schema) (id : String) : Option Variant := s.variants.find? (·.id == id)

/-- The top nodes with a variant applied to them. -/
def nodesFor (s : Schema) (variant : Option String) : Except Error (List Node) :=
  match variant with
  | none => .ok s.top
  | some id =>
    match s.variant? id with
    | none => .error (.unknownVariant id)
    | some v => .ok (Variant.applyToAll v.overrides s.top)

end Schema

/-- The gate. -/
def Draft.check (d : Draft) (index : List BindingEntry) : Except Error Schema :=
  match h : d.fault? index with
  | some e => .error e
  | none => .ok ⟨d, fault?_nil h⟩

def Draft.build (d : Draft) : Except Error Schema := d.check []

end VisualTemplate
