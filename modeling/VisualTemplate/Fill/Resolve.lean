import VisualTemplate.Diagnostic
import VisualTemplate.Fill.Submission
/-!
Values for the bound nodes of a template.

Open slots are numbered per field in the order of the rendered nodes, so that repeated placeholders
take one list entry after another. A node without a value still takes its number.
-/

namespace VisualTemplate

/-- A value and the path that it was found at. -/
structure Resolved where
  field : String
  value : String
  deriving DecidableEq, Repr

/-- How often each field with an open slot has occurred. -/
abbrev Slots := List (String × Nat)

namespace Slots

def count (ss : Slots) (field : String) : Nat := (ss.lookup field).getD 0

def next (ss : Slots) (field : String) : Slots :=
  (field, ss.count field + 1) :: ss.filter (·.1 != field)

end Slots

/-- The path of this occurrence of a field, with its slot filled. -/
def concretePath? (ss : Slots) (field : String) : Option FieldPath × Slots :=
  match FieldPath.ofText? field with
  | none => (none, ss)
  | some p =>
    if p.hasSlot then (some (p.fillSlot (ss.count field)), ss.next field) else (some p, ss)

/-- The value of this occurrence of a field, or the field without one. -/
def resolveField (s : Submission) (ss : Slots) (field : String) : Except String Resolved × Slots :=
  match concretePath? ss field with
  | (none, ss) => (.error field, ss)
  | (some p, ss) =>
    match s.lookup p with
    | some (value, _) => (.ok ⟨p.text, value⟩, ss)
    | none => (.error p.text, ss)

/-- The values of the rendered nodes by their ids, and what has none. -/
structure Resolution where
  values : Table Resolved := .empty
  diagnostics : List Diagnostic := []

namespace Resolution

/-- One more rendered node. -/
def step (s : Submission) (state : Resolution × Slots) (n : Node) : Resolution × Slots :=
  match n.binding with
  | none => state
  | some b =>
    match resolveField s state.2 b.field with
    | (.ok v, ss) => ({ state.1 with values := state.1.values.insert n.id v }, ss)
    | (.error field, ss) =>
      ({ state.1 with diagnostics := state.1.diagnostics ++ [.unresolved field n.id] }, ss)

/-- The values for a list of top nodes. -/
def ofNodes (s : Submission) (ns : List Node) : Resolution :=
  ((Node.renderedIn ns).foldl (step s) ({}, [])).1

end Resolution

/-- The content of a text with a value in it: one occurrence of the placeholder is replaced, or all
if the content does not hold it. -/
def applyText (content : String) (placeholder : Option String) (value : String) : String :=
  match placeholder with
  | some literal =>
    if !literal.isEmpty && content.hasPiece literal then
      .ofList (Text.replaceFirst literal.toList value.toList content.toList)
    else value
  | none => value

end VisualTemplate
