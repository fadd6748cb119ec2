import VisualTemplate.FieldPath
import VisualTemplate.Inference.Heuristic
/-!
Bindings inferred from the texts of a document, one after another.

Among the rules that match a text the first one that is free is chosen: one with an open slot, or
one that has not been chosen before. If none is free, the first that matches is chosen again. Only
a text that no rule matches is left to the heuristics.
-/

namespace VisualTemplate

/-- How a rule finds its text: a literal, or any partial cut of a text in three. -/
inductive Matcher where
  | literal (piece : List Char)
  | pattern (f : Finder)

/-- What stands before, in and behind the place that a rule finds. -/
def Matcher.split? : Matcher → List Char → Option (List Char × List Char × List Char)
  | .literal piece, text =>
    (Text.cutAround piece text).map fun (front, back) => (front, piece, back)
  | .pattern f, text =>
    match f.split? text with
    | some (front, found, back) => if found.isEmpty then none else some (front, found, back)
    | none => none

structure Rule where
  field : String
  kind : BindingKind
  matcher : Matcher
  /-- The field takes the next entry of a list wherever it occurs. -/
  isOpen : Bool
  /-- The rule has been chosen before. -/
  claimed : Bool := false

/-- The rules with what they have claimed so far, and the settings of the heuristics. -/
structure Inference where
  rules : List Rule
  markers : List String
  fields : HeuristicFields

namespace Inference

variable [Engine]

def ruleOf (r : ReplacementRule) : Except Error Rule :=
  match FieldPath.ofText? r.field with
  | none => .error (.config (.invalidRuleField r.field))
  | some path =>
    match r.pattern with
    | .literal text =>
      if text.isEmpty then .error (.config (.emptyLiteral r.field))
      else .ok ⟨r.field, r.kind, .literal text.toList, path.hasSlot, false⟩
    | .regex text =>
      match Engine.finder? text with
      | none => .error (.config (.invalidPattern text))
      | some f => .ok ⟨r.field, r.kind, .pattern f, path.hasSlot, false⟩

def rulesOf : List ReplacementRule → Except Error (List Rule)
  | [] => .ok []
  | r :: rs => do
    let rule ← ruleOf r
    .ok (rule :: (← rulesOf rs))

def ofConfig (c : MarkupConfig) : Except Error Inference := do
  let rules ← rulesOf c.replacements
  match (TextClass.all.map (TextClass.field c.heuristicFields)).find? fun f =>
      (FieldPath.ofText? f).isNone with
  | some field => .error (.config (.invalidHeuristicField field))
  | none => .ok ⟨rules, c.placeholderMarkers, c.heuristicFields⟩

/-- A rule that matches a text: its place among the rules and the literal that it found. -/
structure Candidate where
  place : Nat
  rule : Rule
  found : List Char

def candidates (text : List Char) : Nat → List Rule → List Candidate
  | _, [] => []
  | i, r :: rs =>
    match r.matcher.split? text with
    | some (_, found, _) => ⟨i, r, found⟩ :: candidates text (i + 1) rs
    | none => candidates text (i + 1) rs

/-- The rule that is chosen for a text. -/
def choose? (s : Inference) (text : List Char) : Option Candidate :=
  let cs := candidates text 0 s.rules
  (cs.find? fun c => c.rule.isOpen || !c.rule.claimed).or cs.head?

def claim (s : Inference) (place : Nat) : Inference :=
  { s with rules := s.rules.modify place fun r => { r with claimed := true } }

/-- The binding of the next text of a document. -/
def infer (s : Inference) (text : String) : Option Binding × Inference :=
  let cs := Text.trim text.toList
  if cs.isEmpty then (none, s)
  else match s.choose? cs with
    | some c => (some ⟨c.rule.field, c.rule.kind, some (.ofList c.found)⟩, s.claim c.place)
    | none =>
      ((TextClass.ofText? s.markers cs).map fun k =>
        ⟨k.field s.fields, .text, some (.ofList cs)⟩, s)

end Inference

end VisualTemplate
