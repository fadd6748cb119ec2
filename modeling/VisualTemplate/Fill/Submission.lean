import VisualTemplate.Error
import VisualTemplate.FieldPath
/-!
Submitted data and the look-up of fields in it.

A field is looked up among the values first and then among the dynamic fields, in each under the
text of its path and then step by step. Blank strings, lists and objects do not count as values.
-/

namespace VisualTemplate

open Json

structure Submission where
  values : Table Value := .empty
  dynamic : Table Value := .empty

/-- Where a value was found. -/
inductive Origin where
  | literal
  | dynamic
  deriving DecidableEq, Repr

namespace Submission

def toValue (s : Submission) : Value :=
  .object ((if s.dynamic.isEmpty then [] else [("dynamicFields", .object s.dynamic.entries)])
    ++ s.values.entries)

def decoder : Decoder Submission :=
  (Decoder.flattened (.optional "dynamicFields" (.table .value) .empty)
    fun fields => .ok (Table.ofList (fieldValues fields))).map fun (dynamic, values) =>
      ⟨values, dynamic⟩

/-- The text of a value that can fill a field. -/
def scalar? : Value → Option String
  | .string s => if s.isBlank then none else some s
  | .number n => some n.text
  | .bool b => some (if b then "true" else "false")
  | _ => none

/-- The value at the end of some steps. -/
def walk (v : Value) : List Segment → Option Value
  | [] => some v
  | .key k :: rest => (v.field? k).bind fun w => walk w rest
  | .index i :: rest => (v.item? i).bind fun w => walk w rest
  | .slot :: _ => none

def lookupIn (t : Table Value) (p : FieldPath) : Option String :=
  ((t.get? p.text).bind scalar?).or <|
    match p.segments with
    | .key k :: rest => ((t.get? k).bind fun v => walk v rest).bind scalar?
    | _ => none

def lookup (s : Submission) (p : FieldPath) : Option (String × Origin) :=
  match lookupIn s.values p with
  | some text => some (text, .literal)
  | none => (lookupIn s.dynamic p).map (·, .dynamic)

end Submission

/-- What one fill is given: data, a variant, and colours for tokens. -/
structure FillRequest where
  submission : Submission := {}
  variant : Option String := none
  tokens : Table String := .empty

namespace FillRequest

def toValue (r : FillRequest) : Value :=
  .ofFields [("submission", some r.submission.toValue), ("variant", r.variant.map .string),
    ("tokens", if r.tokens.isEmpty then none
      else some (.object (r.tokens.entries.map fun (k, v) => (k, .string v))))]

def decoder : Decoder FillRequest :=
  .record (mk <$> .optional "submission" Submission.decoder {} <*> .maybe "variant" .string
    <*> .optional "tokens" (.table .string) .empty)

end FillRequest

end VisualTemplate
