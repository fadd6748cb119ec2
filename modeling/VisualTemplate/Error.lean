import VisualTemplate.Canvas
/-!
Why an import, a fill or a document is refused.
-/

namespace VisualTemplate

/-- Who refers to a node. -/
inductive Referrer where
  | variant (id : String)
  | indexEntry (field : String)
  deriving DecidableEq

def Referrer.text : Referrer → String
  | .variant id => s!"variant '{id}'"
  | .indexEntry field => s!"binding index entry for '{field}'"

/-- What is wrong with the structure of a schema. -/
inductive StructureFault where
  | rootInFlat
  | containerInFlat (id kind : String)
  | rootMissing
  | nodesBesideRoot
  | rootNotFrame (id kind : String)
  | nestedFrame (id : String)
  | duplicateVariant (id : String)
  | tokenWithoutSource (name : String)
  | derivedTokenWithDefault (name : String)
  | unknownSource (name source : String)
  | cyclicDerivation (name : String)
  deriving DecidableEq

def StructureFault.text : StructureFault → String
  | rootInFlat => "version 1 schemas have no root frame"
  | containerInFlat id kind =>
    s!"version 1 schemas are flat; node '{id}' is a {kind} container"
  | rootMissing => "version 2 schemas need a root frame"
  | nodesBesideRoot => "version 2 schemas keep all nodes under the root frame"
  | rootNotFrame id kind => s!"root '{id}' must be a frame, found {kind}"
  | nestedFrame id => s!"frame '{id}' is only allowed as the root"
  | duplicateVariant id => s!"duplicate variant id '{id}'"
  | tokenWithoutSource name => s!"token '{name}' has neither a default nor a derivation"
  | derivedTokenWithDefault name => s!"derived token '{name}' cannot store a default"
  | unknownSource name source => s!"token '{name}' derives from unknown token '{source}'"
  | cyclicDerivation name => s!"token '{name}' has a cyclic derivation"

inductive ImportFault where
  | malformedDataUri
  | invalidDataUriPayload
  | invalidPayload
  | rootCount (n : Nat)
  | noRootElement (canvas : Canvas)
  deriving DecidableEq

def ImportFault.text : ImportFault → String
  | malformedDataUri => "malformed data URI"
  | invalidDataUriPayload => "invalid base64 in data URI"
  | invalidPayload => "invalid base64 asset payload"
  | rootCount n => s!"design export must contain exactly one root node, found {n}"
  | noRootElement canvas => s!"no root element sized {canvas.text} found"

inductive ConfigFault where
  | unreadable (path reason : String)
  | invalidRuleField (field : String)
  | emptyLiteral (field : String)
  | invalidPattern (pattern : String)
  | invalidHeuristicField (field : String)
  deriving DecidableEq

def ConfigFault.text : ConfigFault → String
  | unreadable path reason => s!"cannot read {path}: {reason}"
  | invalidRuleField field => s!"invalid field path '{field}' in replacement rule"
  | emptyLiteral field => s!"empty literal for field '{field}'"
  | invalidPattern pattern => s!"invalid pattern '{pattern}'"
  | invalidHeuristicField field => s!"invalid heuristic field path '{field}'"

inductive Error where
  | duplicateNodeId (id : String)
  | danglingReference (nodeId : String) (referrer : Referrer)
  | invalidCanvas (canvas : Canvas)
  | structural (fault : StructureFault)
  | unknownToken (name : String)
  | tokenNotEditable (name : String)
  | tokenWithoutValue (name : String)
  | invalidColor (text : String)
  | unknownVariant (id : String)
  | unknownSchema (id : String)
  | invalidFieldPath (text : String)
  | importing (fault : ImportFault)
  | invalidSelector (selector : String)
  | config (fault : ConfigFault)
  | document (fault : Json.Fault)
  deriving DecidableEq

namespace Error

def message : Error → String
  | duplicateNodeId id => s!"Duplicate node id: {id}"
  | danglingReference nodeId referrer =>
    s!"Unknown node id '{nodeId}' referenced by {referrer.text}"
  | invalidCanvas canvas => s!"Invalid canvas size {canvas.text}"
  | structural fault => s!"Invalid schema structure: {fault.text}"
  | unknownToken name => s!"Unknown token: {name}"
  | tokenNotEditable name => s!"Token '{name}' is not editable"
  | tokenWithoutValue name => s!"Token '{name}' has no value"
  | invalidColor text => s!"Invalid color value: {text}"
  | unknownVariant id => s!"Unknown variant: {id}"
  | unknownSchema id => s!"Unknown schema: {id}"
  | invalidFieldPath text => s!"Invalid field path: {text}"
  | importing fault => s!"Import failed: {fault.text}"
  | invalidSelector selector => s!"Markup parse failed: invalid selector '{selector}'"
  | config fault => s!"Invalid configuration: {fault.text}"
  | document (.refused reason) => s!"Serialization failed: {reason}"
  | document _ => "Serialization failed"

/-- The error says that a schema's parts do not belong together. -/
def isInvariantViolation : Error → Bool
  | duplicateNodeId _ | danglingReference _ _ | invalidCanvas _ | structural _ => true
  | _ => false

end Error

/-- Two steps that can fail succeed just when both do. -/
theorem Except.bind_eq_ok_iff {ε α β : Type} {x : Except ε α} {f : α → Except ε β} {b : β} :
    (x >>= f) = .ok b ↔ ∃ a, x = .ok a ∧ f a = .ok b := by
  cases x <;> simp [bind, Except.bind]

/-- Two steps fail just when the first does, or the second behind it. -/
theorem Except.bind_eq_error_iff {ε α β : Type} {x : Except ε α} {f : α → Except ε β} {e : ε} :
    (x >>= f) = .error e ↔ x = .error e ∨ ∃ a, x = .ok a ∧ f a = .error e := by
  cases x <;> simp [bind, Except.bind]

/-- Decodes a whole text. -/
def Json.Decoder.parse {α : Type} (d : Json.Decoder α) (text : String) : Except Error α :=
  (d.ofText text).mapError .document

end VisualTemplate
