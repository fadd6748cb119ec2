import VisualTemplate.Node.Wire
/-!
Conditions reported next to a result that they do not prevent.
-/

namespace VisualTemplate

inductive DiagnosticKind where
  /-- A bound field had no value; the placeholder stays. -/
  | unresolvedBinding
  /-- No vector markup was found for a mask; an ellipse is used. -/
  | maskFallback
  /-- A referenced asset is not known. -/
  | missingAsset
  /-- A variant's selector matches nothing that became a node. -/
  | unmatchedVariantSelector
  /-- A value does not suit its binding. -/
  | invalidBindingValue
  deriving DecidableEq, Repr

structure Diagnostic where
  kind : DiagnosticKind
  /-- The field, asset or selector in question. -/
  subject : String
  nodeId : Option String := none
  deriving DecidableEq, Repr

def DiagnosticKind.word : DiagnosticKind → String
  | unresolvedBinding => "unresolvedBinding"
  | maskFallback => "maskFallback"
  | missingAsset => "missingAsset"
  | unmatchedVariantSelector => "unmatchedVariantSelector"
  | invalidBindingValue => "invalidBindingValue"

namespace Diagnostic

open Json

def text (d : Diagnostic) : String :=
  match d.kind with
  | .unresolvedBinding => s!"unresolved binding: {d.subject}"
  | .maskFallback => s!"mask fallback: {d.subject} has no vector markup, using ellipse"
  | .missingAsset => s!"missing asset: {d.subject}"
  | .unmatchedVariantSelector => s!"variant selector matched no node: {d.subject}"
  | .invalidBindingValue => s!"invalid value for binding: {d.subject}"

def unresolved (field nodeId : String) : Diagnostic := ⟨.unresolvedBinding, field, some nodeId⟩

def maskFallback (nodeId : String) : Diagnostic := ⟨.maskFallback, nodeId, some nodeId⟩

def missingAsset (reference : String) (nodeId : Option String) : Diagnostic :=
  ⟨.missingAsset, reference, nodeId⟩

def invalidValue (field nodeId : String) : Diagnostic :=
  ⟨.invalidBindingValue, field, some nodeId⟩

def toValue (d : Diagnostic) : Value :=
  .ofFields [("kind", some (.string d.kind.word)), ("subject", some (.string d.subject)),
    ("nodeId", d.nodeId.map .string)]

def decoder : Decoder Diagnostic :=
  .record (mk <$> .required "kind" (.oneOf (wordsOf DiagnosticKind.word
      [.unresolvedBinding, .maskFallback, .missingAsset, .unmatchedVariantSelector,
        .invalidBindingValue]) none)
    <*> .required "subject" .string <*> .maybe "nodeId" .string)

end Diagnostic

end VisualTemplate
