import VisualTemplate.Node
/-!
Variants: named lists of nodes to hide or to show.
-/

namespace VisualTemplate

open Json

inductive Visibility where
  | hide
  | reveal
  deriving DecidableEq, Repr

def Visibility.word : Visibility → String
  | hide => "hide"
  | reveal => "show"

def Visibility.isVisible : Visibility → Bool
  | hide => false
  | reveal => true

def Visibility.decoder : Decoder Visibility := .oneOf (wordsOf word [.hide, .reveal]) none

structure Override where
  nodeId : String
  operation : Visibility
  deriving DecidableEq, Repr

structure Variant where
  id : String
  name : String
  overrides : List Override := []
  deriving DecidableEq, Repr

def Override.toValue (o : Override) : Value :=
  .object [("nodeId", .string o.nodeId), ("operation", .string o.operation.word)]

def Override.decoder : Decoder Override :=
  .record (mk <$> .required "nodeId" .string <*> .required "operation" Visibility.decoder)

namespace Variant

def toValue (v : Variant) : Value :=
  .object [("id", .string v.id), ("name", .string v.name),
    ("overrides", .array (v.overrides.map (·.toValue)))]

def decoder : Decoder Variant :=
  .record (mk <$> .required "id" .string <*> .required "name" .string
    <*> .optional "overrides" Override.decoder.list [])

/-- The visibility that a list of overrides leaves a node with; the last one for it counts. -/
def visibilityOf (os : List Override) (id : String) (stored : Bool) : Bool :=
  os.foldl (fun v o => if o.nodeId = id then o.operation.isVisible else v) stored

mutual

/-- A node with a list of overrides applied to it and all below it. -/
def applyTo (os : List Override) : Node → Node
  | .container h l cs =>
    .container { h with visible := visibilityOf os h.id h.visible } l (applyToAll os cs)
  | .leaf h l => .leaf { h with visible := visibilityOf os h.id h.visible } l

def applyToAll (os : List Override) : List Node → List Node
  | [] => []
  | n :: ns => applyTo os n :: applyToAll os ns

end

end Variant

end VisualTemplate
