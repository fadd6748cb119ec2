import VisualTemplate.Json.Decode
/-!
Bindings: which field fills a node, and how.
-/

namespace VisualTemplate

/-- What a field supplies. -/
inductive BindingKind where
  | text
  | image
  | color
  deriving DecidableEq, Repr

def BindingKind.word : BindingKind → String
  | .text => "text"
  | .image => "image"
  | .color => "color"

structure Binding where
  field : String
  kind : BindingKind
  /-- The literal that the binding was inferred from; one occurrence of it is replaced. -/
  placeholder : Option String := none
  deriving DecidableEq, Repr

/-- One row of a schema's list of bound nodes. -/
structure BindingEntry where
  nodeId : String
  field : String
  kind : BindingKind
  deriving DecidableEq, Repr

open Json

/-- The words of a finite choice, each with what it stands for. -/
def wordsOf {α : Type} (word : α → String) (all : List α) : List (String × α) :=
  all.map fun a => (word a, a)

def BindingKind.decoder : Decoder BindingKind :=
  .oneOf (wordsOf word [.text, .image, .color]) none

def Binding.toValue (b : Binding) : Value :=
  .ofFields [("field", some (.string b.field)), ("kind", some (.string b.kind.word)),
    ("placeholder", b.placeholder.map .string)]

def Binding.decoder : Decoder Binding :=
  .record (mk <$> .required "field" .string <*> .required "kind" BindingKind.decoder
    <*> .maybe "placeholder" .string)

def BindingEntry.toValue (e : BindingEntry) : Value :=
  .ofFields [("nodeId", some (.string e.nodeId)), ("field", some (.string e.field)),
    ("kind", some (.string e.kind.word))]

def BindingEntry.decoder : Decoder BindingEntry :=
  .record (mk <$> .required "nodeId" .string <*> .required "field" .string
    <*> .required "kind" BindingKind.decoder)

end VisualTemplate
