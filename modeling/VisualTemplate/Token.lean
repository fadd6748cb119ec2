import VisualTemplate.Json.Decode
import VisualTemplate.Binding
/-!
Named colours of a schema, stored or derived from another.
-/

namespace VisualTemplate

open Json

/-- How a derived colour follows from its source. -/
inductive Derivation where
  | lighten (source : String) (percent : Float32)
  deriving BEq

def Derivation.source : Derivation → String
  | lighten source _ => source

structure Token where
  default_ : Option String := none
  editable : Bool := false
  derivation : Option Derivation := none
  deriving BEq

abbrev Tokens := Table Token

def Derivation.toValue : Derivation → Value
  | lighten source percent =>
    .object [("op", .string "lighten"), ("from", .string source), ("percent", .single percent)]

def Derivation.decoder : Decoder Derivation :=
  .tagged "op" [("lighten", .record (lighten <$> .required "from" .string
    <*> .required "percent" .single))]

namespace Token

/-- A colour that a request may replace. -/
def ofEditable (value : String) : Token := ⟨some value, true, none⟩

def ofFixed (value : String) : Token := ⟨some value, false, none⟩

def ofLighten (source : String) (percent : Float32) : Token :=
  ⟨none, false, some (.lighten source percent)⟩

def toValue (t : Token) : Value :=
  .ofFields [("default", t.default_.map .string), ("editable", some (.bool t.editable)),
    ("derive", t.derivation.map (·.toValue))]

def decoder : Decoder Token :=
  .record (mk <$> .maybe "default" .string <*> .optional "editable" .bool false
    <*> .maybe "derive" Derivation.decoder)

end Token

namespace Tokens

def toValue (ts : Tokens) : Value := .object (ts.entries.map fun (n, t) => (n, t.toValue))

def decoder : Decoder Tokens := .table Token.decoder

/-- The name of the token that a token derives from. -/
def sourceOf? (ts : Tokens) (name : String) : Option String :=
  (ts.get? name).bind fun t => t.derivation.map Derivation.source

end Tokens

end VisualTemplate
