import VisualTemplate.Schema
/-!
Schemas as documents, and back through the gate.
-/

namespace VisualTemplate

open Json

namespace Schema

def toValue (s : Schema) : Value :=
  .ofFields [("id", some (.string s.id)), ("title", some (.string s.title)),
    ("canvas", some s.canvas.toValue), ("version", some (.nat s.version.number)),
    ("root", s.root.map (·.toValue)),
    ("nodes", if s.draft.nodes.isEmpty then none else some (.array (Node.toValues s.draft.nodes))),
    ("tokens", some s.tokens.toValue),
    ("variants", some (.array (s.variants.map (·.toValue)))),
    ("bindings", some (.array (s.bindings.map (·.toValue))))]

def toText (s : Schema) : String := s.toValue.pretty

end Schema

def Version.decoder : Decoder Version :=
  (Decoder.below 256).refine fun n =>
    match n with
    | 1 => .ok .flat
    | 2 => .ok .tree
    | n => .error (.refused s!"unsupported schema version {n}")

/-- The parts of a schema with its stored list of bindings. -/
def Draft.record : Record (Draft × List BindingEntry) :=
  (fun id title canvas version root nodes tokens variants index =>
      (⟨id, title, canvas, version, root, nodes, tokens, variants⟩, index)) <$>
    .required "id" .string <*> .optional "title" .string ""
    <*> .required "canvas" Canvas.decoder <*> .required "version" Version.decoder
    <*> .maybe "root" Node.decoder <*> .optional "nodes" Node.decoder.list []
    <*> .optional "tokens" Tokens.decoder .empty <*> .optional "variants" Variant.decoder.list []
    <*> .optional "bindings" BindingEntry.decoder.list []

namespace Schema

def decoder : Decoder Schema :=
  (Decoder.record Draft.record).refine fun (d, index) =>
    (d.check index).mapError fun e => .refused e.message

def ofText (text : String) : Except Error Schema := decoder.parse text

end Schema

end VisualTemplate
