import VisualTemplate.Document.Config
import VisualTemplate.Error
import VisualTemplate.Token
import VisualTemplate.Variant
/-!
Options of an import: rules for fields and assets, declared tokens and variants.
-/

namespace VisualTemplate

open Json

/-- How a replacement rule recognises its text. -/
inductive RulePattern where
  /-- Anywhere in the text, with exact case. -/
  | literal (text : String)
  /-- The first match of a regular expression. -/
  | regex (text : String)
  deriving DecidableEq

/-- A rule that ties a text to a field. Rules are tried before any heuristic. -/
structure ReplacementRule where
  field : String
  pattern : RulePattern
  kind : BindingKind := .text
  deriving DecidableEq

/-- Images whose source holds a text are a known asset. -/
structure StaticAssetRule where
  sourceContains : String
  asset : String
  deriving DecidableEq

/-- Images whose source holds a text are bound to a field. -/
structure ImageFieldRule where
  sourceContains : String
  field : String
  deriving DecidableEq

structure SelectorOverride where
  selector : String
  operation : Visibility
  deriving DecidableEq

/-- A variant declared by selectors over the markup. -/
structure VariantRule where
  id : String
  name : String
  overrides : List SelectorOverride := []
  deriving DecidableEq

/-- The fields that the heuristics bind. -/
structure HeuristicFields where
  placeholder : String := "title"
  date : String := "date"
  hours : String := "time"
  address : String := "address"
  city : String := "city"
  role : String := "people[].role"
  name : String := "people[].name"
  talk : String := "people[].talk"
  deriving DecidableEq

structure MarkupConfig where
  /-- The size of the root element to look for. -/
  canvas : Canvas := {}
  /-- The title of the schema; the document's own if absent. -/
  title : Option String := none
  replacements : List ReplacementRule := []
  placeholderMarkers : List String := ["Placeholder", "Lorem ipsum"]
  staticAssets : List StaticAssetRule := []
  imageFields : List ImageFieldRule := []
  tokens : Tokens := .empty
  variants : List VariantRule := []
  heuristicFields : HeuristicFields := {}

structure DesignConfig where
  /-- The title of the schema; the export's name if absent. -/
  title : Option String := none
  tokens : Tokens := .empty
  variants : List Variant := []

structure Config where
  markup : MarkupConfig := {}
  design : DesignConfig := {}
  compile : CompileConfig := {}

def orNull (v : Option Value) : Value := v.getD .null

namespace RulePattern

def toValue : RulePattern → Value
  | literal text => .object [("literal", .string text)]
  | regex text => .object [("regex", .string text)]

def decoder : Decoder RulePattern :=
  .oneWith [("literal", .map literal .string), ("regex", .map regex .string)]

end RulePattern

namespace ReplacementRule

def toValue (r : ReplacementRule) : Value :=
  .object [("field", .string r.field), ("pattern", r.pattern.toValue),
    ("kind", .string r.kind.word)]

def decoder : Decoder ReplacementRule :=
  .record (mk <$> .required "field" .string <*> .required "pattern" RulePattern.decoder
    <*> .optional "kind" BindingKind.decoder .text)

end ReplacementRule

namespace StaticAssetRule

def toValue (r : StaticAssetRule) : Value :=
  .object [("sourceContains", .string r.sourceContains), ("asset", .string r.asset)]

def decoder : Decoder StaticAssetRule :=
  .record (mk <$> .required "sourceContains" .string <*> .required "asset" .string)

end StaticAssetRule

namespace ImageFieldRule

def toValue (r : ImageFieldRule) : Value :=
  .object [("sourceContains", .string r.sourceContains), ("field", .string r.field)]

def decoder : Decoder ImageFieldRule :=
  .record (mk <$> .required "sourceContains" .string <*> .required "field" .string)

end ImageFieldRule

namespace SelectorOverride

def toValue (o : SelectorOverride) : Value :=
  .object [("selector", .string o.selector), ("operation", .string o.operation.word)]

def decoder : Decoder SelectorOverride :=
  .record (mk <$> .required "selector" .string <*> .required "operation" Visibility.decoder)

end SelectorOverride

namespace VariantRule

def toValue (r : VariantRule) : Value :=
  .object [("id", .string r.id), ("name", .string r.name),
    ("overrides", .array (r.overrides.map (·.toValue)))]

def decoder : Decoder VariantRule :=
  .record (mk <$> .required "id" .string <*> .required "name" .string
    <*> .optional "overrides" SelectorOverride.decoder.list [])

end VariantRule

namespace HeuristicFields

def toValue (h : HeuristicFields) : Value :=
  .object [("placeholder", .string h.placeholder), ("date", .string h.date),
    ("hours", .string h.hours), ("address", .string h.address), ("city", .string h.city),
    ("role", .string h.role), ("name", .string h.name), ("talk", .string h.talk)]

def decoder : Decoder HeuristicFields :=
  let d : HeuristicFields := {}
  .record (mk <$> .optional "placeholder" .string d.placeholder
    <*> .optional "date" .string d.date <*> .optional "hours" .string d.hours
    <*> .optional "address" .string d.address <*> .optional "city" .string d.city
    <*> .optional "role" .string d.role <*> .optional "name" .string d.name
    <*> .optional "talk" .string d.talk)

end HeuristicFields

namespace MarkupConfig

def toValue (c : MarkupConfig) : Value :=
  .object [("canvas", c.canvas.toValue), ("title", orNull (c.title.map .string)),
    ("replacements", .array (c.replacements.map (·.toValue))),
    ("placeholderMarkers", .array (c.placeholderMarkers.map .string)),
    ("staticAssets", .array (c.staticAssets.map (·.toValue))),
    ("imageFields", .array (c.imageFields.map (·.toValue))),
    ("tokens", c.tokens.toValue), ("variants", .array (c.variants.map (·.toValue))),
    ("heuristicFields", c.heuristicFields.toValue)]

def decoder : Decoder MarkupConfig :=
  let d : MarkupConfig := {}
  .record (mk <$> .optional "canvas" Canvas.decoder d.canvas <*> .maybe "title" .string
    <*> .optional "replacements" ReplacementRule.decoder.list []
    <*> .optional "placeholderMarkers" (.list .string) d.placeholderMarkers
    <*> .optional "staticAssets" StaticAssetRule.decoder.list []
    <*> .optional "imageFields" ImageFieldRule.decoder.list []
    <*> .optional "tokens" Tokens.decoder .empty
    <*> .optional "variants" VariantRule.decoder.list []
    <*> .optional "heuristicFields" HeuristicFields.decoder d.heuristicFields)

end MarkupConfig

namespace DesignConfig

def toValue (c : DesignConfig) : Value :=
  .object [("title", orNull (c.title.map .string)), ("tokens", c.tokens.toValue),
    ("variants", .array (c.variants.map (·.toValue)))]

def decoder : Decoder DesignConfig :=
  .record (mk <$> .maybe "title" .string <*> .optional "tokens" Tokens.decoder .empty
    <*> .optional "variants" Variant.decoder.list [])

end DesignConfig

namespace Config

def toValue (c : Config) : Value :=
  .object [("markup", c.markup.toValue), ("design", c.design.toValue),
    ("compile", c.compile.toValue)]

def decoder : Decoder Config :=
  .record (mk <$> .optional "markup" MarkupConfig.decoder {}
    <*> .optional "design" DesignConfig.decoder {}
    <*> .optional "compile" CompileConfig.decoder {})

end Config

end VisualTemplate
