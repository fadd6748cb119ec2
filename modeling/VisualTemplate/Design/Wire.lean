import VisualTemplate.Binding
import VisualTemplate.Design.Export
import VisualTemplate.Json.Decode
/-!
Design exports as documents, and back.
-/

namespace VisualTemplate.Design

open Json

def Kind.word : Kind → String
  | frame => "FRAME"
  | group => "GROUP"
  | component => "COMPONENT"
  | componentSet => "COMPONENT_SET"
  | instance_ => "INSTANCE"
  | section_ => "SECTION"
  | rectangle => "RECTANGLE"
  | ellipse => "ELLIPSE"
  | vector => "VECTOR"
  | star => "STAR"
  | line => "LINE"
  | regularPolygon => "REGULAR_POLYGON"
  | booleanOperation => "BOOLEAN_OPERATION"
  | text => "TEXT"
  | other => "OTHER"

def Kind.decoder : Decoder Kind :=
  .oneOf (wordsOf word [.frame, .group, .component, .componentSet, .instance_, .section_,
    .rectangle, .ellipse, .vector, .star, .line, .regularPolygon, .booleanOperation, .text])
    (some .other)

def FillKind.word : FillKind → String
  | solid => "SOLID"
  | image => "IMAGE"
  | other => "OTHER"

def FillKind.decoder : Decoder FillKind := .oneOf (wordsOf word [.solid, .image]) (some .other)

def ScaleMode.word : ScaleMode → String
  | fill => "FILL"
  | fit => "FIT"
  | crop => "CROP"
  | tile => "TILE"
  | stretch => "STRETCH"

def ScaleMode.decoder : Decoder ScaleMode :=
  .oneOf (wordsOf word [.fill, .fit, .crop, .tile, .stretch]) none

def Shares.toValue (c : Shares) : Value :=
  .object [("r", .single c.r), ("g", .single c.g), ("b", .single c.b), ("a", .single c.a)]

def Shares.decoder : Decoder Shares :=
  .record (mk <$> .required "r" .single <*> .required "g" .single <*> .required "b" .single
    <*> .optional "a" .single 1)

def Fill.toValue (f : Fill) : Value :=
  .ofFields [("type", some (.string f.kind.word)), ("visible", some (.bool f.visible)),
    ("color", f.color.map (·.toValue)), ("opacity", f.opacity.map .single),
    ("imageRef", f.imageRef.map .string), ("scaleMode", f.scaleMode.map (.string ·.word))]

def Fill.decoder : Decoder Fill :=
  .record (mk <$> .required "type" FillKind.decoder <*> .optional "visible" .bool true
    <*> .maybe "color" Shares.decoder <*> .maybe "opacity" .single
    <*> .maybe "imageRef" .string <*> .maybe "scaleMode" ScaleMode.decoder)

def TextStyle.toValue (s : TextStyle) : Value :=
  .ofFields [("fontFamily", s.fontFamily.map .string), ("fontSize", s.fontSize.map .single),
    ("fontWeight", s.fontWeight.map .single), ("lineHeightPx", s.lineHeightPx.map .single),
    ("textAlignHorizontal", s.textAlignHorizontal.map .string)]

def TextStyle.decoder : Decoder TextStyle :=
  .record (mk <$> .maybe "fontFamily" .string <*> .maybe "fontSize" .single
    <*> .maybe "fontWeight" .single <*> .maybe "lineHeightPx" .single
    <*> .maybe "textAlignHorizontal" .string)

/-- A list that is left out when it is empty. -/
def unlessEmpty (vs : List Value) : Option Value := if vs.isEmpty then none else some (.array vs)

def Own.fields (o : Own) : List (String × Option Value) :=
  [("id", some (.string o.id)), ("name", some (.string o.name)),
    ("type", some (.string o.kind.word)), ("visible", some (.bool o.visible)),
    ("x", some (.single o.x)), ("y", some (.single o.y)), ("width", some (.single o.width)),
    ("height", some (.single o.height)), ("fills", unlessEmpty (o.fills.map (·.toValue))),
    ("strokes", unlessEmpty (o.strokes.map (·.toValue))),
    ("strokeWeight", o.strokeWeight.map .single), ("cornerRadius", o.cornerRadius.map .single),
    ("characters", o.characters.map .string), ("style", o.style.map (·.toValue))]

mutual

def Layer.toValue : Layer → Value
  | .mk o cs => .ofFields (o.fields ++ [("children", unlessEmpty (Layer.toValues cs))])

def Layer.toValues : List Layer → List Value
  | [] => []
  | l :: ls => l.toValue :: Layer.toValues ls

end

def Own.record : Record Own :=
  Own.mk <$> .required "id" .string <*> .optional "name" .string ""
    <*> .required "type" Kind.decoder <*> .optional "visible" .bool true
    <*> .optional "x" .single 0 <*> .optional "y" .single 0 <*> .optional "width" .single 0
    <*> .optional "height" .single 0 <*> .optional "fills" Fill.decoder.list []
    <*> .optional "strokes" Fill.decoder.list [] <*> .maybe "strokeWeight" .single
    <*> .maybe "cornerRadius" .single <*> .maybe "characters" .string
    <*> .maybe "style" TextStyle.decoder

/-- Layers nested at most so deep. -/
def layers : Nat → Decoder Layer
  | 0 => fun _ _ => .error .malformed
  | depth + 1 =>
    .record (Layer.mk <$> Own.record <*> .optional "children" (layers depth).list [])

/-- No document nests layers deeper than it nests containers. -/
def Layer.decoder : Decoder Layer := layers (depthLimit + 1)

namespace Export

def toValue (e : Export) : Value :=
  .object [("name", .string e.name), ("width", .single e.width), ("height", .single e.height),
    ("nodes", .array (Layer.toValues e.layers)),
    ("images", .object (e.images.entries.map fun (k, v) => (k, .string v))),
    ("svgs", .object (e.drawings.entries.map fun (k, v) => (k, .string v)))]

def decoder : Decoder Export :=
  .record (mk <$> .required "name" .string <*> .optional "width" .single 0
    <*> .optional "height" .single 0 <*> .required "nodes" Layer.decoder.list
    <*> .optional "images" (.table .string) .empty <*> .optional "svgs" (.table .string) .empty)

end Export

end VisualTemplate.Design
