import VisualTemplate.Color
import VisualTemplate.Length
import VisualTemplate.MaskedPair
import VisualTemplate.Table
import VisualTemplate.Text.Cut
/-!
Exports of a design tool: one tree of layers with absolute geometry, and the bitmaps and drawings
that the layers refer to.
-/

namespace VisualTemplate.Design

inductive Kind where
  | frame
  | group
  | component
  | componentSet
  | instance_
  | section_
  | rectangle
  | ellipse
  | vector
  | star
  | line
  | regularPolygon
  | booleanOperation
  | text
  | other
  deriving DecidableEq, Repr

namespace Kind

def isContainer : Kind → Bool
  | frame | group | component | componentSet | instance_ | section_ => true
  | _ => false

def isShape : Kind → Bool
  | rectangle | ellipse | vector | star | line | regularPolygon | booleanOperation => true
  | _ => false

end Kind

inductive FillKind where
  | solid
  | image
  | other
  deriving DecidableEq, Repr

/-- How an image fills its layer. -/
inductive ScaleMode where
  | fill
  | fit
  | crop
  | tile
  | stretch
  deriving DecidableEq, Repr

/-- Channels between 0 and 1. -/
structure Shares where
  r : Float32
  g : Float32
  b : Float32
  a : Float32 := 1
  deriving BEq

/-- A colour or an image with which a layer is painted. -/
structure Fill where
  kind : FillKind
  visible : Bool := true
  color : Option Shares := none
  opacity : Option Float32 := none
  imageRef : Option String := none
  scaleMode : Option ScaleMode := none
  deriving BEq

namespace Fill

def solid (r g b : Float32) : Fill := { kind := .solid, color := some { r, g, b } }

def image (ref : String) : Fill :=
  { kind := .image, imageRef := some ref, scaleMode := some .fill }

/-- The colour with the fill's opacity in its alpha. -/
def color? (f : Fill) : Option Color :=
  f.color.map fun c => .ofShares c.r c.g c.b (c.a * f.opacity.getD 1)

/-- A visible image with a reference. -/
def isImage (f : Fill) : Bool := f.visible && f.kind == .image && f.imageRef.isSome

/-- The colour of the first visible plain fill that has one. -/
def firstColor? (fs : List Fill) : Option Color :=
  (fs.filter fun f => f.visible && f.kind == .solid).findSome? color?

end Fill

structure TextStyle where
  fontFamily : Option String := none
  fontSize : Option Float32 := none
  fontWeight : Option Float32 := none
  lineHeightPx : Option Float32 := none
  textAlignHorizontal : Option String := none
  deriving BEq

/-- What a layer has besides its children. -/
structure Own where
  id : String
  name : String := ""
  kind : Kind
  visible : Bool := true
  x : Float32 := 0
  y : Float32 := 0
  width : Float32 := 0
  height : Float32 := 0
  fills : List Fill := []
  strokes : List Fill := []
  strokeWeight : Option Float32 := none
  cornerRadius : Option Float32 := none
  characters : Option String := none
  style : Option TextStyle := none
  deriving BEq

inductive Layer where
  | mk (own : Own) (children : List Layer)

structure Export where
  name : String
  width : Float32 := 0
  height : Float32 := 0
  layers : List Layer
  /-- Payloads of bitmaps under their references. -/
  images : Table String := .empty
  /-- Vector markup under the ids of layers. -/
  drawings : Table String := .empty

/-! ### Field markers -/

def isMarkerStart (c : Char) : Bool := c.isAlpha || c == '_'

def isMarkerChar (c : Char) : Bool := c.isAlphanum || c == '_'

/-- The identifier between two pairs of braces that a text starts with. -/
def markerAt? (cs : List Char) : Option String := do
  let rest ← Text.after? ['\x7b', '\x7b'] cs
  match rest.dropWhile Text.isBlank with
  | [] => none
  | c :: rest =>
    let (name, rest) := rest.span isMarkerChar
    let _ ← Text.after? ['\x7d', '\x7d'] (rest.dropWhile Text.isBlank)
    if isMarkerStart c then some (.ofList (c :: name)) else none

/-- The first identifier between two pairs of braces. -/
def marker? : List Char → Option String
  | [] => none
  | c :: cs => (markerAt? (c :: cs)).or (marker? cs)

namespace Layer

def own : Layer → Own
  | mk o _ => o

def children : Layer → List Layer
  | mk _ cs => cs

def id (l : Layer) : String := l.own.id

def kind (l : Layer) : Kind := l.own.kind

/-- The field that the display name marks. -/
def field? (l : Layer) : Option String := marker? l.own.name.toList

/-- The first visible image among the fills. -/
def image? (l : Layer) : Option Fill := l.own.fills.find? Fill.isImage

/-- The colour of the fills. -/
def color? (l : Layer) : Option Color := Fill.firstColor? l.own.fills

def role (l : Layer) : ChildRole :=
  if l.image?.isSome then (if l.kind = .rectangle then .image else .other)
  else if l.kind.isShape then .shape
  else .other

end Layer

end VisualTemplate.Design
