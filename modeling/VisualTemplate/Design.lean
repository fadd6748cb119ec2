import VisualTemplate.Design.Export
import VisualTemplate.Import
import VisualTemplate.Inference.Config
import VisualTemplate.Style.Paint
import VisualTemplate.Vector
import VisualTemplate.ViewBox
/-!
Imports of design exports as flat schemas.

The layers become leaves in the order of the export, placed relative to the root's corner. A
container leaves at most its own fill; a container of one shape and one image becomes a clipped
image.
-/

namespace VisualTemplate.Design

/-- What the leaves of a layer depend on besides the layer. -/
structure Surroundings where
  tokens : Tokens
  /-- The asset is known. -/
  knows : String → Bool
  /-- The path of a layer's drawing, if there is one with an outline. -/
  path? : String → Option String
  /-- The view box of a layer's drawing. -/
  viewBox? : String → Option String
  /-- The corner of the root. -/
  origin : Position

/-- Leaves with what is reported about them. -/
structure Flat where
  nodes : List Node := []
  diagnostics : List Diagnostic := []

def Flat.append (a b : Flat) : Flat := ⟨a.nodes ++ b.nodes, a.diagnostics ++ b.diagnostics⟩

namespace Surroundings

/-- A leaf at the place of a layer. -/
def place (s : Surroundings) (l : Layer) (visible : Bool) (leaf : Leaf) : Node :=
  let o := l.own
  .leaf ⟨o.id, o.name, visible, some ⟨o.x - s.origin.x, o.y - s.origin.y⟩⟩ leaf

def paint (s : Surroundings) (c : Color) : Paint := .ofText s.tokens c.css

def missing (s : Surroundings) (reference nodeId : String) : List Diagnostic :=
  if s.knows reference then [] else [.missingAsset reference (some nodeId)]

def alignOf (word : Option String) : TextAlign :=
  match word with
  | some "CENTER" => .center
  | some "RIGHT" => .right
  | some "JUSTIFIED" => .justify
  | _ => .left

/-- The nearest font weight of 16 bits. -/
def weightOf (x : Float32) : UInt16 := (min x.nearestWord.toNat 65535).toUInt16

def text (s : Surroundings) (l : Layer) (field : Option String) (visible : Bool) : Node :=
  let o := l.own
  let style := o.style.getD {}
  let font : Typography := {}
  s.place l visible (.text
    { width := .px o.width
      height := .px o.height
      content := o.characters.getD ""
      font :=
        { family := style.fontFamily.getD font.family
          size := style.fontSize.getD font.size
          weight := (style.fontWeight.map weightOf).getD font.weight
          lineHeight := style.lineHeightPx }
      align := alignOf style.textAlignHorizontal
      color := (l.color?.map s.paint).getD .black
      binding := field.map fun f => ⟨f, .text, none⟩ })

def fitOf : Option ScaleMode → ObjectFit
  | some .fit => .contain
  | some .stretch => .fill
  | some .tile => .none
  | _ => .cover

/-- A layer painted with an image. -/
def image (s : Surroundings) (l : Layer) (fill : Fill) (field : Option String) (visible : Bool) :
    Flat :=
  let o := l.own
  let src := fill.imageRef.getD ""
  ⟨[s.place l visible (.image
    { width := .px o.width
      height := .px o.height
      src
      fit := fitOf fill.scaleMode
      binding := field.map fun f => ⟨f, .image, none⟩ })], s.missing src o.id⟩

/-- The outline of a shape; an ellipse where no drawing tells it. -/
def outlineOf (s : Surroundings) (l : Layer) : Outline :=
  match l.kind with
  | .rectangle => .rectangle (l.own.cornerRadius.getD 0)
  | .ellipse => .ellipse
  | _ =>
    match s.path? l.id with
    | some path => .vector path (s.viewBox? l.id)
    | none => .ellipse

def shape (s : Surroundings) (l : Layer) (visible : Bool) : Node :=
  let o := l.own
  s.place l visible (.shape
    { width := o.width
      height := o.height
      shape := s.outlineOf l
      fill := l.color?.map s.paint
      stroke := (Fill.firstColor? o.strokes).map fun c => ⟨s.paint c, o.strokeWeight.getD 1⟩ })

/-- The fill of a container as a leaf. -/
def background (s : Surroundings) (l : Layer) (visible : Bool) : Flat :=
  let o := l.own
  match l.image?, l.color? with
  | some fill, _ => s.image l fill l.field? visible
  | none, some c =>
    ⟨[s.place l visible (.shape
      { width := o.width
        height := o.height
        shape := .rectangle (o.cornerRadius.getD 0)
        fill := some (s.paint c) })], []⟩
  | none, none => {}

/-- The mask of a clipped image: the shape's own drawing at the shape's place, or the group's
drawing, or an ellipse at the shape's place, which is reported. -/
def maskOf (s : Surroundings) (group shape : Layer) : Mask × List Diagnostic :=
  let offset : Position := ⟨shape.own.x - group.own.x, shape.own.y - group.own.y⟩
  let moved := if offset.isOrigin then none else some offset
  match s.path? shape.id, s.path? group.id with
  | some path, _ => (⟨"mask", path, moved⟩, [])
  | none, some path => (⟨"mask", path, none⟩, [])
  | none, none =>
    (⟨"mask", Vector.ellipse shape.own.width shape.own.height, moved⟩, [.maskFallback group.id])

/-- A group of one shape and one image. -/
def clipped (s : Surroundings) (group shape image : Layer) (field : Option String)
    (visible : Bool) : Flat :=
  let o := group.own
  let (mask, fallback) := s.maskOf group shape
  let src := image.image?.bind (·.imageRef)
  ⟨[s.place group visible (.svg
    { width := o.width
      height := o.height
      viewBox := ViewBox.ofSize o.width o.height
      mask := some mask
      image := src
      binding := field.map fun f => ⟨f, .image, none⟩ })],
    fallback ++ match src with
      | some r => s.missing r group.id
      | none => []⟩

/-- The field that a container hands to its only child, if that is a text. -/
def handedDown (l : Layer) : Option String :=
  match l.children with
  | [only] => if only.kind = .text then l.field? else none
  | _ => none

/-- A layer other than a container. -/
def leafOf (s : Surroundings) (l : Layer) (field : Option String) (visible : Bool) : Flat :=
  if l.kind = .text then ⟨[s.text l field visible], []⟩
  else match l.image? with
    | some fill => s.image l fill field visible
    | none => if l.kind.isShape then ⟨[s.shape l visible], []⟩ else {}

mutual

/-- The leaves of a layer and of all below it. `inherited` is the field of the container. -/
def visit (s : Surroundings) (inherited : Option String) (shown : Bool) : Layer → Flat
  | .mk o cs =>
    let l := Layer.mk o cs
    let visible := shown && o.visible
    let field := l.field?.or inherited
    if l.kind.isContainer then
      match maskedPair? Layer.role cs with
      | some (shape, image) =>
        s.clipped l shape image (field.or (image.field?.or shape.field?)) visible
      | none => (s.background l visible).append (s.visitAll (handedDown l) visible cs)
    else s.leafOf l field visible

def visitAll (s : Surroundings) (inherited : Option String) (shown : Bool) : List Layer → Flat
  | [] => {}
  | l :: ls => (s.visit inherited shown l).append (s.visitAll inherited shown ls)

end

end Surroundings

/-- The assets of an export's bitmaps. -/
def assetsOf : List (String × String) → Except Error Assets
  | [] => .ok .empty
  | (key, payload) :: rest => do
    let a ← Asset.ofPayload payload
    .ok ((← assetsOf rest).insert key a)

/-- The size of the export, or that of the root where it has none. -/
def canvasOf (e : Export) (root : Layer) : Canvas :=
  if e.width > 0 && e.height > 0 then ⟨e.width.nearestWord, e.height.nearestWord⟩
  else ⟨root.own.width.nearestWord, root.own.height.nearestWord⟩

/-- All leaves of an export with one root. -/
def flatten (tokens : Tokens) (assets : Assets) (e : Export) (root : Layer) : Flat :=
  let s : Surroundings :=
    { tokens
      knows := assets.contains
      path? := fun id => (e.drawings.get? id).bind Vector.path?
      viewBox? := fun id => (e.drawings.get? id).bind Vector.viewBox?
      origin := ⟨root.own.x, root.own.y⟩ }
  (s.background root root.own.visible).append (s.visitAll none root.own.visible root.children)

/-- Imports an export as a flat schema. -/
def Export.toImport (config : DesignConfig) (schemaId : String) (e : Export) :
    Except Error Import :=
  match e.layers with
  | [root] => do
    let assets ← assetsOf e.images.entries
    let flat := flatten config.tokens assets e root
    let schema ← Draft.build
      { id := schemaId
        title := config.title.getD e.name
        canvas := canvasOf e root
        version := .flat
        nodes := flat.nodes
        tokens := config.tokens
        variants := config.variants }
    .ok ⟨schema, assets, flat.diagnostics⟩
  | layers => .error (.importing (.rootCount layers.length))

end VisualTemplate.Design
