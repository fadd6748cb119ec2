import VisualTemplate.Node
/-!
Template nodes as document values, and back.

Parts that have their default are left out where the format says so. The kind of a node stands
under `type` among its own parts.
-/

namespace VisualTemplate

open Json

def Overflow.word : Overflow → String
  | .visible => "visible"
  | .hidden => "hidden"

def BoxSizing.word : BoxSizing → String
  | .contentBox => "content-box"
  | .borderBox => "border-box"

def FlexDirection.word : FlexDirection → String
  | .row => "row"
  | .column => "column"

def Justify.word : Justify → String
  | .start => "start"
  | .center => "center"
  | .finish => "end"
  | .spaceBetween => "space-between"
  | .spaceAround => "space-around"
  | .spaceEvenly => "space-evenly"

def Align.word : Align → String
  | .start => "start"
  | .center => "center"
  | .finish => "end"
  | .stretch => "stretch"
  | .baseline => "baseline"

def TextAlign.word : TextAlign → String
  | .left => "left"
  | .center => "center"
  | .right => "right"
  | .justify => "justify"

def ObjectFit.word : ObjectFit → String
  | .cover => "cover"
  | .contain => "contain"
  | .fill => "fill"
  | .none => "none"
  | .scaleDown => "scale-down"

def ImageDisplay.word : ImageDisplay → String
  | .block => "block"
  | .inline => "inline"

namespace Node.Wire

def unlessZero (x : Float32) : Option Value := if x == 0 then none else some (.single x)

def unlessZeroInsets (i : Insets) : Option Value := if i.isZero then none else some i.toValue

def word (s : String) : Option Value := some (.string s)

def typography (t : Typography) : Value :=
  .ofFields [("family", word t.family), ("size", some (.single t.size)),
    ("weight", some (.nat t.weight.toNat)), ("lineHeight", t.lineHeight.map .single)]

def mask (m : Mask) : Value :=
  .ofFields [("id", word m.id), ("path", word m.path), ("offset", m.offset.map (·.toValue))]

def outline : Outline → Value
  | .rectangle radius =>
    .ofFields [("kind", word "rectangle"), ("cornerRadius", unlessZero radius)]
  | .ellipse => .ofFields [("kind", word "ellipse")]
  | .vector path viewBox =>
    .ofFields [("kind", word "vector"), ("path", word path), ("viewBox", viewBox.map .string)]

def stroke (s : Stroke) : Value :=
  .object [("color", s.color.toValue), ("width", .single s.width)]

/-- The parts of a container; `children` stands for the value of its children. -/
def layout (l : Layout) (children : Value) : List (String × Option Value) :=
  match l with
  | .frame f =>
    [("width", some (.nat f.width.toNat)), ("height", some (.nat f.height.toNat)),
      ("padding", unlessZeroInsets f.padding), ("background", f.background.map (·.toValue)),
      ("children", some children)]
  | .flex f =>
    [("width", some f.width.toValue), ("height", some f.height.toValue),
      ("direction", word f.direction.word), ("justify", word f.justify.word),
      ("align", word f.align.word), ("gap", unlessZero f.gap),
      ("padding", unlessZeroInsets f.padding), ("background", f.background.map (·.toValue)),
      ("overflow", word f.overflow.word), ("boxSizing", f.boxSizing.map (.string ·.word)),
      ("children", some children)]
  | .box b =>
    [("width", some b.width.toValue), ("height", some b.height.toValue),
      ("padding", unlessZeroInsets b.padding), ("background", b.background.map (·.toValue)),
      ("overflow", word b.overflow.word), ("boxSizing", b.boxSizing.map (.string ·.word)),
      ("children", some children)]

/-- The parts of a leaf. -/
def leaf : Leaf → List (String × Option Value)
  | .text t =>
    [("width", some t.width.toValue), ("height", some t.height.toValue),
      ("content", word t.content), ("font", some (typography t.font)),
      ("align", word t.align.word), ("color", some t.color.toValue),
      ("margin", unlessZeroInsets t.margin), ("binding", t.binding.map (·.toValue))]
  | .image i =>
    [("width", some i.width.toValue), ("height", some i.height.toValue), ("src", word i.src),
      ("fit", word i.fit.word), ("display", word i.display.word),
      ("binding", i.binding.map (·.toValue))]
  | .svg s =>
    [("width", some (.single s.width)), ("height", some (.single s.height)),
      ("viewBox", word s.viewBox), ("mask", s.mask.map mask), ("image", s.image.map .string),
      ("binding", s.binding.map (·.toValue))]
  | .shape s =>
    [("width", some (.single s.width)), ("height", some (.single s.height)),
      ("shape", some (outline s.shape)), ("fill", s.fill.map (·.toValue)),
      ("stroke", s.stroke.map stroke)]

def head (h : Head) : List (String × Option Value) :=
  [("id", word h.id), ("name", if h.name.isEmpty then none else word h.name),
    ("visible", if h.visible then none else some (.bool false)),
    ("position", h.position.map (·.toValue))]

end Node.Wire

mutual

def Node.toValue : Node → Value
  | .container h l cs =>
    .ofFields (Node.Wire.head h ++ ("type", some (.string l.kind)) ::
      Node.Wire.layout l (.array (Node.toValues cs)))
  | .leaf h l =>
    .ofFields (Node.Wire.head h ++ ("type", some (.string l.kind)) :: Node.Wire.leaf l)

def Node.toValues : List Node → List Value
  | [] => []
  | n :: ns => n.toValue :: Node.toValues ns

end

namespace Node.Wire

def word32 : Decoder UInt32 := (Decoder.below (Nat.pow 2 32)).map Nat.toUInt32
def word16 : Decoder UInt16 := (Decoder.below (Nat.pow 2 16)).map Nat.toUInt16

def overflows : Decoder Overflow := .oneOf (wordsOf Overflow.word [.visible, .hidden]) none

def boxSizings : Decoder BoxSizing :=
  .oneOf (wordsOf BoxSizing.word [.contentBox, .borderBox]) none

def directions : Decoder FlexDirection := .oneOf (wordsOf FlexDirection.word [.row, .column]) none

def justifies : Decoder Justify :=
  .oneOf (wordsOf Justify.word
    [.start, .center, .finish, .spaceBetween, .spaceAround, .spaceEvenly]) none

def aligns : Decoder Align :=
  .oneOf (wordsOf Align.word [.start, .center, .finish, .stretch, .baseline]) none

def textAligns : Decoder TextAlign :=
  .oneOf (wordsOf TextAlign.word [.left, .center, .right, .justify]) none

def fits : Decoder ObjectFit :=
  .oneOf (wordsOf ObjectFit.word [.cover, .contain, .fill, .none, .scaleDown]) none

def displays : Decoder ImageDisplay := .oneOf (wordsOf ImageDisplay.word [.block, .inline]) none

def typographies : Decoder Typography :=
  .record (Typography.mk <$> .required "family" .string <*> .required "size" .single
    <*> .optional "weight" word16 400 <*> .maybe "lineHeight" .single)

def masks : Decoder Mask :=
  .record (Mask.mk <$> .required "id" .string <*> .required "path" .string
    <*> .maybe "offset" Position.decoder)

/-- An outline without parts of its own: an object or an empty array. -/
def ellipses : Decoder Outline
  | _, .array _ (_ :: _) => .error .misshapen
  | _, _ => .ok .ellipse

def outlines : Decoder Outline :=
  .tagged "kind"
    [("rectangle", .record (Outline.rectangle <$> .optional "cornerRadius" .single 0)),
      ("ellipse", ellipses),
      ("vector", .record (Outline.vector <$> .required "path" .string
        <*> .maybe "viewBox" .string))]

def strokes : Decoder Stroke :=
  .record (Stroke.mk <$> .required "color" Paint.decoder <*> .required "width" .single)

def bindings : Record (Option Binding) := .maybe "binding" Binding.decoder

def auto (name : String) : Record Length := .optional name Length.decoder .auto

def padded (name : String) : Record Insets := .optional name Insets.decoder {}

/-- A node without its head: a container with its children, or a leaf. -/
inductive Body where
  | container (l : Layout) (children : List Node)
  | leaf (l : Leaf)

def Body.withHead (h : Head) : Body → Node
  | .container l cs => .container h l cs
  | .leaf l => .leaf h l

def texts : Decoder Body :=
  .record ((fun w h c f a p m b => Body.leaf (.text ⟨w, h, c, f, a, p, m, b⟩)) <$>
    auto "width" <*> auto "height" <*> .required "content" .string
    <*> .optional "font" typographies {} <*> .optional "align" textAligns .left
    <*> .optional "color" Paint.decoder .black <*> padded "margin" <*> bindings)

def images : Decoder Body :=
  .record ((fun w h s f d b => Body.leaf (.image ⟨w, h, s, f, d, b⟩)) <$>
    auto "width" <*> auto "height" <*> .required "src" .string
    <*> .optional "fit" fits .cover <*> .optional "display" displays .block <*> bindings)

def svgs : Decoder Body :=
  .record ((fun w h v m i b => Body.leaf (.svg ⟨w, h, v, m, i, b⟩)) <$>
    .required "width" .single <*> .required "height" .single <*> .required "viewBox" .string
    <*> .maybe "mask" masks <*> .maybe "image" .string <*> bindings)

def shapes : Decoder Body :=
  .record ((fun w h s f st => Body.leaf (.shape ⟨w, h, s, f, st⟩)) <$>
    .required "width" .single <*> .required "height" .single <*> .required "shape" outlines
    <*> .maybe "fill" Paint.decoder <*> .maybe "stroke" strokes)

def childrenOf (d : Decoder Node) : Record (List Node) := .optional "children" d.list []

def frames (d : Decoder Node) : Decoder Body :=
  .record ((fun w h p b cs => Body.container (.frame ⟨w, h, p, b⟩) cs) <$>
    .required "width" word32 <*> .required "height" word32 <*> padded "padding"
    <*> .maybe "background" Paint.decoder <*> childrenOf d)

def flexes (d : Decoder Node) : Decoder Body :=
  .record ((fun w h di j a g p b o s cs =>
      Body.container (.flex ⟨w, h, di, j, a, g, p, b, o, s⟩) cs) <$>
    auto "width" <*> auto "height" <*> .optional "direction" directions .row
    <*> .optional "justify" justifies .start <*> .optional "align" aligns .stretch
    <*> .optional "gap" .single 0 <*> padded "padding" <*> .maybe "background" Paint.decoder
    <*> .optional "overflow" overflows .visible <*> .maybe "boxSizing" boxSizings
    <*> childrenOf d)

def boxes (d : Decoder Node) : Decoder Body :=
  .record ((fun w h p b o s cs => Body.container (.box ⟨w, h, p, b, o, s⟩) cs) <$>
    auto "width" <*> auto "height" <*> padded "padding" <*> .maybe "background" Paint.decoder
    <*> .optional "overflow" overflows .visible <*> .maybe "boxSizing" boxSizings
    <*> childrenOf d)

def heads : Record Head :=
  Head.mk <$> .required "id" .string <*> .optional "name" .string ""
    <*> .optional "visible" .bool true <*> .maybe "position" Position.decoder

/-- Nodes nested at most so deep. -/
def nodes : Nat → Decoder Node
  | 0 => fun _ _ => .error .misshapen
  | depth + 1 =>
    let d := nodes depth
    (Decoder.flattened heads (Decoder.taggedFields "type"
      [("frame", frames d), ("flex", flexes d), ("box", boxes d), ("text", texts),
        ("image", images), ("svg", svgs), ("shape", shapes)])).map fun (h, b) => b.withHead h

end Node.Wire

/-- No document nests nodes deeper than it nests containers. -/
def Node.decoder : Decoder Node := Node.Wire.nodes (depthLimit + 1)

end VisualTemplate
