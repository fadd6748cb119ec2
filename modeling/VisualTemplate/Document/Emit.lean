import VisualTemplate.Asset
import VisualTemplate.Document.Markup
import VisualTemplate.Fill.Palette
import VisualTemplate.Fill.Resolve
import VisualTemplate.ViewBox
/-!
Nodes as markup.

Hidden nodes leave nothing. A visible node becomes one element; what its values and references do
not allow is reported beside it.
-/

namespace VisualTemplate.Document

/-- What a node's markup depends on besides the node. -/
structure Context where
  palette : Palette
  values : Table Resolved
  assets : AssetSource

/-- Markup with what is reported about it. -/
structure Emitted where
  markup : List Markup
  diagnostics : List Diagnostic

def Emitted.none : Emitted := ⟨[], []⟩

def Emitted.append (a b : Emitted) : Emitted :=
  ⟨a.markup ++ b.markup, a.diagnostics ++ b.diagnostics⟩

def justifyCss : Justify → String
  | .start => "flex-start"
  | .center => "center"
  | .finish => "flex-end"
  | .spaceBetween => "space-between"
  | .spaceAround => "space-around"
  | .spaceEvenly => "space-evenly"

def alignCss : Align → String
  | .start => "flex-start"
  | .center => "center"
  | .finish => "flex-end"
  | .stretch => "stretch"
  | .baseline => "baseline"

/-- The position of a node of a flat schema. -/
def placed (h : Head) : Style :=
  match h.position with
  | some p => [("position", "absolute"), ("left", px p.x), ("top", px p.y)]
  | none => []

def sized (width height : Length) : Style :=
  (if width == .auto then [] else [("width", width.css)]) ++
    (if height == .auto then [] else [("height", height.css)])

def inset (property : String) (i : Insets) : Style := if i.isZero then [] else [(property, i.css)]

/-- A background, if there is one. -/
def background (p : Palette) : Option Paint → Except Error Style
  | some paint => do return [("background", ← p.css paint)]
  | none => .ok []

def overflowing (o : Overflow) : Style := if o = .hidden then [("overflow", "hidden")] else []

def boxSized : Option BoxSizing → Style
  | some b => [("box-sizing", b.word)]
  | none => []

/-- The style of a container. -/
def layoutStyle (p : Palette) (h : Head) : Layout → Except Error Style
  | .frame f => do
    return [("position", "relative"), ("width", px f.width.toFloat32),
        ("height", px f.height.toFloat32), ("overflow", "hidden"), ("box-sizing", "border-box")]
      ++ inset "padding" f.padding ++ (← background p f.background)
  | .flex f => do
    return placed h ++ [("display", "flex"), ("flex-direction", f.direction.word),
        ("justify-content", justifyCss f.justify), ("align-items", alignCss f.align)]
      ++ (if f.gap == 0 then [] else [("gap", px f.gap)]) ++ sized f.width f.height
      ++ inset "padding" f.padding ++ (← background p f.background) ++ overflowing f.overflow
      ++ boxSized f.boxSizing
  | .box b => do
    return placed h ++ [("display", "block")] ++ sized b.width b.height ++ inset "padding" b.padding
      ++ (← background p b.background) ++ overflowing b.overflow ++ boxSized b.boxSizing

/-- The value of a bound node. -/
def valueOf (c : Context) (h : Head) (b : Option Binding) : Option (Binding × Resolved) := do
  return (← b, ← c.values.get? h.id)

/-- The content and the colour of a text with its value. -/
def filledText (c : Context) (h : Head) (t : TextLeaf) (color : String) :
    String × String × List Diagnostic :=
  match valueOf c h t.binding with
  | none => (t.content, color, [])
  | some (b, v) =>
    match b.kind with
    | .text => (applyText t.content b.placeholder v.value, color, [])
    | .color =>
      match Color.ofText? v.value with
      | some k => (t.content, k.css, [])
      | none => (t.content, color, [.invalidValue v.field h.id])
    | .image => (t.content, color, [.invalidValue v.field h.id])

def withoutQuotes (s : String) : String := .ofList (s.toList.filter (· != '\''))

def textNode (c : Context) (h : Head) (t : TextLeaf) : Except Error Emitted := do
  let (content, color, diagnostics) := filledText c h t (← c.palette.css t.color)
  let style := placed h ++ sized t.width t.height ++ inset "margin" t.margin
    ++ [("font-family", "'" ++ withoutQuotes t.font.family ++ "'"), ("font-size", px t.font.size),
      ("font-weight", toString t.font.weight.toNat)]
    ++ (match t.font.lineHeight with | some x => [("line-height", px x)] | none => [])
    ++ [("text-align", t.align.word), ("color", color)]
  .ok ⟨[.element "div" (("data-node-id", h.id) :: styled style) [.text content]], diagnostics⟩

/-- The reference of an image: its value if it is bound as an image and has one. -/
def imageReference (c : Context) (h : Head) (b : Option Binding) (stored : String) : String :=
  match valueOf c h b with
  | some (b, v) => if b.kind = .image then v.value else stored
  | none => stored

/-- The address of a reference: itself if it holds its data, else the asset's data, else itself
and a report. -/
def inlined (c : Context) (h : Head) (reference : String) : String × List Diagnostic :=
  if (reference.after? "data:").isSome then (reference, [])
  else match c.assets reference with
    | some a => (a.dataUri, [])
    | none => (reference, [.missingAsset reference (some h.id)])

def imageNode (c : Context) (h : Head) (i : ImageLeaf) : Emitted :=
  let (src, diagnostics) := inlined c h (imageReference c h i.binding i.src)
  let display := match i.display with
    | .block => "block"
    | .inline => "inline-block"
  let style := placed h ++ sized i.width i.height
    ++ [("object-fit", i.fit.word), ("display", display)]
  ⟨[.void "img" ([("data-node-id", h.id), ("src", src), ("alt", "")] ++ styled style)],
    diagnostics⟩

def svgAttributes (h : Head) (width height : Float32) (viewBox : String) :
    List (String × String) :=
  [("data-node-id", h.id), ("xmlns", "http://www.w3.org/2000/svg"), ("width", width.plain),
    ("height", height.plain), ("viewBox", viewBox)] ++ styled (placed h ++ [("display", "block")])

/-- The id of a mask in the document. -/
def maskId (h : Head) (m : Mask) : String := h.id ++ "-" ++ m.id

/-- The mask of a clipped image. -/
def maskMarkup (h : Head) (m : Mask) : Markup :=
  let moved := match m.offset with
    | some o =>
      if o.isOrigin then [] else [("transform", s!"translate({o.x.plain} {o.y.plain})")]
    | none => []
  .element "defs" [] [.element "mask" [("id", maskId h m)]
    [.closed "path" ([("d", m.path), ("fill", "#ffffff")] ++ moved)]]

/-- The reference of a clipped image, if it has one of its own or a value for one. -/
def svgReference? (c : Context) (h : Head) (s : SvgLeaf) : Option String :=
  match s.image with
  | some src => some (imageReference c h s.binding src)
  | none =>
    match valueOf c h s.binding with
    | some (b, v) => if b.kind = .image then some v.value else none
    | none => none

/-- The image of a clipped image. -/
def clippedImage (s : SvgLeaf) (h : Head) (href : String) : Markup :=
  let (width, height) := (ViewBox.size? s.viewBox).getD (s.width, s.height)
  let masked := match s.mask with
    | some m => [("mask", "url(#" ++ maskId h m ++ ")")]
    | none => []
  .closed "image" ([("href", href), ("x", "0"), ("y", "0"), ("width", width.plain),
    ("height", height.plain), ("preserveAspectRatio", "xMidYMid slice")] ++ masked)

def svgNode (c : Context) (h : Head) (s : SvgLeaf) : Emitted :=
  let mask := (s.mask.map (maskMarkup h)).toList
  let (image, diagnostics) := match svgReference? c h s with
    | some reference =>
      let (href, diagnostics) := inlined c h reference
      ([clippedImage s h href], diagnostics)
    | none => ([], [])
  ⟨[.element "svg" (svgAttributes h s.width s.height s.viewBox) (mask ++ image)], diagnostics⟩

def half (x : Float32) : String := (x / 2).plain

/-- The element of a shape's outline, without its paint. -/
def outlineMarkup (s : ShapeLeaf) : String × List (String × String) :=
  match s.shape with
  | .rectangle radius =>
    ("rect", [("x", "0"), ("y", "0"), ("width", s.width.plain), ("height", s.height.plain)]
      ++ (if radius > 0 then [("rx", radius.plain)] else []))
  | .ellipse =>
    ("ellipse", [("cx", half s.width), ("cy", half s.height), ("rx", half s.width),
      ("ry", half s.height)])
  | .vector path _ => ("path", [("d", path)])

def shapeViewBox (s : ShapeLeaf) : String :=
  match s.shape with
  | .vector _ (some viewBox) => viewBox
  | _ => ViewBox.ofSize s.width s.height

def shapeNode (c : Context) (h : Head) (s : ShapeLeaf) : Except Error Emitted := do
  let fill ← match s.fill with
    | some paint => c.palette.css paint
    | none => .ok "none"
  let stroke ← match s.stroke with
    | some st => do
      .ok [("stroke", ← c.palette.css st.color), ("stroke-width", st.width.plain)]
    | none => .ok []
  let (tag, attributes) := outlineMarkup s
  .ok ⟨[.element "svg" (svgAttributes h s.width s.height (shapeViewBox s))
    [.closed tag (attributes ++ [("fill", fill)] ++ stroke)]], []⟩

def leafNode (c : Context) (h : Head) : Leaf → Except Error Emitted
  | .text t => textNode c h t
  | .image i => .ok (imageNode c h i)
  | .svg s => .ok (svgNode c h s)
  | .shape s => shapeNode c h s

mutual

def emit (c : Context) : Node → Except Error Emitted
  | .container h l cs =>
    if h.visible then do
      let style ← layoutStyle c.palette h l
      let inner ← emitAll c cs
      .ok ⟨[.element "div" (("data-node-id", h.id) :: styled style) inner.markup],
        inner.diagnostics⟩
    else .ok .none
  | .leaf h l => if h.visible then leafNode c h l else .ok .none

def emitAll (c : Context) : List Node → Except Error Emitted
  | [] => .ok .none
  | n :: ns => do
    let first ← emit c n
    let rest ← emitAll c ns
    .ok (first.append rest)

end

end VisualTemplate.Document
