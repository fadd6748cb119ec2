import VisualTemplate.Diagnostic
import VisualTemplate.Inference
import VisualTemplate.MaskedPair
import VisualTemplate.NodeIds
import VisualTemplate.Page.Text
import VisualTemplate.Vector
import VisualTemplate.ViewBox
/-!
The nodes that the elements of a page become.

Elements that arrange others become containers, texts become one leaf for each line, and pictures
and drawings become one leaf. Ids are numbered in the order of the tree, each node before its
children.
-/

namespace VisualTemplate.Page

open Html

variable [Engine]

/-- What has come of the elements so far. -/
structure Progress where
  ids : NodeIds := {}
  inference : Inference
  /-- The ids of the nodes that each element became, by the number of the element. -/
  made : List (Nat × List String) := []
  diagnostics : List Diagnostic := []

namespace Progress

def nextId (s : Progress) (kind : String) : String × Progress :=
  let (id, ids) := s.ids.next kind
  (id, { s with ids })

def infer (s : Progress) (text : String) : Option Binding × Progress :=
  let (binding, inference) := s.inference.infer text
  (binding, { s with inference })

def report (s : Progress) (d : Diagnostic) : Progress :=
  { s with diagnostics := s.diagnostics ++ [d] }

def record (s : Progress) (e : Element) (ns : List Node) : Progress :=
  { s with made := (e.serial, ns.map (·.id)) :: s.made }

end Progress

/-- Elements of which nothing is shown. -/
def ignoredTags : List String :=
  ["script", "style", "head", "meta", "link", "title", "template", "noscript", "br", "iframe"]

def styleOf (e : Element) : InlineStyle := .ofText ((e.plain? "style").getD "")

def backgroundOf (c : MarkupConfig) (style : InlineStyle) : Option Paint :=
  style.background.map (.ofText c.tokens)

/-- The width or the height of an element, from its style or else from its attribute. -/
def dimension? (e : Element) (style : InlineStyle) (name : String) : Option Length :=
  (style.length? name).or ((e.any? name).bind Length.ofText?)

/-- A line of text. -/
def line (s : Progress) (settings : TextSettings) (style : InlineStyle) (width height : Length)
    (content : String) : Node × Progress :=
  let (binding, s) := s.infer content
  let (id, s) := s.nextId "text"
  (.leaf { id := id } (.text
    { width, height, content
      font := settings.font
      align := settings.align
      color := settings.color
      margin := style.insets "margin"
      binding }), s)

/-- Several lines of text. -/
def linesOf (s : Progress) (settings : TextSettings) (style : InlineStyle)
    (width height : Length) : List String → List Node × Progress
  | [] => ([], s)
  | content :: rest =>
    let (n, s) := line s settings style width height content
    let (ns, s) := linesOf s settings style width height rest
    (n :: ns, s)

/-- The lines of a text element. Only a single line has the size of the element. -/
def text (s : Progress) (settings : TextSettings) (style : InlineStyle) (ds : List Dom) :
    List Node × Progress :=
  match lines ds with
  | [content] =>
    linesOf s settings style ((style.length? "width").getD .auto)
      ((style.length? "height").getD .auto) [content]
  | contents => linesOf s settings style .auto .auto contents

/-- A rule's text occurs in the source of an image. The empty text occurs nowhere. -/
def hasSource (source piece : String) : Bool := !piece.isEmpty && source.hasPiece piece

/-- The asset or address of an image, and the field that it is bound to. -/
def source (c : MarkupConfig) (raw : String) : String × Option Binding :=
  (((c.staticAssets.find? fun r => hasSource raw r.sourceContains).map (·.asset)).getD raw,
    (c.imageFields.find? fun r => hasSource raw r.sourceContains).map fun r =>
      ⟨r.field, .image, none⟩)

def image (c : MarkupConfig) (s : Progress) (style : InlineStyle) (e : Element) :
    Node × Progress :=
  let (src, binding) := source c (((e.any? "src").or (e.any? "data-src")).getD "")
  let (id, s) := s.nextId "image"
  (.leaf { id := id } (.image
    { width := (dimension? e style "width").getD .auto
      height := (dimension? e style "height").getD .auto
      src
      fit := style.objectFit
      display := if style.hasOne "display" ["inline", "inline-block"] then .inline else .block
      binding }), s)

/-- What a part of a drawing may be to a masked pair. -/
def roleOf (p : Place) : ChildRole :=
  if p.tag = "image" then .image
  else if Vector.shapeTags.contains p.tag && !(p.element.any? "fill").any Vector.refersToPattern then
    .shape
  else .other

/-- The pictures and shapes of a drawing that are not part of a pattern. -/
def partsOf (p : Place) : List Place :=
  p.descendants.filter fun q =>
    (q.tag = "image" || Vector.shapeTags.contains q.tag) && !q.around.any (·.tag == "pattern")

/-- The id of the mask around a shape. -/
def maskId (shape : Place) : String :=
  ((shape.around.find? fun e =>
    ["mask", "clippath"].any e.tag.sameIgnoringCase).bind (·.plain? "id")).getD "mask"

/-- The size of a drawing in pixels. -/
def sizeOf (p : Place) (style : InlineStyle) : Float32 × Float32 :=
  let box := (p.element.any? "viewBox").bind ViewBox.size?
  let px (name : String) : Option Float32 := (dimension? p.element style name).bind Length.px?
  (((px "width").or (box.map (·.1))).getD 0, ((px "height").or (box.map (·.2))).getD 0)

def viewBoxOf (p : Place) (style : InlineStyle) : String :=
  let (w, h) := sizeOf p style
  (p.element.any? "viewBox").getD (ViewBox.ofSize w h)

/-- An image that shows through a shape. A shape without a path is reported and becomes an
ellipse. -/
def clipped (c : MarkupConfig) (s : Progress) (style : InlineStyle) (p shape picture : Place) :
    Node × Progress :=
  let (id, s) := s.nextId "svg"
  let (width, height) := sizeOf p style
  let (path, s) := match Vector.elementPath? shape.element with
    | some path => (path, s)
    | none =>
      let (w, h) := ((p.element.any? "viewBox").bind ViewBox.size?).getD (width, height)
      (Vector.ellipse w h, s.report (.maskFallback id))
  let (src, binding) := source c ((picture.element.any? "href").getD "")
  (.leaf { id := id } (.svg
    { width, height
      viewBox := viewBoxOf p style
      mask := some ⟨maskId shape, path, none⟩
      image := if src.isEmpty then none else some src
      binding }), s)

/-- The fill of a drawing: that of its outline, or its own, or black. -/
def fillOf (c : MarkupConfig) (p : Place) : Option Paint :=
  let fill := ((Vector.outline p).findSome? (·.element.any? "fill")).or (p.element.any? "fill")
  let fill := fill.getD "#000000"
  if fill = "none" then none else some (.ofText c.tokens fill)

/-- A drawing: a picture clipped by a shape, or a shape, or nothing if it has no outline. -/
def drawing (c : MarkupConfig) (s : Progress) (style : InlineStyle) (p : Place) :
    List Node × Progress :=
  match maskedPair? roleOf (partsOf p) with
  | some (shape, picture) =>
    let (n, s) := clipped c s style p shape picture
    ([n], s)
  | none =>
    match Vector.pathOf? (Vector.outline p) with
    | none => ([], s)
    | some path =>
      let (width, height) := sizeOf p style
      let (id, s) := s.nextId "shape"
      ([.leaf { id := id } (.shape
        { width, height
          shape := .vector path (some (viewBoxOf p style))
          fill := fillOf c p })], s)

def flexOf (style : InlineStyle) : Flex where
  direction := style.direction
  justify := style.justify
  align := style.align
  gap := style.gap

/-- How an element arranges what is in it. -/
def layoutOf (c : MarkupConfig) (style : InlineStyle) : Layout :=
  let width := (style.length? "width").getD .auto
  let height := (style.length? "height").getD .auto
  let padding := style.insets "padding"
  let background := backgroundOf c style
  let overflow := style.overflow
  let boxSizing := style.boxSizing
  if style.isFlex then
    .flex { flexOf style with width, height, padding, background, overflow, boxSizing }
  else .box ⟨width, height, padding, background, overflow, boxSizing⟩

mutual

/-- The nodes of a part of a page. `around` are the elements around it, the nearest first. -/
def nodes (c : MarkupConfig) (around : List Element) (settings : TextSettings) (s : Progress) :
    Dom → List Node × Progress
  | .text t =>
    let content := Text.collapse t.toList
    if content.isEmpty then ([], s)
    else linesOf s settings {} .auto .auto [.ofList content]
  | .element e cs =>
    if ignoredTags.contains e.tag then ([], s)
    else
      let style := styleOf e
      let settings := settings.below c.tokens e.tag style
      let (ns, s) :=
        if e.tag = "img" then
          let (n, s) := image c s style e
          ([n], s)
        else if e.tag = "svg" then drawing c s style (.mk e cs [] [] around none)
        else if isText cs then text s settings style cs
        else
          let layout := layoutOf c style
          let (id, s) := s.nextId layout.kind
          let (children, s) := nodesIn c (e :: around) settings s cs
          ([.container { id := id } layout children], s)
      let ns := if style.isHidden then ns.map Node.hide else ns
      (ns, s.record e ns)
  | .contents _ => ([], s)
  | .other => ([], s)

def nodesIn (c : MarkupConfig) (around : List Element) (settings : TextSettings) (s : Progress) :
    List Dom → List Node × Progress
  | [] => ([], s)
  | d :: ds =>
    let (ns, s) := nodes c around settings s d
    let (more, s) := nodesIn c around settings s ds
    (ns ++ more, s)

end

/-- The frame that the root becomes. What a flex box arranges stands in a box of the same size. -/
def frame (c : MarkupConfig) (s : Progress) (root : Place) : Node × Progress :=
  let e := root.element
  let style := styleOf e
  let settings := ({} : TextSettings).below c.tokens e.tag style
  let (id, s) := s.nextId "frame"
  let (children, s) :=
    if style.isFlex then
      let (id, s) := s.nextId "flex"
      let (children, s) := nodesIn c (e :: root.around) settings s root.children
      let layout := Layout.flex { flexOf style with width := .percent 100, height := .percent 100 }
      ([Node.container { id := id } layout children], s)
    else nodesIn c (e :: root.around) settings s root.children
  let n := Node.container { id := id } (.frame
    { width := c.canvas.width
      height := c.canvas.height
      padding := style.insets "padding"
      background := backgroundOf c style }) children
  (n, s.record e [n])

end VisualTemplate.Page
