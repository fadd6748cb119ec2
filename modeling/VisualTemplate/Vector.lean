import VisualTemplate.Decimal.Reading
import VisualTemplate.Html
import VisualTemplate.Html.Place
/-!
Outlines of vector markup as path data.

Every basic shape has a path. The outline of a drawing is made of the shapes that clip it, or of
all its shapes if none does; what is inside a pattern is never an outline.
-/

namespace VisualTemplate.Vector

open Html

/-- The path of an ellipse, as two arcs. -/
def ellipseAt (cx cy rx ry : Float32) : String :=
  s!"M{(cx - rx).plain} {cy.plain}A{rx.plain} {ry.plain} 0 1 0 {(cx + rx).plain} {cy.plain}"
    ++ s!"A{rx.plain} {ry.plain} 0 1 0 {(cx - rx).plain} {cy.plain}Z"

/-- The path of the ellipse that fills a box. -/
def ellipse (width height : Float32) : String :=
  ellipseAt (width / 2) (height / 2) (width / 2) (height / 2)

def shapeTags : List String := ["path", "circle", "ellipse", "rect", "polygon", "polyline"]

/-- The number of an attribute, or 0. -/
def number (e : Element) (name : String) : Float32 :=
  ((e.plain? name).bind fun v =>
    let cs := Text.trim v.toList
    Float32.ofText? (.ofList (Text.dropEndings ['p', 'x'] cs))).getD 0

/-- The lines to further points. -/
def linesTo : List String → String
  | x :: y :: rest => s!"L{x} {y}" ++ linesTo rest
  | _ => ""

/-- The path through a list of points, of which there must be two at least. -/
def polyline? (points : String) : Option String :=
  match (Text.fields Text.isListMark points.toList).map String.ofList with
  | x :: y :: z :: w :: rest => some (s!"M{x} {y}" ++ linesTo (z :: w :: rest))
  | _ => none

def positive (x : Float32) : Bool := x > 0

/-- The path of a basic shape; nothing for shapes without extent and for other elements. -/
def elementPath? (e : Element) : Option String :=
  let n := number e
  match e.tag with
  | "path" =>
    (e.plain? "d").bind fun d => if d.isBlank then none else some d.trimmed
  | "circle" => if positive (n "r") then some (ellipseAt (n "cx") (n "cy") (n "r") (n "r")) else none
  | "ellipse" =>
    if positive (n "rx") && positive (n "ry") then
      some (ellipseAt (n "cx") (n "cy") (n "rx") (n "ry"))
    else none
  | "rect" =>
    if positive (n "width") && positive (n "height") then
      let (x, y) := (n "x", n "y")
      let (right, bottom) := (x + n "width", y + n "height")
      some s!"M{x.plain} {y.plain}H{right.plain}V{bottom.plain}H{x.plain}Z"
    else none
  | "polygon" => ((e.plain? "points").bind polyline?).map (· ++ "Z")
  | "polyline" => (e.plain? "points").bind polyline?
  | _ => none

/-- The element stands inside of one with one of some names, the case of letters apart. -/
def isInside (p : Place) (tags : List String) : Bool :=
  p.around.any fun e => tags.any e.tag.sameIgnoringCase

/-- A fill that refers to a pattern. -/
def refersToPattern (fill : String) : Bool :=
  ((String.ofList (fill.toList.dropWhile Text.isBlank)).after? "url(").isSome

def isPatternFilled (e : Element) : Bool :=
  match e.plain? "fill" with
  | some fill => refersToPattern fill
  | none => false

/-- The shapes below an element that make up its outline. -/
def outline (p : Place) : List Place :=
  let shapes := p.descendants.filter fun q =>
    shapeTags.contains q.tag && !isInside q ["pattern"]
  let clipping := shapes.filter fun q => isInside q ["mask", "clippath"]
  if clipping.isEmpty then shapes.filter fun q => !isPatternFilled q.element else clipping

/-- The path of several shapes. -/
def pathOf? (shapes : List Place) : Option String :=
  let paths := shapes.filterMap fun p => elementPath? p.element
  if paths.isEmpty then none else some (" ".intercalate paths)

/-- The drawing of a text of vector markup. -/
def drawing? (d : Html.Document) : Option Place := d.inOrder.find? (·.tag == "svg")

/-- The path of the outline of vector markup. -/
def path? (markup : String) : Option String :=
  let d := Html.Document.ofFragment markup
  ((drawing? d).or ((placesIn none [] [] d.children).head?)).bind fun p => pathOf? (outline p)

/-- The view box of vector markup. -/
def viewBox? (markup : String) : Option String :=
  (drawing? (Html.Document.ofFragment markup)).bind fun p => p.element.any? "viewBox"

end VisualTemplate.Vector
