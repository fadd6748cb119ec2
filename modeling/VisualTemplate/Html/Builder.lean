import VisualTemplate.Html.Forest
import VisualTemplate.Html.Token
/-!
The state in which a document is built from tokens: the open elements, the formatting elements to
be opened again, and the rules that hold at the moment.
-/

namespace VisualTemplate.Html

/-- Which rules the next token falls under. -/
inductive Mode where
  | start
  | beforeHtml
  | beforeHead
  | inHead
  | afterHead
  | inBody
  | text
  | inTable
  | inTableText
  | inCaption
  | inColumns
  | inTableBody
  | inRow
  | inCell
  | inSelect
  | inSelectInTable
  | inTemplate
  | afterBody
  | inFrameset
  | afterFrameset
  | afterAfterBody
  | afterAfterFrameset
  deriving DecidableEq, Repr

/-- An open element. -/
structure Open where
  node : Nat
  name : Name
  deriving DecidableEq

/-- A formatting element with its tag, or a mark that none is opened again from beyond. -/
inductive Formatting where
  | mark
  | element (node : Nat) (tag : Tag)

structure Builder where
  forest : Forest := {}
  /-- The open elements, the innermost first. -/
  opened : List Open := []
  /-- The formatting elements, the latest first. -/
  formatting : List Formatting := []
  mode : Mode := .start
  /-- The rules to go back to behind text. -/
  returnMode : Mode := .start
  /-- The rules inside the open templates, the innermost first. -/
  templateModes : List Mode := []
  /-- Text inside a table that has no place yet. -/
  pending : List (Bool × List Char) := []
  head : Option Nat := none
  form : Option Nat := none
  framesetAllowed : Bool := true
  /-- What a table may not hold is put in front of it. -/
  fostering : Bool := false
  /-- A line feed at the start of the next token does not count. -/
  dropsLineFeed : Bool := false
  /-- The document is of an old kind, in which a table does not end a paragraph. -/
  isQuirky : Bool := false
  /-- The element around a fragment. -/
  context : Option Name := none
  /-- How the next token is read. -/
  reading : Reading := .markup

namespace Builder

def isFragment (b : Builder) : Bool := b.context.isSome

/-! ### Open elements -/

def currentIs (b : Builder) (p : Name → Bool) : Bool :=
  match b.opened with
  | o :: _ => p o.name
  | [] => false

def currentIsTag (b : Builder) (tag : String) : Bool := b.currentIs (·.is tag)

/-- The name of the innermost element; that of the context at the top of a fragment. -/
def adjustedCurrent? (b : Builder) : Option Name :=
  match b.opened, b.context with
  | [_], some c => some c
  | o :: _, _ => some o.name
  | [], _ => none

/-- An element with a property is open inside the innermost element of a boundary. -/
def inScope (boundary p : Open → Bool) : List Open → Bool
  | [] => false
  | o :: os => p o || (!boundary o && inScope boundary p os)

def isDefaultBoundary (n : Name) : Bool :=
  n.isOneOf ["applet", "caption", "html", "table", "td", "th", "marquee", "object", "template"]
    || isMathTextPoint n || isSvgContentPoint n

def defaultBoundary (o : Open) : Bool := isDefaultBoundary o.name
def listBoundary (o : Open) : Bool := isDefaultBoundary o.name || o.name.isOneOf ["ol", "ul"]
def buttonBoundary (o : Open) : Bool := isDefaultBoundary o.name || o.name.is "button"
def tableBoundary (o : Open) : Bool := o.name.isOneOf ["html", "table", "template"]
def selectBoundary (o : Open) : Bool := !o.name.isOneOf ["optgroup", "option"]

def hasIn (b : Builder) (boundary : Open → Bool) (tags : List String) : Bool :=
  inScope boundary (fun o => o.name.isOneOf tags) b.opened

def hasOpen (b : Builder) (tag : String) : Bool := b.opened.any (·.name.is tag)

def pop (b : Builder) : Builder := { b with opened := b.opened.drop 1 }

/-- Closes elements up to and including the first with a property. -/
def popThrough (b : Builder) (p : Name → Bool) : Builder :=
  { b with opened := (b.opened.dropWhile fun o => !p o.name).drop 1 }

def popThroughTag (b : Builder) (tag : String) : Builder := b.popThrough (·.is tag)

/-- Closes elements up to the first with one of some tags. -/
def popTo (b : Builder) (tags : List String) : Builder :=
  { b with opened := b.opened.dropWhile fun o => !o.name.isOneOf tags }

def remove (b : Builder) (node : Nat) : Builder :=
  { b with opened := b.opened.filter (·.node != node) }

/-- Elements whose end tags may be left out. -/
def impliedTags : List String :=
  ["dd", "dt", "li", "option", "optgroup", "p", "rb", "rp", "rt", "rtc"]

def allImpliedTags : List String :=
  impliedTags ++ ["caption", "colgroup", "tbody", "td", "tfoot", "th", "thead", "tr"]

/-- Closes the innermost elements with one of some tags. -/
def popAll (b : Builder) (tags : List String) : Builder :=
  { b with opened := b.opened.dropWhile fun o => o.name.isOneOf tags }

def popImplied (b : Builder) : Builder := b.popAll impliedTags

def popImpliedExcept (b : Builder) (tag : String) : Builder := b.popAll (impliedTags.erase tag)

/-- Closes an element with what is open in it. -/
def closeElement (b : Builder) (tag : String) : Builder := b.popImplied.popThroughTag tag

def closeParagraph (b : Builder) : Builder := (b.popImpliedExcept "p").popThroughTag "p"

/-- Closes a paragraph that is open. -/
def endParagraph (b : Builder) : Builder :=
  if b.hasIn buttonBoundary ["p"] then b.closeParagraph else b

/-! ### Insertion -/

/-- Where the next node goes. -/
inductive Target where
  | below (parent : Nat)
  /-- In front of a table, or below the element around it if the table has no place. -/
  | before (table around : Nat)

/-- The place in front of the innermost table, or inside of a template that is further in. -/
def fosterTarget (f : Forest) : List Open → Target
  | [] => .below 0
  | [o] => .below o.node
  | o :: p :: os =>
    if o.name.is "template" then .below (f.contentsOf o.node)
    else if o.name.is "table" then .before o.node p.node
    else fosterTarget f (p :: os)

/-- The place for a node that belongs below an element. -/
def targetIn (b : Builder) (o : Open) : Target :=
  if b.fostering && o.name.isOneOf ["table", "tbody", "tfoot", "thead", "tr"] then
    fosterTarget b.forest b.opened
  else if o.name.is "template" then .below (b.forest.contentsOf o.node)
  else .below o.node

def target (b : Builder) : Target :=
  match b.opened with
  | o :: _ => b.targetIn o
  | [] => .below 0

def place (b : Builder) (t : Target) (node : Nat) : Builder :=
  let f := b.forest
  { b with forest := match t with
    | .below parent => f.append parent node
    | .before table around =>
      if (f.parent? table).isSome then f.insertBefore table node else f.append around node }

def addText (b : Builder) (text : List Char) : Builder :=
  let f := b.forest
  let s := String.ofList text
  { b with forest := match b.target with
    | .below parent => f.appendText parent s
    | .before table around =>
      if (f.parent? table).isSome then f.insertTextBefore table s else f.appendText around s }

def addComment (b : Builder) : Builder :=
  let (n, f) := b.forest.make .other
  { b with forest := f }.place b.target n

/-- A comment below a given node. -/
def addCommentBelow (b : Builder) (parent : Nat) : Builder :=
  let (n, f) := b.forest.make .other
  { b with forest := f.append parent n }

/-- The outermost element. -/
def rootNode (b : Builder) : Nat := (b.opened.getLast?.map (·.node)).getD 0

/-- Makes an element and puts it where the next node goes. -/
def insert (b : Builder) (name : Name) (as : List Attribute) : Nat × Builder :=
  let (n, f) := b.forest.makeElement name as
  (n, { b with forest := f }.place b.target n)

def push (b : Builder) (name : Name) (node : Nat) : Builder :=
  { b with opened := ⟨node, name⟩ :: b.opened }

/-- Makes an element and opens it. -/
def openNamed (b : Builder) (name : Name) (as : List Attribute) : Nat × Builder :=
  let (n, b) := b.insert name as
  (n, b.push name n)

/-- Opens the element of a tag. -/
def openTag (b : Builder) (t : Tag) : Builder := (b.openNamed (html t.name) t.attributes).2

/-- Opens an element that the text left out. -/
def openImplied (b : Builder) (tag : String) : Builder := (b.openNamed (html tag) []).2

/-- Makes the element of a tag, which holds nothing. -/
def addVoid (b : Builder) (t : Tag) : Builder := (b.insert (html t.name) t.attributes).2

/-- Makes the outermost element. -/
def openRoot (b : Builder) (as : List Attribute) : Builder :=
  let (n, f) := b.forest.makeElement (html "html") as
  { b with forest := f.append 0 n }.push (html "html") n

/-- Opens the element of a tag, which holds nothing but text. -/
def openText (b : Builder) (t : Tag) (kind : TextKind) : Builder :=
  let b := b.openTag t
  { b with returnMode := b.mode, mode := .text, reading := .text kind t.name }

/-! ### Rules -/

/-- The rules for what is left open when an element is closed. -/
def modeOf (b : Builder) : List Open → Mode
  | [] => .inBody
  | o :: os =>
    let last := os.isEmpty
    let name := match b.context with
      | some c => if last then c else o.name
      | none => o.name
    if name.space ≠ .html then modeOf b os
    else match name.tag with
    | "select" =>
      match os.find? fun p => p.name.isOneOf ["template", "table"] with
      | some p => if p.name.is "table" then .inSelectInTable else .inSelect
      | none => .inSelect
    | "td" | "th" => if last then modeOf b os else .inCell
    | "tr" => .inRow
    | "tbody" | "thead" | "tfoot" => .inTableBody
    | "caption" => .inCaption
    | "colgroup" => .inColumns
    | "table" => .inTable
    | "template" => b.templateModes.headD .inBody
    | "head" => if last then modeOf b os else .inHead
    | "body" => .inBody
    | "frameset" => .inFrameset
    | "html" => if b.head.isSome then .afterHead else .beforeHead
    | _ => modeOf b os

/-- Goes back to the rules for what is open. -/
def resetMode (b : Builder) : Builder := { b with mode := b.modeOf b.opened }

end Builder

/-- The state behind a token, and whether the token is looked at again. -/
structure Step where
  builder : Builder
  again : Bool

namespace Builder

def done (b : Builder) : Step := ⟨b, false⟩

/-- Looks at the token again under other rules. -/
def retry (b : Builder) (m : Mode) : Step := ⟨{ b with mode := m }, true⟩

def withMode (b : Builder) (m : Mode) : Builder := { b with mode := m }

end Builder

end VisualTemplate.Html
