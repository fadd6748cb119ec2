import VisualTemplate.Html.Builder
/-!
Formatting elements.

An element such as `b` that is closed from outside by another element is opened again behind that
element, so that formatting goes on across blocks.
-/

namespace VisualTemplate.Html

/-- Elements that generic end tags do not reach beyond. -/
def specialTags : List String :=
  ["address", "applet", "area", "article", "aside", "base", "basefont", "bgsound", "blockquote",
    "body", "br", "button", "caption", "center", "col", "colgroup", "dd", "details", "dir", "div",
    "dl", "dt", "embed", "fieldset", "figcaption", "figure", "footer", "form", "frame",
    "frameset", "h1", "h2", "h3", "h4", "h5", "h6", "head", "header", "hgroup", "hr", "html",
    "iframe", "img", "input", "isindex", "li", "link", "listing", "main", "marquee", "menu",
    "meta", "nav", "noembed", "noframes", "noscript", "object", "ol", "p", "param", "plaintext",
    "pre", "script", "section", "select", "source", "style", "summary", "table", "tbody", "td",
    "template", "textarea", "tfoot", "th", "thead", "title", "tr", "track", "ul", "wbr", "xmp"]

def isSpecial (n : Name) : Bool := n.isOneOf specialTags

namespace Formatting

def isMark : Formatting → Bool
  | mark => true
  | _ => false

def isNode (node : Nat) : Formatting → Bool
  | element n _ => n == node
  | mark => false

/-- Two tags with the same name and the same attributes in any order. -/
def sameTag (t u : Tag) : Bool :=
  let key (a : Attribute) : String × String := (a.name, a.value)
  let within (as bs : List Attribute) : Bool := as.all fun a => bs.any fun b => key a == key b
  t.name == u.name && t.attributes.length == u.attributes.length
    && within t.attributes u.attributes && within u.attributes t.attributes

/-- The entries behind the last mark, the latest first. -/
def recent (fs : List Formatting) : List Formatting := fs.takeWhile (!·.isMark)

def clearToMark (fs : List Formatting) : List Formatting := (fs.dropWhile (!·.isMark)).drop 1

def isLike (t : Tag) : Formatting → Bool
  | element _ u => sameTag t u
  | mark => false

/-- Removes the last entry with a property. -/
def eraseLast (p : Formatting → Bool) (fs : List Formatting) : List Formatting :=
  (fs.reverse.eraseP p).reverse

/-- No more than three like entries are kept behind a mark. -/
def limit (t : Tag) (fs : List Formatting) : List Formatting :=
  let near := recent fs
  if (near.countP (isLike t)) < 3 then fs
  else eraseLast (isLike t) near ++ fs.drop near.length

end Formatting

namespace Builder

open Formatting

def isOpenNode (b : Builder) (node : Nat) : Bool := b.opened.any (·.node == node)

def mark (b : Builder) : Builder := { b with formatting := .mark :: b.formatting }

def clearFormatting (b : Builder) : Builder :=
  { b with formatting := clearToMark b.formatting }

/-- The entries to be opened again, the earliest first, and the others, the latest first. -/
def closedFormatting (b : Builder) : List (Nat × Tag) → List Formatting →
    List (Nat × Tag) × List Formatting
  | found, .element n t :: fs =>
    if b.isOpenNode n then (found, .element n t :: fs)
    else closedFormatting b ((n, t) :: found) fs
  | found, fs => (found, fs)

/-- Opens formatting elements again. -/
def reopen (b : Builder) : List (Nat × Tag) → Builder
  | [] => b
  | (_, t) :: rest =>
    let (n, b) := b.openNamed (html t.name) t.attributes
    { b with formatting := .element n t :: b.formatting }.reopen rest

/-- Opens the formatting elements again that were closed from outside. -/
def reconstruct (b : Builder) : Builder :=
  let (found, kept) := b.closedFormatting [] b.formatting
  { b with formatting := kept }.reopen found

/-- Opens a formatting element. -/
def openFormatting (b : Builder) (t : Tag) : Builder :=
  let (n, b) := b.openNamed (html t.name) t.attributes
  { b with formatting := .element n t :: limit t b.formatting }

/-- Closes the innermost element of a tag, unless a special element is further in. -/
def closeGeneric (b : Builder) (tag : String) : Builder :=
  match b.opened.find? fun o => o.name.is tag || isSpecial o.name with
  | some o =>
    if o.name.is tag then
      let rest := (b.opened.dropWhile (·.node != o.node)).drop 1
      { b with opened := rest }
    else b
  | none => b

/-! ### Misnested end tags -/

/-- Moving the content between a formatting element and the block that ends it. -/
structure Adoption where
  builder : Builder
  /-- The node that has been moved last. -/
  last : Nat
  /-- The entry that the new formatting element comes behind; in the place of the old one if
  absent. -/
  bookmark : Option Nat
  /-- How many elements have been passed. -/
  passed : Nat

def replaceOpen (node : Nat) (o : Open) (os : List Open) : List Open :=
  os.map fun p => if p.node = node then o else p

def replaceFormatting (node : Nat) (f : Formatting) (fs : List Formatting) : List Formatting :=
  fs.map fun g => if g.isNode node then f else g

/-- Passes one open element between the block and the formatting element: it is left out, or a
copy of it takes what has been moved last. -/
def Adoption.pass (a : Adoption) (block : Nat) (o : Open) : Adoption :=
  let b := a.builder
  let passed := a.passed + 1
  match b.formatting.find? (·.isNode o.node) with
  | some (.element _ t) =>
    if 3 < passed then
      { a with
        passed
        builder := { b.remove o.node with
          formatting := b.formatting.filter fun f => !f.isNode o.node } }
    else
      let (n, f) := b.forest.makeElement (html t.name) t.attributes
      let f := (f.detach a.last).append n a.last
      { builder := { b with
          forest := f
          opened := replaceOpen o.node ⟨n, html t.name⟩ b.opened
          formatting := replaceFormatting o.node (.element n t) b.formatting }
        last := n
        bookmark := if a.last = block then some n else a.bookmark
        passed }
  | _ => { a with passed, builder := b.remove o.node }

/-- Puts an entry right behind another; the latest stand first. -/
def insertBehind (node : Nat) (f : Formatting) (fs : List Formatting) : List Formatting :=
  fs.flatMap fun g => if g.isNode node then [f, g] else [g]

/-- Puts an open element right inside of another. -/
def insertInside (node : Nat) (o : Open) (os : List Open) : List Open :=
  os.flatMap fun p => if p.node = node then [o, p] else [p]

/-- Ends a formatting element in which a block is still open: the block leaves it, and what the
block holds goes into a new element of the same tag. -/
def adopt (b : Builder) (node : Nat) (t : Tag) (block ancestor : Open) (between : List Open) :
    Builder :=
  let a : Adoption := between.foldl (fun (a : Adoption) o => a.pass block.node o)
    ⟨b, block.node, none, 0⟩
  let b := { a.builder with forest := a.builder.forest.detach a.last }
  let b := b.place (b.targetIn ancestor) a.last
  let (n, f) := b.forest.makeElement (html t.name) t.attributes
  let f := (f.moveChildren block.node n).append block.node n
  let entry := Formatting.element n t
  let formatting := match a.bookmark with
    | none => replaceFormatting node entry b.formatting
    | some k => (insertBehind k entry b.formatting).filter fun g => !g.isNode node
  let opened := insertInside block.node ⟨n, html t.name⟩ (b.opened.filter (·.node != node))
  { b with forest := f, formatting, opened }

/-- One round of closing a formatting element; `none` once it is closed. -/
def closeFormattingOnce (b : Builder) (tag : String) : Builder × Bool :=
  match (recent b.formatting).findSome? fun f =>
      match f with
      | .element n t => if t.name == tag then some (n, t) else none
      | .mark => none with
  | none => (b.closeGeneric tag, false)
  | some (node, t) =>
    let forget (b : Builder) : Builder :=
      { b with formatting := b.formatting.filter fun f => !f.isNode node }
    if !b.isOpenNode node then (forget b, false)
    else if !inScope defaultBoundary (·.node == node) b.opened then (b, false)
    else
      let inner := b.opened.takeWhile (·.node != node)
      let outer := (b.opened.dropWhile (·.node != node)).drop 1
      match (inner.reverse.find? fun o => isSpecial o.name), outer with
      | some block, ancestor :: _ =>
        let between := (inner.dropWhile (·.node != block.node)).drop 1
        (b.adopt node t block ancestor between, true)
      | _, _ => (forget { b with opened := outer }, false)

def closeFormattingTimes (tag : String) : Nat → Builder → Builder
  | 0, b => b
  | n + 1, b =>
    match b.closeFormattingOnce tag with
    | (b, true) => closeFormattingTimes tag n b
    | (b, false) => b

/-- Closes the formatting element of an end tag, in eight rounds at most. -/
def closeFormatting (b : Builder) (tag : String) : Builder :=
  match b.opened with
  | o :: _ =>
    if o.name.is tag && !b.formatting.any (·.isNode o.node) then b.pop
    else closeFormattingTimes tag 8 b
  | [] => b

/-- A link inside a link ends the outer one. -/
def endLink (b : Builder) : Builder :=
  match (recent b.formatting).findSome? fun f =>
      match f with
      | .element n t => if t.name == "a" then some n else none
      | .mark => none with
  | none => b
  | some n =>
    let b := b.closeFormatting "a"
    { b.remove n with formatting := b.formatting.filter fun f => !f.isNode n }

end Builder

end VisualTemplate.Html
