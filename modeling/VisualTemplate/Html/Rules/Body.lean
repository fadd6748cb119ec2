import VisualTemplate.Html.Rules.Head
/-!
Rules for the content of a page.
-/

namespace VisualTemplate.Html.Builder

/-- The body, if the second element from outside is one. -/
def body? (b : Builder) : Option Open :=
  match b.opened.reverse with
  | _ :: o :: _ => if o.name.is "body" then some o else none
  | _ => none

def noFrameset (b : Builder) : Builder := { b with framesetAllowed := false }

/-- A second `body` tag only adds attributes to the first. -/
def repeatBody (b : Builder) (t : Tag) : Builder :=
  match b.body? with
  | some o =>
    if b.hasOpen "template" then b
    else { b.noFrameset with forest := b.forest.addMissing o.node t.attributes }
  | none => b

/-- Frames take the place of a body that holds nothing yet. -/
def lateFrameset (b : Builder) (t : Tag) : Builder :=
  match b.body? with
  | some o =>
    if b.framesetAllowed then
      let b := { b with
        forest := b.forest.detach o.node
        opened := b.opened.drop (b.opened.length - 1) }
      (b.openTag t).withMode .inFrameset
    else b
  | none => b

def openForm (b : Builder) (t : Tag) : Builder :=
  let inTemplate := b.hasOpen "template"
  if b.form.isSome && !inTemplate then b
  else
    let (n, b) := b.endParagraph.openNamed (html t.name) t.attributes
    if inTemplate then b else { b with form := some n }

/-- Items of lists end those before them. -/
def openItem (b : Builder) (t : Tag) : Builder :=
  let b := b.noFrameset
  let siblings := if t.name == "li" then ["li"] else ["dd", "dt"]
  let bars (n : Name) : Bool := isSpecial n && !n.isOneOf ["address", "div", "p"]
  let b := match b.opened.find? fun o => o.name.isOneOf siblings || bars o.name with
    | some o =>
      if o.name.isOneOf siblings then
        (b.popImpliedExcept o.name.tag).popThroughTag o.name.tag
      else b
    | none => b
  b.endParagraph.openTag t

def openButton (b : Builder) (t : Tag) : Builder :=
  let b := if b.hasIn defaultBoundary ["button"] then b.closeElement "button" else b
  (b.reconstruct.openTag t).noFrameset

def headings : List String := ["h1", "h2", "h3", "h4", "h5", "h6"]

def openHeading (b : Builder) (t : Tag) : Builder :=
  let b := b.endParagraph
  (if b.currentIs (·.isOneOf headings) then b.pop else b).openTag t

def openNobr (b : Builder) (t : Tag) : Builder :=
  let b := b.reconstruct
  let b := if b.hasIn defaultBoundary ["nobr"] then (b.closeFormatting "nobr").reconstruct else b
  b.openFormatting t

def isHiddenInput (t : Tag) : Bool :=
  t.attributes.any fun a => a.name == "type" && a.value.sameIgnoringCase "hidden"

/-- An element of text that holds nothing. -/
def addInline (b : Builder) (t : Tag) : Builder :=
  let b := b.reconstruct.addVoid t
  if t.name == "input" && isHiddenInput t then b else b.noFrameset

def openSelect (b : Builder) (t : Tag) : Builder :=
  let inTable := [Mode.inTable, .inCaption, .inTableBody, .inRow, .inCell].contains b.mode
  ((b.reconstruct.openTag t).noFrameset).withMode (if inTable then .inSelectInTable else .inSelect)

/-- Opens vector or mathematical markup. -/
def openForeign (b : Builder) (space : Space) (t : Tag) : Builder :=
  let name : Name := ⟨space, adjustTag space t.name⟩
  let as := t.attributes.map (adjustAttribute space)
  if t.selfClosing then (b.insert name as).2 else (b.openNamed name as).2

/-- Blocks that end a paragraph. -/
def blockTags : List String :=
  ["address", "article", "aside", "blockquote", "center", "details", "dialog", "dir", "div", "dl",
    "fieldset", "figcaption", "figure", "footer", "header", "hgroup", "main", "menu", "nav", "ol",
    "p", "section", "summary", "ul"]

/-- Blocks that have an end tag of their own. -/
def closedBlockTags : List String := blockTags.erase "p" ++ ["button", "listing", "pre"]

def formattingTags : List String :=
  ["b", "big", "code", "em", "font", "i", "s", "small", "strike", "strong", "tt", "u"]

/-- Tags that have no place outside of their own context. -/
def misplacedTags : List String :=
  ["caption", "col", "colgroup", "frame", "head", "tbody", "td", "tfoot", "th", "thead", "tr"]

def bodyOpening (b : Builder) (t : Tag) : Builder :=
  let n := t.name
  if n == "html" then b.repeatHtml t
  else if headTags.contains n then b.headElement t
  else if n == "body" then b.repeatBody t
  else if n == "frameset" then b.lateFrameset t
  else if blockTags.contains n then b.endParagraph.openTag t
  else if headings.contains n then b.openHeading t
  else if ["pre", "listing"].contains n then
    { b.endParagraph.openTag t with dropsLineFeed := true, framesetAllowed := false }
  else if n == "form" then b.openForm t
  else if ["li", "dd", "dt"].contains n then b.openItem t
  else if n == "plaintext" then { b.endParagraph.openTag t with reading := .rest }
  else if n == "button" then b.openButton t
  else if n == "a" then b.endLink.reconstruct.openFormatting t
  else if formattingTags.contains n then b.reconstruct.openFormatting t
  else if n == "nobr" then b.openNobr t
  else if ["applet", "marquee", "object"].contains n then (b.reconstruct.openTag t).mark.noFrameset
  else if n == "table" then
    ((if b.isQuirky then b else b.endParagraph).openTag t).noFrameset.withMode .inTable
  else if ["area", "br", "embed", "img", "keygen", "wbr", "input"].contains n then b.addInline t
  else if ["param", "source", "track"].contains n then b.addVoid t
  else if n == "hr" then (b.endParagraph.addVoid t).noFrameset
  else if n == "image" then b.addInline { t with name := "img" }
  else if n == "textarea" then
    { (b.noFrameset).openText t .escapable with dropsLineFeed := true }
  else if n == "xmp" then b.endParagraph.reconstruct.noFrameset.openText t .raw
  else if n == "iframe" then b.noFrameset.openText t .raw
  else if ["noembed", "noscript"].contains n then b.openText t .raw
  else if n == "select" then b.openSelect t
  else if ["optgroup", "option"].contains n then
    (if b.currentIsTag "option" then b.pop else b).reconstruct.openTag t
  else if ["rb", "rtc"].contains n then
    (if b.hasIn defaultBoundary ["ruby"] then b.popImplied else b).openTag t
  else if ["rp", "rt"].contains n then
    (if b.hasIn defaultBoundary ["ruby"] then b.popImpliedExcept "rtc" else b).openTag t
  else if n == "math" then b.openForeign .mathml t
  else if n == "svg" then b.openForeign .svg t
  else if misplacedTags.contains n then b
  else b.reconstruct.openTag t

def closeForm (b : Builder) : Builder :=
  if b.hasOpen "template" then
    if b.hasIn defaultBoundary ["form"] then b.closeElement "form" else b
  else match b.form with
    | none => b
    | some n =>
      let b := { b with form := none }
      if inScope defaultBoundary (·.node == n) b.opened then b.popImplied.remove n else b

/-- Closes the element of an end tag if it is open within a boundary. -/
def closeWithin (b : Builder) (boundary : Open → Bool) (name : String) : Builder :=
  if b.hasIn boundary [name] then b.closeElement name else b

def closeItem (b : Builder) (name : String) : Builder :=
  let boundary := if name == "li" then listBoundary else defaultBoundary
  if b.hasIn boundary [name] then (b.popImpliedExcept name).popThroughTag name else b

def closeHeading (b : Builder) : Builder :=
  if b.hasIn defaultBoundary headings then b.popImplied.popThrough (·.isOneOf headings) else b

def bodyClosing (b : Builder) (name : String) : Step :=
  if name == "template" then b.closeTemplate.done
  else if name == "body" then
    (if b.hasIn defaultBoundary ["body"] then b.withMode .afterBody else b).done
  else if name == "html" then
    if b.hasIn defaultBoundary ["body"] then b.retry .afterBody else b.done
  else if closedBlockTags.contains name then (b.closeWithin defaultBoundary name).done
  else if name == "form" then b.closeForm.done
  else if name == "p" then
    (if b.hasIn buttonBoundary ["p"] then b else b.openImplied "p").closeParagraph.done
  else if ["li", "dd", "dt"].contains name then (b.closeItem name).done
  else if headings.contains name then b.closeHeading.done
  else if formattingTags.contains name || ["a", "nobr"].contains name then
    (b.closeFormatting name).done
  else if ["applet", "marquee", "object"].contains name then
    (if b.hasIn defaultBoundary [name] then (b.closeElement name).clearFormatting else b).done
  else if name == "br" then (b.addInline { name := name }).done
  else (b.closeGeneric name).done

/-- The end of the text inside of templates closes them one by one. -/
def endTemplate (b : Builder) : Step :=
  if b.hasOpen "template" then
    let b := (b.popThroughTag "template").clearFormatting
    ⟨{ b with templateModes := b.templateModes.drop 1 }.resetMode, true⟩
  else b.done

def inBody (b : Builder) (token : Token) : Step :=
  match token with
  | .zero | .doctype _ => b.done
  | .characters isBlank text =>
    let b := b.reconstruct
    ((if isBlank then b else b.noFrameset).addText text).done
  | .comment => b.addComment.done
  | .opening t => (b.bodyOpening t).done
  | .closing name => b.bodyClosing name
  | .finish => if b.templateModes.isEmpty then b.done else b.endTemplate

end VisualTemplate.Html.Builder
