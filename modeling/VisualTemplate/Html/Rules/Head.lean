import VisualTemplate.Html.Formatting
/-!
Rules up to the head, and those for what may stand in a head.
-/

namespace VisualTemplate.Html.Builder

/-- A second `html` tag only adds attributes to the first. -/
def repeatHtml (b : Builder) (t : Tag) : Builder :=
  if b.hasOpen "template" then b
  else { b with forest := b.forest.addMissing b.rootNode t.attributes }

/-- Elements of a head that hold nothing. -/
def headVoidTags : List String := ["base", "basefont", "bgsound", "link", "meta"]

/-- Elements that belong into a head. -/
def headTags : List String :=
  headVoidTags ++ ["noframes", "script", "style", "template", "title"]

def openTemplate (b : Builder) (t : Tag) : Builder :=
  let b := (b.openTag t).mark
  { b with
    framesetAllowed := false, mode := .inTemplate, templateModes := .inTemplate :: b.templateModes }

def closeTemplate (b : Builder) : Builder :=
  if b.hasOpen "template" then
    let b := ((b.popAll allImpliedTags).popThroughTag "template").clearFormatting
    { b with templateModes := b.templateModes.drop 1 }.resetMode
  else b

/-- The element of a tag that belongs into a head, put where the next node goes. -/
def headElement (b : Builder) (t : Tag) : Builder :=
  if headVoidTags.contains t.name then b.addVoid t
  else if t.name == "title" then b.openText t .escapable
  else if t.name == "script" then b.openText t .script
  else if t.name == "template" then b.openTemplate t
  else b.openText t .raw

def inHead (b : Builder) (token : Token) : Step :=
  match token with
  | .characters true text => (b.addText text).done
  | .comment => b.addComment.done
  | .opening t =>
    if t.name == "html" then (b.repeatHtml t).done
    else if headTags.contains t.name || t.name == "noscript" then (b.headElement t).done
    else if t.name == "head" then b.done
    else b.pop.retry .afterHead
  | .closing name =>
    if name == "head" then (b.pop.withMode .afterHead).done
    else if name == "template" then b.closeTemplate.done
    else if ["body", "html", "br"].contains name then b.pop.retry .afterHead
    else b.done
  | _ => b.pop.retry .afterHead

/-- Rules in front of everything but comments. -/
def atStart (b : Builder) (token : Token) : Step :=
  match token with
  | .characters true _ => b.done
  | .comment => (b.addCommentBelow 0).done
  | _ => { b with isQuirky := true }.retry .beforeHtml

/-- End tags that do not count as long as nothing has been opened. -/
def endsNothing (name : String) : Bool := !(["head", "body", "html", "br"].contains name)

def beforeHtml (b : Builder) (token : Token) : Step :=
  match token with
  | .characters true _ => b.done
  | .comment => (b.addCommentBelow 0).done
  | .opening t =>
    if t.name == "html" then ((b.openRoot t.attributes).withMode .beforeHead).done
    else (b.openRoot []).retry .beforeHead
  | .closing name => if endsNothing name then b.done else (b.openRoot []).retry .beforeHead
  | _ => (b.openRoot []).retry .beforeHead

/-- Opens the head. -/
def openHead (b : Builder) (as : List Attribute) : Builder :=
  let (n, b) := b.openNamed (html "head") as
  { b with head := some n }

def beforeHead (b : Builder) (token : Token) : Step :=
  match token with
  | .characters true _ => b.done
  | .comment => b.addComment.done
  | .opening t =>
    if t.name == "html" then (b.repeatHtml t).done
    else if t.name == "head" then ((b.openHead t.attributes).withMode .inHead).done
    else (b.openHead []).retry .inHead
  | .closing name => if endsNothing name then b.done else (b.openHead []).retry .inHead
  | _ => (b.openHead []).retry .inHead

/-- Puts an element that came too late into the head. -/
def lateHeadElement (b : Builder) (t : Tag) : Builder :=
  match b.head with
  | some n => ((b.push (html "head") n).headElement t).remove n
  | none => b.headElement t

def afterHead (b : Builder) (token : Token) : Step :=
  match token with
  | .characters true text => (b.addText text).done
  | .comment => b.addComment.done
  | .opening t =>
    if t.name == "html" then (b.repeatHtml t).done
    else if t.name == "body" then
      { b.openTag t with framesetAllowed := false, mode := .inBody }.done
    else if t.name == "frameset" then ((b.openTag t).withMode .inFrameset).done
    else if headTags.contains t.name then (b.lateHeadElement t).done
    else if t.name == "head" then b.done
    else (b.openImplied "body").retry .inBody
  | .closing name =>
    if name == "template" then b.closeTemplate.done
    else if ["body", "html", "br"].contains name then (b.openImplied "body").retry .inBody
    else b.done
  | _ => (b.openImplied "body").retry .inBody

end VisualTemplate.Html.Builder
