import VisualTemplate.Html.Rules.Table
/-!
Rules for selections, templates, frames, and what follows the body.
-/

namespace VisualTemplate.Html.Builder

def closeSelect (b : Builder) : Builder := (b.popThroughTag "select").resetMode

def hasSelect (b : Builder) : Bool := b.hasIn selectBoundary ["select"]

def popIf (b : Builder) (tag : String) : Builder := if b.currentIsTag tag then b.pop else b

/-- The end tag of a group of options ends an option in it as well. -/
def closeGroup (b : Builder) : Builder :=
  match b.opened with
  | o :: p :: _ =>
    (if o.name.is "option" && p.name.is "optgroup" then b.pop else b).popIf "optgroup"
  | _ => b.popIf "optgroup"

def inSelect (b : Builder) (token : Token) : Step :=
  match token with
  | .zero | .doctype _ => b.done
  | .characters _ text => (b.addText text).done
  | .comment => b.addComment.done
  | .opening t =>
    let n := t.name
    if n == "html" then (b.repeatHtml t).done
    else if n == "option" then ((b.popIf "option").openTag t).done
    else if n == "optgroup" then (((b.popIf "option").popIf "optgroup").openTag t).done
    else if n == "select" then (if b.hasSelect then b.closeSelect else b).done
    else if ["input", "keygen", "textarea"].contains n then
      if b.hasSelect then ⟨b.closeSelect, true⟩ else b.done
    else if ["script", "template"].contains n then (b.headElement t).done
    else b.done
  | .closing n =>
    if n == "optgroup" then b.closeGroup.done
    else if n == "option" then (b.popIf "option").done
    else if n == "select" then (if b.hasSelect then b.closeSelect else b).done
    else if n == "template" then b.closeTemplate.done
    else b.done
  | .finish => b.inBody token

/-- Tags of tables that end a selection inside of a table. -/
def selectEnds : List String := ["caption", "table", "tbody", "tfoot", "thead", "tr", "td", "th"]

def inSelectInTable (b : Builder) (token : Token) : Step :=
  match token with
  | .opening t =>
    if selectEnds.contains t.name then ⟨b.closeSelect, true⟩ else b.inSelect token
  | .closing n =>
    if selectEnds.contains n then
      if b.hasIn tableBoundary [n] then ⟨b.closeSelect, true⟩ else b.done
    else b.inSelect token
  | _ => b.inSelect token

/-- The rules inside of a template are those for what it holds first. -/
def enterTemplate (b : Builder) (m : Mode) : Step :=
  { b with templateModes := m :: b.templateModes.drop 1 }.retry m

def inTemplate (b : Builder) (token : Token) : Step :=
  match token with
  | .characters _ _ | .comment => b.inBody token
  | .opening t =>
    let n := t.name
    if headTags.contains n then (b.headElement t).done
    else if ["caption", "colgroup", "tbody", "tfoot", "thead"].contains n then
      b.enterTemplate .inTable
    else if n == "col" then b.enterTemplate .inColumns
    else if n == "tr" then b.enterTemplate .inTableBody
    else if ["td", "th"].contains n then b.enterTemplate .inRow
    else b.enterTemplate .inBody
  | .closing n => (if n == "template" then b.closeTemplate else b).done
  | .finish => b.endTemplate
  | .zero | .doctype _ => b.done

def afterBody (b : Builder) (token : Token) : Step :=
  match token with
  | .characters true _ => b.inBody token
  | .comment => (b.addCommentBelow b.rootNode).done
  | .opening t => if t.name == "html" then (b.repeatHtml t).done else b.retry .inBody
  | .closing n =>
    if n == "html" then (if b.isFragment then b else b.withMode .afterAfterBody).done
    else b.retry .inBody
  | .finish => b.done
  | _ => b.retry .inBody

def afterAfterBody (b : Builder) (token : Token) : Step :=
  match token with
  | .characters true _ => b.inBody token
  | .comment => (b.addCommentBelow 0).done
  | .opening t => if t.name == "html" then (b.repeatHtml t).done else b.retry .inBody
  | .finish => b.done
  | _ => b.retry .inBody

def inFrameset (b : Builder) (token : Token) : Step :=
  match token with
  | .characters true text => (b.addText text).done
  | .comment => b.addComment.done
  | .opening t =>
    if t.name == "html" then (b.repeatHtml t).done
    else if t.name == "frameset" then (b.openTag t).done
    else if t.name == "frame" then (b.addVoid t).done
    else if t.name == "noframes" then (b.headElement t).done
    else b.done
  | .closing n =>
    if n == "frameset" && b.opened.length != 1 then
      let b := b.pop
      (if !b.isFragment && !b.currentIsTag "frameset" then b.withMode .afterFrameset else b).done
    else b.done
  | _ => b.done

def afterFrameset (b : Builder) (token : Token) : Step :=
  match token with
  | .characters true text => (b.addText text).done
  | .comment => b.addComment.done
  | .opening t =>
    if t.name == "html" then (b.repeatHtml t).done
    else if t.name == "noframes" then (b.headElement t).done
    else b.done
  | .closing n => (if n == "html" then b.withMode .afterAfterFrameset else b).done
  | _ => b.done

def afterAfterFrameset (b : Builder) (token : Token) : Step :=
  match token with
  | .characters true _ => b.inBody token
  | .comment => (b.addCommentBelow 0).done
  | .opening t =>
    if t.name == "html" then (b.repeatHtml t).done
    else if t.name == "noframes" then (b.headElement t).done
    else b.done
  | _ => b.done

end VisualTemplate.Html.Builder
