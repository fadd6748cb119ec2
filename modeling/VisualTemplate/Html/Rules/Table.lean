import VisualTemplate.Html.Rules.Body
/-!
Rules for tables.

What a table may not hold is put in front of it.
-/

namespace VisualTemplate.Html.Builder

/-- Treats a token as content of the page, in front of the table. -/
def fosterInBody (b : Builder) (token : Token) : Step :=
  let s := { b with fostering := true }.inBody token
  { s with builder := { s.builder with fostering := false } }

/-- Text in a table waits until it is known whether it is only blank. -/
def textInTable (b : Builder) (token : Token) : Step :=
  if b.currentIs (·.isOneOf ["table", "tbody", "tfoot", "thead", "tr"]) then
    { b with returnMode := b.mode }.retry .inTableText
  else b.fosterInBody token

/-- Gives the waiting text its place. -/
def flushTableText (b : Builder) : Builder :=
  let pending := b.pending
  let b := { b with pending := [] }
  if pending.all (·.1) then pending.foldl (fun b (_, text) => b.addText text) b
  else pending.foldl (fun b (isBlank, text) =>
    (b.fosterInBody (.characters isBlank text)).builder) b

def inTableText (b : Builder) (token : Token) : Step :=
  match token with
  | .zero => b.done
  | .characters isBlank text => { b with pending := b.pending ++ [(isBlank, text)] }.done
  | _ => b.flushTableText.retry b.returnMode

def tableTags : List String := ["table", "template", "html"]
def bodyTags : List String := ["tbody", "tfoot", "thead"]
def bodyTop : List String := bodyTags ++ ["template", "html"]
def rowTop : List String := ["tr", "template", "html"]

/-- End tags that do not count in a table. -/
def strayInTable : List String :=
  ["body", "caption", "col", "colgroup", "html", "tbody", "td", "tfoot", "th", "thead", "tr"]

def inTable (b : Builder) (token : Token) : Step :=
  match token with
  | .zero | .characters _ _ => b.textInTable token
  | .comment => b.addComment.done
  | .opening t =>
    let n := t.name
    if n == "caption" then (((b.popTo tableTags).mark.openTag t).withMode .inCaption).done
    else if n == "colgroup" then (((b.popTo tableTags).openTag t).withMode .inColumns).done
    else if n == "col" then ((b.popTo tableTags).openImplied "colgroup").retry .inColumns
    else if bodyTags.contains n then (((b.popTo tableTags).openTag t).withMode .inTableBody).done
    else if ["td", "th", "tr"].contains n then
      ((b.popTo tableTags).openImplied "tbody").retry .inTableBody
    else if n == "table" then
      if b.hasIn tableBoundary ["table"] then ⟨(b.popThroughTag "table").resetMode, true⟩ else b.done
    else if ["style", "script", "template"].contains n then (b.headElement t).done
    else if n == "input" && isHiddenInput t then (b.addVoid t).done
    else if n == "form" then
      if b.hasOpen "template" || b.form.isSome then b.done
      else
        let (node, b) := b.insert (html n) t.attributes
        { b with form := some node }.done
    else b.fosterInBody token
  | .closing n =>
    if n == "table" then
      (if b.hasIn tableBoundary ["table"] then (b.popThroughTag "table").resetMode else b).done
    else if strayInTable.contains n then b.done
    else if n == "template" then b.closeTemplate.done
    else b.fosterInBody token
  | .finish => b.inBody token
  | .doctype _ => b.done

/-- Tags that end a caption. -/
def captionEnds : List String :=
  ["caption", "col", "colgroup", "tbody", "td", "tfoot", "th", "thead", "tr"]

def inCaption (b : Builder) (token : Token) : Step :=
  let close (again : Bool) : Step :=
    if b.hasIn tableBoundary ["caption"] then
      ⟨((b.closeElement "caption").clearFormatting).withMode .inTable, again⟩
    else b.done
  match token with
  | .opening t => if captionEnds.contains t.name then close true else b.inBody token
  | .closing n =>
    if n == "caption" then close false
    else if n == "table" then close true
    else if strayInTable.contains n then b.done
    else b.inBody token
  | _ => b.inBody token

def inColumns (b : Builder) (token : Token) : Step :=
  let leave : Step := if b.currentIsTag "colgroup" then b.pop.retry .inTable else b.done
  match token with
  | .characters true text => (b.addText text).done
  | .comment => b.addComment.done
  | .opening t =>
    if t.name == "html" then (b.repeatHtml t).done
    else if t.name == "col" then (b.addVoid t).done
    else if t.name == "template" then (b.openTemplate t).done
    else leave
  | .closing n =>
    if n == "colgroup" then
      (if b.currentIsTag "colgroup" then b.pop.withMode .inTable else b).done
    else if n == "col" then b.done
    else if n == "template" then b.closeTemplate.done
    else leave
  | .finish => b.inBody token
  | _ => leave

def inTableBody (b : Builder) (token : Token) : Step :=
  let leave : Step :=
    if b.hasIn tableBoundary ["table", "tbody", "tfoot"] then
      ((b.popTo bodyTop).pop).retry .inTable
    else b.done
  match token with
  | .opening t =>
    let n := t.name
    if n == "tr" then (((b.popTo bodyTop).openTag t).withMode .inRow).done
    else if ["th", "td"].contains n then ((b.popTo bodyTop).openImplied "tr").retry .inRow
    else if ["caption", "col", "colgroup", "tbody", "tfoot", "thead"].contains n then leave
    else b.inTable token
  | .closing n =>
    if bodyTags.contains n then
      (if b.hasIn tableBoundary [n] then ((b.popTo bodyTop).pop).withMode .inTable else b).done
    else if n == "table" then leave
    else if ["body", "caption", "col", "colgroup", "html", "td", "th", "tr"].contains n then b.done
    else b.inTable token
  | _ => b.inTable token

def inRow (b : Builder) (token : Token) : Step :=
  let inner := (b.popTo rowTop).pop
  let leave : Step := if b.hasIn tableBoundary ["tr"] then inner.retry .inTableBody else b.done
  match token with
  | .opening t =>
    let n := t.name
    if ["th", "td"].contains n then
      ((((b.popTo rowTop).openTag t).mark).withMode .inCell).done
    else if ["caption", "col", "colgroup", "tbody", "tfoot", "thead", "tr"].contains n then leave
    else b.inTable token
  | .closing n =>
    if n == "tr" then
      (if b.hasIn tableBoundary ["tr"] then inner.withMode .inTableBody else b).done
    else if n == "table" then leave
    else if bodyTags.contains n then
      if b.hasIn tableBoundary [n] then
        (if b.hasIn tableBoundary ["tr"] then inner else b).retry .inTableBody
      else b.done
    else if ["body", "caption", "col", "colgroup", "html", "td", "th"].contains n then b.done
    else b.inTable token
  | _ => b.inTable token

def closeCell (b : Builder) : Builder :=
  (b.popImplied.popThrough (·.isOneOf ["td", "th"])).clearFormatting

def inCell (b : Builder) (token : Token) : Step :=
  match token with
  | .opening t =>
    if captionEnds.contains t.name then
      if b.hasIn tableBoundary ["td", "th"] then b.closeCell.retry .inRow else b.done
    else b.inBody token
  | .closing n =>
    if ["td", "th"].contains n then
      (if b.hasIn tableBoundary [n] then
        ((b.closeElement n).clearFormatting).withMode .inRow else b).done
    else if ["body", "caption", "col", "colgroup", "html"].contains n then b.done
    else if ["table", "tbody", "tfoot", "thead", "tr"].contains n then
      if b.hasIn tableBoundary [n] then b.closeCell.retry .inRow else b.done
    else b.inBody token
  | _ => b.inBody token

end VisualTemplate.Html.Builder
