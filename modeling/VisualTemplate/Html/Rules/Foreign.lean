import VisualTemplate.Html.Rules.Select
/-!
Rules for vector and mathematical markup, and the choice of the rules for a token.
-/

namespace VisualTemplate.Html.Builder

/-- Text of an element up to its end tag. -/
def inText (b : Builder) (token : Token) : Step :=
  match token with
  | .characters _ text => (b.addText text).done
  | .finish => { b.pop with reading := .markup }.retry b.returnMode
  | .closing _ => ({ b.pop with reading := .markup }.withMode b.returnMode).done
  | _ => b.done

/-- What the rules of a mode do with a token. -/
def byMode (b : Builder) (m : Mode) (token : Token) : Step :=
  match m with
  | .start => b.atStart token
  | .beforeHtml => b.beforeHtml token
  | .beforeHead => b.beforeHead token
  | .inHead => b.inHead token
  | .afterHead => b.afterHead token
  | .inBody => b.inBody token
  | .text => b.inText token
  | .inTable => b.inTable token
  | .inTableText => b.inTableText token
  | .inCaption => b.inCaption token
  | .inColumns => b.inColumns token
  | .inTableBody => b.inTableBody token
  | .inRow => b.inRow token
  | .inCell => b.inCell token
  | .inSelect => b.inSelect token
  | .inSelectInTable => b.inSelectInTable token
  | .inTemplate => b.inTemplate token
  | .afterBody => b.afterBody token
  | .inFrameset => b.inFrameset token
  | .afterFrameset => b.afterFrameset token
  | .afterAfterBody => b.afterAfterBody token
  | .afterAfterFrameset => b.afterAfterFrameset token

/-- Tags of the page that end vector and mathematical markup. -/
def breakoutTags : List String :=
  ["b", "big", "blockquote", "body", "br", "center", "code", "dd", "div", "dl", "dt", "em",
    "embed", "h1", "h2", "h3", "h4", "h5", "h6", "head", "hr", "i", "img", "li", "listing",
    "menu", "meta", "nobr", "ol", "p", "pre", "ruby", "s", "small", "span", "strong", "strike",
    "sub", "sup", "table", "tt", "u", "ul", "var"]

def isBreakout (t : Tag) : Bool :=
  breakoutTags.contains t.name ||
    (t.name == "font" && t.attributes.any fun a => ["color", "face", "size"].contains a.name)

/-- Elements at which vector and mathematical markup ends. -/
def endsForeign (n : Name) : Bool := n.space == .html || isMathTextPoint n || isSvgContentPoint n

/-- Closes an element of the same name, the case of letters apart; beyond the foreign elements the
rules for the page decide. -/
def closeForeign (b : Builder) (name : String) (first : Bool) : List Open → Step
  | [] | [_] => b.done
  | o :: os =>
    if !first && o.name.space == .html then b.byMode b.mode (.closing name)
    else if o.name.tag.sameIgnoringCase name then { b with opened := os }.done
    else closeForeign b name false os

def inForeign (b : Builder) (space : Space) (token : Token) : Step :=
  match token with
  | .zero => (b.addText ['\ufffd']).done
  | .characters isBlank text => ((if isBlank then b else b.noFrameset).addText text).done
  | .comment => b.addComment.done
  | .opening t =>
    if isBreakout t && !b.isFragment then
      ⟨{ b.pop with opened := b.pop.opened.dropWhile fun o => !endsForeign o.name }, true⟩
    else (b.openForeign space t).done
  | .closing name => b.closeForeign name true b.opened
  | _ => b.done

/-- The vocabulary whose rules a token falls under, if it is not the page's own. -/
def foreignSpace? (b : Builder) (token : Token) : Option Space :=
  match b.adjustedCurrent? with
  | none => none
  | some n =>
    let isCharacters := match token with
      | .characters _ _ | .zero => true
      | _ => false
    let opening := match token with
      | .opening t => some t.name
      | _ => none
    let isFinish := match token with
      | .finish => true
      | _ => false
    if n.space = .html || isFinish then none
    else if isMathTextPoint n && (isCharacters ||
        (opening.isSome && opening != some "mglyph" && opening != some "malignmark")) then none
    else if isSvgContentPoint n && (isCharacters || opening.isSome) then none
    else if n == mathml "annotation-xml" && opening == some "svg" then none
    else some n.space

def step (b : Builder) (token : Token) : Step :=
  match b.foreignSpace? token with
  | some space => b.inForeign space token
  | none => b.byMode b.mode token

/-- Looks at a token again as long as the rules ask for it, so many times at most. -/
def steps : Nat → Builder → Token → Builder
  | 0, b, _ => b
  | n + 1, b, token =>
    match b.step token with
    | ⟨b, true⟩ => steps n b token
    | ⟨b, false⟩ => b

end VisualTemplate.Html.Builder
