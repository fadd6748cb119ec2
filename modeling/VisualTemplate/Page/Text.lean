import VisualTemplate.Html.Dom
import VisualTemplate.Inference.Config
import VisualTemplate.Style.Font
import VisualTemplate.Style.Inline
import VisualTemplate.Style.Paint
/-!
The texts of a page: how they are set, and which lines an element holds.

Blanks count only as what stands between two words. A line of a text ends at a line break and at
nothing else.
-/

namespace VisualTemplate.Page

open Html

/-- How texts are set; elements pass it on to what is below them. -/
structure TextSettings where
  font : Typography := {}
  align : TextAlign := .left
  color : Paint := .black

def boldTags : List String := ["h1", "h2", "h3", "h4", "h5", "h6", "b", "strong", "th"]

/-- The settings below an element with a tag and a style. -/
def TextSettings.below (s : TextSettings) (tokens : Tokens) (tag : String) (style : InlineStyle) :
    TextSettings :=
  let size := ((style.get? "font-size").bind (Font.size? · s.font.size)).getD s.font.size
  { font :=
      { size
        family := ((style.get? "font-family").bind Font.family?).getD s.font.family
        weight := ((style.get? "font-weight").bind Font.weight?).getD
          (if boldTags.contains tag then 700 else s.font.weight)
        lineHeight := match style.get? "line-height" with
          | some v => Font.lineHeight? v size
          | none => s.font.lineHeight }
    align := style.textAlign.getD s.align
    color := match style.get? "color" with
      | some c => .ofText tokens c
      | none => s.color }

/-- Elements that a line of text may hold. -/
def inlineTags : List String :=
  ["span", "b", "strong", "em", "i", "u", "s", "small", "sup", "sub", "mark", "a", "br", "code",
    "abbr", "time", "label", "font"]

mutual

/-- The characters of a node and of all below it, with `none` for a line break. -/
def marked : Dom → List (Option Char)
  | .element e cs => (if e.tag = "br" then [none] else []) ++ markedIn cs
  | .text s => s.toList.map some
  | .contents cs => markedIn cs
  | .other => []

def markedIn : List Dom → List (Option Char)
  | [] => []
  | d :: ds => marked d ++ markedIn ds

end

/-- The lines between the line breaks that are not blank. -/
def lines (ds : List Dom) : List String :=
  let parts := ((markedIn ds).splitOn none).map fun part => Text.collapse (part.filterMap id)
  (parts.filter (!·.isEmpty)).map .ofList

mutual

/-- Nothing but texts and what a line may hold. -/
def isInline : Dom → Bool
  | .element e cs => inlineTags.contains e.tag && areInline cs
  | .contents cs => areInline cs
  | .text _ => true
  | .other => true

def areInline : List Dom → Bool
  | [] => true
  | d :: ds => isInline d && areInline ds

end

/-- An element with these children is a text. -/
def isText (ds : List Dom) : Bool := areInline ds && (Dom.textsIn ds).any (!·.isBlank)

end VisualTemplate.Page
