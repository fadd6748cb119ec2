import VisualTemplate.Document.Style
/-!
Markup as a tree, and its text.

Every attribute and every text is escaped where the tree is written, so that nothing but the tree's
own elements can become a tag.
-/

namespace VisualTemplate.Document

inductive Markup where
  /-- An element with an opening and a closing tag. -/
  | element (tag : String) (attributes : List (String × String)) (children : List Markup)
  /-- An element of one tag that is not closed. -/
  | void (tag : String) (attributes : List (String × String))
  /-- An element of one tag that closes itself. -/
  | closed (tag : String) (attributes : List (String × String))
  /-- Text with breaks for its lines. -/
  | text (content : String)

def attributesText (as : List (String × String)) : String :=
  String.join (as.map fun (k, v) => " " ++ k ++ "=\"" ++ escapeAttribute v ++ "\"")

mutual

def Markup.write : Markup → String
  | .element tag as cs =>
    "<" ++ tag ++ attributesText as ++ ">" ++ writeAll cs ++ "</" ++ tag ++ ">"
  | .void tag as => "<" ++ tag ++ attributesText as ++ ">"
  | .closed tag as => "<" ++ tag ++ attributesText as ++ "/>"
  | .text content => textWithBreaks content

def writeAll : List Markup → String
  | [] => ""
  | m :: ms => m.write ++ writeAll ms

end

/-- The style attribute of an element, left out without declarations. -/
def styled (s : Style) : List (String × String) := if s.isEmpty then [] else [("style", s.text)]

end VisualTemplate.Document
