import VisualTemplate.Text.Cut
/-!
Text inside markup: between tags, with breaks for its lines, and in attributes.
-/

namespace VisualTemplate.Document

/-- A character between tags. -/
def textChar (c : Char) : List Char :=
  if c = '&' then "&amp;".toList
  else if c = '<' then "&lt;".toList
  else if c = '>' then "&gt;".toList
  else [c]

/-- A character inside an attribute. -/
def attributeChar (c : Char) : List Char :=
  if c = '"' then "&quot;".toList
  else if c = '\'' then "&#39;".toList
  else textChar c

def escapeText (s : String) : String := .ofList (s.toList.flatMap textChar)

def escapeAttribute (s : String) : String := .ofList (s.toList.flatMap attributeChar)

/-- Text between tags with a break between its lines. -/
def textWithBreaks (s : String) : String :=
  "<br>".intercalate ((Text.lines s.toList).map fun l => .ofList (l.flatMap textChar))

end VisualTemplate.Document
