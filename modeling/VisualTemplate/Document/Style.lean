import VisualTemplate.Document.Escape
import VisualTemplate.Length
/-!
Lists of style declarations.
-/

namespace VisualTemplate.Document

/-- Declarations in the order in which they are written. -/
abbrev Style := List (String × String)

def px (x : Float32) : String := x.plain ++ "px"

namespace Style

def set (s : Style) (property value : String) : Style := s ++ [(property, value)]

def setSome (s : Style) (property : String) (value : Option String) : Style :=
  match value with
  | some v => s.set property v
  | none => s

def text (s : Style) : String := ";".intercalate (s.map fun (k, v) => k ++ ":" ++ v)

/-- The style attribute with a blank before it, or nothing without declarations. -/
def inTag (s : Style) : String :=
  if s.isEmpty then "" else " style=\"" ++ escapeAttribute s.text ++ "\""

end Style

end VisualTemplate.Document
