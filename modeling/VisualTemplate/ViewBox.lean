import VisualTemplate.Decimal.Reading
import VisualTemplate.Text.Blank
/-!
View boxes: four numbers with blanks or commas between them.
-/

namespace VisualTemplate.ViewBox

/-- The numbers of a view box, if it holds nothing else. -/
def numbers? (s : String) : Option (List Float32) :=
  (Text.fields Text.isListMark s.toList).mapM fun p => Float32.ofText? (.ofList p)

/-- The width and height of a view box of four numbers. -/
def size? (s : String) : Option (Float32 × Float32) :=
  match numbers? s with
  | some [_, _, w, h] => some (w, h)
  | _ => none

/-- The view box of a size, with its corner at the origin. -/
def ofSize (w h : Float32) : String := s!"0 0 {w.plain} {h.plain}"

end VisualTemplate.ViewBox
