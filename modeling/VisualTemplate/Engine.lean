/-!
Regular expressions, as far as an import relies on them.

Which texts write an expression, and where an expression is found in a text, is left open. All that
is known of a match is that it is a part of the text.
-/

namespace VisualTemplate

/-- What texts are searched for: a partial cut of each text in three, before, in and behind the
place that is found. Nothing of the text is lost. -/
structure Finder where
  split? : List Char → Option (List Char × List Char × List Char)
  append_of_split? : ∀ {cs front found back : List Char},
    split? cs = some (front, found, back) → cs = front ++ found ++ back

def Finder.hits (f : Finder) (cs : List Char) : Bool := (f.split? cs).isSome

/-- The regular expressions that an import is run with. -/
class Engine where
  /-- What the text of an expression searches for. A text that writes no expression is refused. -/
  finder? : String → Option Finder

/-- A text holds what an expression searches for. -/
def Engine.hits [Engine] (expression : String) (cs : List Char) : Bool :=
  (finder? expression).any (·.hits cs)

end VisualTemplate
