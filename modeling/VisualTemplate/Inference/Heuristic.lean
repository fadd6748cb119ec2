import VisualTemplate.Engine
import VisualTemplate.Inference.Config
import VisualTemplate.Text.Cut
/-!
What a text is likely to be, told by its form.

The heuristics stand in a fixed order, and the first that accepts a text decides. Most of them
search it for a fixed expression.
-/

namespace VisualTemplate

inductive TextClass where
  | placeholder
  | date
  | hours
  | address
  | city
  | role
  | personName
  | talk
  deriving DecidableEq, Repr

namespace TextClass

def all : List TextClass :=
  [.placeholder, .date, .hours, .address, .city, .role, .personName, .talk]

/-- The field that a class of text is bound to. -/
def field (f : HeuristicFields) : TextClass → String
  | placeholder => f.placeholder
  | date => f.date
  | hours => f.hours
  | address => f.address
  | city => f.city
  | role => f.role
  | personName => f.name
  | talk => f.talk

def weekday : String :=
  "(?i)\\b(monday|tuesday|wednesday|thursday|friday|saturday|sunday)\\b"

def month : String :=
  "(?i)\\b(january|february|march|april|may|june|july|august|september|october|november|december)\\b"

def openingHours : String :=
  "(?i)\\b(opening hours|open daily|doors open|hours|o'clock)\\b|\\b\\d\x7b1,2\x7d(:\\d\x7b2\x7d)?\\s?(am|pm)\\b"

def street : String :=
  "(?i)\\b(street|avenue|road|boulevard|lane|square|straße|strasse|platz)\\b|\\b(st|ave|rd|blvd|str)\\."

/-- Lines with a postal code: in front, behind a state, or of letters and digits. -/
def cityLine : String :=
  "^\\d\x7b4,5\x7d\\s+\\p\x7bLu\x7d[\\p\x7bL\x7d\\- ]+$"
    ++ "|^\\p\x7bLu\x7d[\\p\x7bL\x7d .]+,\\s*\\p\x7bLu\x7d\x7b2\x7d\\s+\\d\x7b5\x7d(-\\d\x7b4\x7d)?$"
    ++ "|\\b[A-Z]\x7b1,2\x7d\\d[A-Z\\d]?\\s*\\d[A-Z]\x7b2\x7d\\b"

def twoNames : String :=
  "^\\p\x7bLu\x7d\\p\x7bLl\x7d+(-\\p\x7bLu\x7d\\p\x7bLl\x7d+)?"
    ++ "\\s+\\p\x7bLu\x7d\\p\x7bLl\x7d+(-\\p\x7bLu\x7d\\p\x7bLl\x7d+)?$"

/-- The shortest text that counts as a caption. -/
def captionLength : Nat := 20

variable [Engine]

/-- Whether a text, without blanks at its ends, is of a class. -/
def accepts (markers : List String) (text : List Char) : TextClass → Bool
  | placeholder => markers.any fun m => !m.isEmpty && Text.occurs m.toList text
  | date => Engine.hits weekday text && Engine.hits month text
  | hours => Engine.hits openingHours text
  | address => Engine.hits street text
  | city => Engine.hits cityLine text
  | role => text.contains '@'
  | personName => Engine.hits twoNames text
  | talk => captionLength ≤ text.length && !text.contains ':'

/-- The class of a text. -/
def ofText? (markers : List String) (text : List Char) : Option TextClass :=
  all.find? (accepts markers text)

end TextClass

end VisualTemplate
