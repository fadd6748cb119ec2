/-!
Blank characters, trimming and words.

Blank is the Unicode property White_Space. The words of a text are its longest runs without a
blank, in order.
-/

namespace VisualTemplate.Text

/-- Unicode White_Space. -/
def isBlank (c : Char) : Bool :=
  let n := c.toNat
  (9 ≤ n && n ≤ 13) || n == 32 || n == 0x85 || n == 0xA0 || n == 0x1680 ||
    (0x2000 ≤ n && n ≤ 0x200A) || n == 0x2028 || n == 0x2029 || n == 0x202F || n == 0x205F ||
    n == 0x3000

/-- The five blanks of markup and selectors: tab, line feed, form feed, return and space. -/
def isMarkupBlank (c : Char) : Bool :=
  c == ' ' || c == '\t' || c == '\n' || c == '\x0c' || c == '\r'

/-- A text without the characters of a class at its end. -/
def dropEndWhile (p : Char → Bool) (cs : List Char) : List Char :=
  (cs.reverse.dropWhile p).reverse

/-- A text without the characters of a class at either end. -/
def strip (p : Char → Bool) (cs : List Char) : List Char :=
  dropEndWhile p (cs.dropWhile p)

def trim (cs : List Char) : List Char := strip isBlank cs

/-- The pieces between separators that are not empty. -/
def fields (p : Char → Bool) (cs : List Char) : List (List Char) :=
  (cs.splitOnP p).filter (!·.isEmpty)

/-- What stands between the numbers of a list in vector markup. -/
def isListMark (c : Char) : Bool := c == ',' || isBlank c

def words (cs : List Char) : List (List Char) := fields isBlank cs

/-- Words joined by single spaces. -/
def collapse (cs : List Char) : List Char := List.intercalate [' '] (words cs)

end VisualTemplate.Text

namespace String

/-- A text without blanks at its ends. -/
def trimmed (s : String) : String := ofList (VisualTemplate.Text.trim s.toList)

/-- The text holds nothing but blanks. -/
def isBlank (s : String) : Bool := s.toList.all VisualTemplate.Text.isBlank

end String
