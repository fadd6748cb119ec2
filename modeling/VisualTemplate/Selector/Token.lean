import VisualTemplate.Decimal.Reading
import VisualTemplate.Text.Blank
import VisualTemplate.Text.Cut
import VisualTemplate.Text.Hex
/-!
The words and marks of selectors.

A backslash takes the special meaning from the character behind it or, with hexadecimal digits,
stands for a code point. Comments count for nothing. What is open at the end of a text is closed
there.
-/

namespace VisualTemplate.Selector

open Text

inductive Token where
  | ident (name : String)
  /-- A name with an opening bracket. -/
  | function (name : String)
  /-- A name behind a number sign. -/
  | id (name : String)
  | string (text : String)
  /-- A number, and whether it has a sign. Only whole numbers have a value. -/
  | number (signed : Bool) (whole : Option Int)
  /-- A number with a name behind it. -/
  | dimension (whole : Option Int) (unit : String)
  /-- One of the marks `~ | ^ $ *` with an equals sign. -/
  | comparison (mark : Char)
  | mark (c : Char)
  | blank
  /-- A string that does not end on its line, or the end of an old comment. -/
  | bad
  deriving DecidableEq, Repr

/-- A line break ends a string and is never part of a name. -/
def isLineBreak (c : Char) : Bool := c == '\n' || c == '\r' || c == '\x0c'

def startsLine : List Char → Bool
  | c :: _ => isLineBreak c
  | [] => false

/-- No character of a text is a null. -/
def visible (c : Char) : Char := if c = '\x00' then '\ufffd' else c

def isNameStart (c : Char) : Bool := c.isAlpha || c == '_' || c == '\x00' || 128 ≤ c.toNat

def isNamePart (c : Char) : Bool := isNameStart c || c.isDigit || c == '-'

/-- A name begins here. -/
def beginsName : List Char → Bool
  | '\\' :: cs => !startsLine cs
  | '-' :: c :: _ => isNameStart c || c == '-' || c == '\\'
  | c :: _ => isNameStart c
  | [] => false

def dropLineBreak : List Char → List Char
  | '\r' :: '\n' :: cs => cs
  | _ :: cs => cs
  | [] => []

/-- The character of a code point, if there is one that can be shown. -/
def charAt (n : Nat) : Char :=
  if h : n.isValidChar then visible (.ofNatAux n h) else '\ufffd'

/-- The character that stands behind a backslash, and what follows it. A blank ends the digits of
a code point. -/
def escape : List Char → Char × List Char
  | [] => ('\ufffd', [])
  | c :: cs =>
    let digits := ((c :: cs).take 6).takeWhile fun d => (hexValue? d).isSome
    if digits.isEmpty then (visible c, cs)
    else
      let rest := (c :: cs).drop digits.length
      (charAt (hexOf digits),
        if startsLine rest then dropLineBreak rest
        else match rest with
          | ' ' :: rest | '\t' :: rest => rest
          | _ => rest)

/-- The name at the start of a text and what follows it. So many characters are left at most. -/
def nameWithin : Nat → List Char → List Char × List Char
  | 0, cs => ([], cs)
  | _, [] => ([], [])
  | n + 1, '\\' :: cs =>
    if startsLine cs then ([], '\\' :: cs)
    else
      let (c, rest) := escape cs
      let (more, rest) := nameWithin n rest
      (c :: more, rest)
  | n + 1, c :: cs =>
    if isNamePart c then
      let (more, rest) := nameWithin n cs
      (visible c :: more, rest)
    else ([], c :: cs)

def name (cs : List Char) : String × List Char :=
  let (n, rest) := nameWithin cs.length cs
  (.ofList n, rest)

/-- A string up to its quote, and what follows it; nothing if its line ends before. -/
def stringWithin (quote : Char) : Nat → List Char → Option (List Char) × List Char
  | 0, cs => (some [], cs)
  | _, [] => (some [], [])
  | n + 1, '\\' :: cs =>
    if cs.isEmpty then (some [], [])
    else if startsLine cs then stringWithin quote n (dropLineBreak cs)
    else
      let (c, rest) := escape cs
      let (more, rest) := stringWithin quote n rest
      (more.map (c :: ·), rest)
  | n + 1, c :: cs =>
    if c = quote then (some [], cs)
    else if isLineBreak c then (none, c :: cs)
    else
      let (more, rest) := stringWithin quote n cs
      (more.map (visible c :: ·), rest)

/-- Whole numbers have 32 bits: they are below this bound, and not below its negative. -/
def bound : Int := Nat.pow 2 31

/-- The nearest number within the bounds. -/
def clamp (n : Int) : Int := max (-bound) (min (bound - 1) n)

/-- An exponent at the start of a text, and what follows it. -/
def afterExponent? : List Char → Option (List Char)
  | e :: cs =>
    let digits := (Decimal.readSign cs).2
    if (e == 'e' || e == 'E') && (digits.headD ' ').isDigit then some (digits.dropWhile Char.isDigit)
    else none
  | [] => none

/-- The number at the start of a text. -/
def number? (cs : List Char) : Option (Token × List Char) :=
  let (negative, body) := Decimal.readSign cs
  let signed := body.length < cs.length
  let (whole, rest) := body.span Char.isDigit
  let (part, rest) := match rest with
    | '.' :: d :: more => if d.isDigit then (d :: more).span Char.isDigit else ([], rest)
    | _ => ([], rest)
  if whole.isEmpty && part.isEmpty then none
  else
    let exponent := afterExponent? rest
    let rest := exponent.getD rest
    let value : Option Int :=
      if part.isEmpty && exponent.isNone then
        let n : Int := Decimal.wholeOf whole
        some (clamp (if negative then -n else n))
      else none
    if beginsName rest then
      let (unit, rest) := name rest
      some (.dimension value unit, rest)
    else some (.number signed value, rest)

/-- What follows a comment. -/
def afterComment (cs : List Char) : List Char :=
  match cutAround ['*', '/'] cs with
  | some (_, rest) => rest
  | none => []

/-- A name, with or without an opening bracket. -/
def word (cs : List Char) : Token × List Char :=
  match name cs with
  | (n, '(' :: rest) => (.function n, rest)
  | (n, rest) => (.ident n, rest)

/-- A mark, or a comparison that begins with it. -/
def markOf (c : Char) (cs : List Char) : Token × List Char :=
  match cs with
  | '=' :: rest => if ['~', '|', '^', '$', '*'].contains c then (.comparison c, rest) else (.mark c, cs)
  | _ => (.mark c, cs)

/-- The token that a character begins. -/
def tokenAt (c : Char) (cs : List Char) : Token × List Char :=
  match number? (c :: cs) with
  | some found => found
  | none =>
    if (after? ['-', '-', '>'] (c :: cs)).isSome then (.bad, cs.drop 2)
    else if beginsName (c :: cs) then word (c :: cs)
    else if c = '#' && beginsName cs then
      let (n, rest) := name cs
      (.id n, rest)
    else if c = '"' || c = '\'' then
      match stringWithin c cs.length cs with
      | (some s, rest) => (.string (.ofList s), rest)
      | (none, rest) => (.bad, rest)
    else if isMarkupBlank c then (.blank, cs.dropWhile isMarkupBlank)
    else markOf c cs

/-- The tokens of a text with so many characters at most. -/
def tokensWithin : Nat → List Char → List Token
  | 0, _ => []
  | _, [] => []
  | n + 1, '/' :: '*' :: cs => tokensWithin n (afterComment cs)
  | n + 1, c :: cs =>
    let (t, rest) := tokenAt c cs
    t :: tokensWithin n rest

def tokens (text : String) : List Token := tokensWithin text.length text.toList

end VisualTemplate.Selector
