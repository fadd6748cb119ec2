import VisualTemplate.Decimal.Layout
/-!
Reading decimal numbers.

A number is an optional sign and digits with at most one point, at least one digit in all, then
an optional exponent. `inf`, `infinity` and `nan` are numbers too, in any case.
-/

namespace VisualTemplate.Decimal

def digitValue (c : Char) : Nat := c.toNat - '0'.toNat

/-- The whole number written by a run of digits. -/
def wholeOf (digits : List Char) : Nat := digits.foldl (fun n c => 10 * n + digitValue c) 0

/-- A sign, if there is one, and what follows. -/
def readSign : List Char → Bool × List Char
  | '-' :: cs => (true, cs)
  | '+' :: cs => (false, cs)
  | cs => (false, cs)

/-- An exponent up to the end of the text; no text is the exponent 0. -/
def readExponent? (cs : List Char) : Option Int :=
  match cs with
  | [] => some 0
  | c :: cs =>
    if c == 'e' || c == 'E' then
      let (negative, digits) := readSign cs
      if digits.isEmpty || !digits.all Char.isDigit then none
      else some (if negative then -(wholeOf digits : Int) else wholeOf digits)
    else none

/-- The value of an unsigned number. -/
def readScaled? (cs : List Char) : Option Scaled :=
  let (whole, rest) := cs.span Char.isDigit
  let (part, rest) := match rest with
    | '.' :: rest => rest.span Char.isDigit
    | _ => ([], rest)
  if whole.isEmpty && part.isEmpty then none
  else (readExponent? rest).map fun e => ⟨wholeOf (whole ++ part), e - part.length⟩

/-- The nearest single-precision number. -/
def Scaled.single (s : Scaled) : Float32 :=
  if 0 ≤ s.exponent then .ofScientific s.coefficient false s.exponent.toNat
  else .ofScientific s.coefficient true (-s.exponent).toNat

end VisualTemplate.Decimal

namespace Float32

open VisualTemplate.Decimal

/-- The single-precision number that a text writes. -/
def ofText? (s : String) : Option Float32 :=
  let (negative, cs) := readSign s.toList
  let word := String.ofList (cs.map Char.toLower)
  let size :=
    if word == "inf" || word == "infinity" then some singleInfinity
    else if word == "nan" then some singleNan
    else (readScaled? cs).map Scaled.single
  size.map fun x => if negative then -x else x

end Float32
