import VisualTemplate.Decimal.Shortest
/-!
How a decimal number is laid out as text.
-/

namespace VisualTemplate.Decimal

/-- The decisions of one number format. -/
structure Layout where
  /-- The exponents of the leading digit that are written without an exponent; all if absent. -/
  positional : Option (Int × Int)
  /-- A whole number keeps a point and a zero. -/
  keepsPoint : Bool
  tie : Tie
  nan : String
  infinity : String

/-- Numbers in style sheets, attributes and path data: never an exponent, no superfluous point,
and a tie goes up. -/
def Layout.plain : Layout := ⟨none, false, .up, "NaN", "inf"⟩

/-- Double-precision numbers in documents. -/
def Layout.document : Layout := ⟨some (-5, 15), true, .even, "null", "null"⟩

/-- Single-precision numbers in documents. -/
def Layout.documentSingle : Layout := ⟨some (-6, 12), true, .even, "null", "null"⟩

def digitsOf (n : Nat) : List Char := (Nat.repr n).toList

/-- Digits with the point after `places` of them, which may lie outside the digits. -/
def placePoint (digits : List Char) (places : Int) (keepsPoint : Bool) : List Char :=
  let n : Int := digits.length
  if places ≤ 0 then '0' :: '.' :: (List.replicate (-places).toNat '0' ++ digits)
  else if places < n then digits.take places.toNat ++ '.' :: digits.drop places.toNat
  else digits ++ List.replicate (places - n).toNat '0' ++ (if keepsPoint then ['.', '0'] else [])

/-- Digits with an exponent: one digit, the others after a point, the exponent with its sign. -/
def placeExponent (digits : List Char) (exponent : Int) : List Char :=
  let head := match digits with
    | [] => []
    | [d] => [d]
    | d :: ds => d :: '.' :: ds
  let sign := if exponent < 0 then '-' else '+'
  head ++ 'e' :: sign :: digitsOf exponent.natAbs

/-- The text of `coefficient · 10 ^ exponent`. -/
def Layout.size (l : Layout) (s : Scaled) : List Char :=
  let digits := digitsOf s.coefficient
  let places : Int := digits.length + s.exponent
  let positional := match l.positional with
    | none => true
    | some (least, most) => s.coefficient = 0 || (least ≤ places - 1 && places - 1 ≤ most)
  if positional then placePoint digits places l.keepsPoint
  else placeExponent digits (places - 1)

/-- The text of a float. -/
def Layout.text (l : Layout) (w : Width) (b : Binary) : String :=
  let signed (negative : Bool) (s : String) := if negative then "-" ++ s else s
  match b with
  | .nan => l.nan
  | .infinite negative => if l.nan == l.infinity then l.nan else signed negative l.infinity
  | .finite negative m e => signed negative (.ofList (l.size (shortest w l.tie m e)))

end VisualTemplate.Decimal

namespace Float32

open VisualTemplate.Decimal

/-- The number as it stands in style sheets, attributes and path data. -/
def plain (x : Float32) : String := Layout.plain.text .single x.binary

/-- The number as it stands in a document. -/
def documentText (x : Float32) : String := Layout.documentSingle.text .single x.binary

end Float32

namespace Float

open VisualTemplate.Decimal

/-- The number as it stands in a document. -/
def documentText (x : Float) : String := Layout.document.text .double x.binary

end Float
