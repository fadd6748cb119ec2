import VisualTemplate.Decimal.Layout
/-!
Numbers of a document.

A whole number of 64 bits is kept as it is. Any other number becomes a double: its leading digits
that fit into 64 bits, times or divided by a power of ten.
-/

namespace VisualTemplate.Json

open Decimal

inductive Number where
  | whole (n : Int)
  | double (x : Float)
  | single (x : Float32)

namespace Number

def text : Number → String
  | whole n => toString n
  | double x => x.documentText
  | single x => x.documentText

/-- The nearest single-precision number. -/
def toSingle : Number → Float32
  | whole n =>
    let size := Float32.ofScientific n.natAbs false 0
    if n < 0 then -size else size
  | double x => x.single
  | single x => x

/-- Digits of a number as read: those that fit into 64 bits, and the exponent of the last. -/
structure Leading where
  significand : Nat
  exponent : Int

/-- One more digit before the point. -/
def Leading.digit (l : Leading) (c : Char) : Leading :=
  let next := l.significand * 10 + (c.toNat - '0'.toNat)
  if l.exponent = 0 ∧ next < Nat.pow 2 64 then ⟨next, 0⟩ else ⟨l.significand, l.exponent + 1⟩

/-- The digits behind the point, as many as fit. -/
def Leading.fraction (l : Leading) : List Char → Leading
  | [] => l
  | c :: cs =>
    let next := l.significand * 10 + (c.toNat - '0'.toNat)
    if next < Nat.pow 2 64 then Leading.fraction ⟨next, l.exponent - 1⟩ cs else l

/-- `10 ^ n` for `n` up to 308. -/
def power (n : Nat) : Float := Float.ofScientific 1 false n

/-- `x · 10 ^ e`, unless it is too large for a double. -/
def scale : Nat → Float → Int → Option Float
  | 0, x, _ => some x
  | fuel + 1, x, e =>
    if e.natAbs ≤ 308 then
      if 0 ≤ e then
        let y := x * power e.natAbs
        if y.isInf then none else some y
      else some (x / power e.natAbs)
    else if x == 0 then some x
    else if 0 ≤ e then none
    else scale fuel (x / power 308) (e + 308)

def Leading.double? (l : Leading) (negative : Bool) : Option Float :=
  (scale 8 l.significand.toUInt64.toFloat l.exponent).map fun x => if negative then -x else x

/-- A number from its parts; nothing if it is too large. -/
def ofParts? (negative : Bool) (digits : List Char) (fraction : Option (List Char))
    (exponent : Option Int) : Option Number :=
  let l := digits.foldl Leading.digit ⟨0, 0⟩
  match fraction, exponent with
  | none, none =>
    if l.exponent ≠ 0 then (l.double? negative).map double
    else if !negative then some (whole l.significand)
    else if l.significand = 0 ∨ Nat.pow 2 63 < l.significand then (l.double? true).map double
    else some (whole (-l.significand))
  | _, _ =>
    let l := l.fraction (fraction.getD [])
    (Leading.double? ⟨l.significand, l.exponent + exponent.getD 0⟩ negative).map double

end Number

end VisualTemplate.Json
