/-!
Binary floating-point numbers as exact fractions.

A finite number is `± m · 2 ^ e` with whole `m`. The numbers that round to it fill an interval,
given here in quarters of its last place.
-/

namespace VisualTemplate.Decimal

/-- The value of a float. -/
inductive Binary where
  | nan
  | infinite (negative : Bool)
  | finite (negative : Bool) (m : Nat) (e : Int)
  deriving Repr, DecidableEq

/-- Widths of the fields of a float's bits. -/
structure Width where
  fraction : Nat
  exponent : Nat

def Width.single : Width := ⟨23, 8⟩
def Width.double : Width := ⟨52, 11⟩

/-- The exponent of the smallest positive number. -/
def Width.least (w : Width) : Int := 2 - Nat.pow 2 (w.exponent - 1) - w.fraction

def Binary.ofBits (w : Width) (bits : Nat) : Binary :=
  let fraction := bits % Nat.pow 2 w.fraction
  let exponent := bits / Nat.pow 2 w.fraction % Nat.pow 2 w.exponent
  let negative := bits / Nat.pow 2 (w.fraction + w.exponent) % 2 == 1
  if exponent = Nat.pow 2 w.exponent - 1 then
    if fraction = 0 then .infinite negative else .nan
  else if exponent = 0 then .finite negative fraction w.least
  else .finite negative (fraction + Nat.pow 2 w.fraction) (w.least + (exponent - 1))

/-- The numbers that round to `value`, all in units of `2 ^ unit`; the ends count when `closed`. -/
structure Interval where
  low : Nat
  value : Nat
  high : Nat
  unit : Int
  closed : Bool

/-- The interval of `m · 2 ^ e`. Below a power of two the numbers lie twice as dense. -/
def Interval.around (w : Width) (m : Nat) (e : Int) : Interval :=
  let dense := m = Nat.pow 2 w.fraction ∧ w.least < e
  { low := if dense then 4 * m - 1 else 4 * m - 2
    value := 4 * m
    high := 4 * m + 2
    unit := e - 2
    closed := m % 2 == 0 }

def singleNan : Float32 := .ofBits 0x7fc00000
def singleInfinity : Float32 := .ofBits 0x7f800000

end VisualTemplate.Decimal

namespace Float32

open VisualTemplate.Decimal

def binary (x : Float32) : Binary := .ofBits .single x.toBits.toNat

/-- The nearest whole number, a half going up; 0 for what is negative or no number, and the
largest word for what is larger. -/
def nearestWord (x : Float32) : UInt32 :=
  let whole := x.toUInt32
  if whole = 0xffffffff then whole
  else if x - whole.toFloat32 ≥ 0.5 then whole + 1 else whole

/-- The number brought between two bounds; no number stays no number. -/
def clamped (x low high : Float32) : Float32 :=
  if x < low then low else if x > high then high else x

end Float32

namespace Float

open VisualTemplate.Decimal

def binary (x : Float) : Binary := .ofBits .double x.toBits.toNat

/-- The nearest single-precision number. A binary fraction is a finite decimal: `m / 2 ^ k` is
`m · 5 ^ k / 10 ^ k`. -/
def single (x : Float) : Float32 :=
  match x.binary with
  | .nan => singleNan
  | .infinite negative => if negative then -singleInfinity else singleInfinity
  | .finite negative m e =>
    let size := if 0 ≤ e then Float32.ofScientific (m * Nat.pow 2 e.toNat) false 0
      else Float32.ofScientific (m * Nat.pow 5 (-e).toNat) true (-e).toNat
    if negative then -size else size

end Float
