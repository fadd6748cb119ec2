import VisualTemplate.Decimal.Binary
/-!
The fewest decimal digits that read back as a given float.

The grids of multiples of `10 ^ k`, `10 ^ (k - 1)`, … are tried in turn. On the first grid with a
point in the float's interval the nearer of the value's two neighbours is taken.
-/

namespace VisualTemplate.Decimal

/-- The value `coefficient · 10 ^ exponent`. -/
structure Scaled where
  coefficient : Nat
  exponent : Int
  deriving Repr, DecidableEq

/-- Which neighbour is taken when the value lies halfway between two grid points. -/
inductive Tie where
  | even
  | up
  deriving DecidableEq

/-- `a · 10 ^ p` and `x · 2 ^ q` as whole numbers on one scale. -/
def align (a : Nat) (p : Int) (x : Nat) (q : Int) : Nat × Nat :=
  (a * Nat.pow 10 p.toNat * Nat.pow 2 (-q).toNat, x * Nat.pow 2 q.toNat * Nat.pow 10 (-p).toNat)

/-- The largest multiple of `10 ^ p` that is not above `x · 2 ^ q`, counted in `10 ^ p`. -/
def gridBelow (x : Nat) (q : Int) (p : Int) : Nat :=
  let (ten, two) := align 1 p x q
  two / ten

/-- The grid point `a · 10 ^ p` lies in the interval. -/
def Interval.holds (i : Interval) (a : Nat) (p : Int) : Bool :=
  let (x, low) := align a p i.low i.unit
  let (y, high) := align a p i.high i.unit
  if i.closed then low ≤ x && y ≤ high else low < x && y < high

/-- The upper neighbour `a + 1` is taken before the lower neighbour `a`. -/
def Interval.prefersUpper (i : Interval) (tie : Tie) (a : Nat) (p : Int) : Bool :=
  let (mid, value) := align (2 * a + 1) p (2 * i.value) i.unit
  if value = mid then (match tie with | .even => a % 2 == 1 | .up => true) else mid < value

/-- The neighbour of the value on the grid of `10 ^ p` that lies in the interval. -/
def Interval.point? (i : Interval) (tie : Tie) (p : Int) : Option Nat :=
  let a := gridBelow i.value i.unit p
  match i.holds a p, i.holds (a + 1) p with
  | true, true => some (if i.prefersUpper tie a p then a + 1 else a)
  | true, false => some a
  | false, true => some (a + 1)
  | false, false => none

/-- The exponent of the leading digit of `x · 2 ^ q`. -/
def leading (x : Nat) (q : Int) : Int :=
  let guess := ((x.log2 : Int) + q) * 1233 / 4096 - 1
  let reaches (p : Int) : Bool := let (ten, two) := align 1 p x q; ten ≤ two
  if reaches (guess + 2) then guess + 2 else if reaches (guess + 1) then guess + 1 else guess

/-- A value without zeros at the end of its coefficient. -/
def Scaled.dropZeros : Nat → Scaled → Scaled
  | 0, s => s
  | fuel + 1, s =>
    if s.coefficient ≠ 0 ∧ s.coefficient % 10 = 0 then
      Scaled.dropZeros fuel ⟨s.coefficient / 10, s.exponent + 1⟩
    else s

/-- The fewest digits in the interval, the nearest of those. -/
def Interval.shortest (i : Interval) (tie : Tie) : Scaled :=
  let top := leading i.value i.unit
  let tries := (List.range 18).map fun n : Nat => top - (n : Int)
  let found := tries.findSome? fun p => (i.point? tie p).map fun a => Scaled.mk a p
  (found.getD ⟨gridBelow i.value i.unit (top - 18), top - 18⟩).dropZeros 20

/-- The fewest digits of `m · 2 ^ e`. -/
def shortest (w : Width) (tie : Tie) (m : Nat) (e : Int) : Scaled :=
  if m = 0 then ⟨0, 0⟩ else (Interval.around w m e).shortest tie

end VisualTemplate.Decimal
