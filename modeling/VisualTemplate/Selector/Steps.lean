import VisualTemplate.Selector.Token
/-!
Positions in steps: `2n+1`, `even`, `-n+3` or one number.
-/

namespace VisualTemplate.Selector

def skipBlanks (ts : List Token) : List Token := ts.dropWhile (· == .blank)

/-- The positions `offset`, `offset + step`, `offset + 2 * step` and so on. -/
structure Steps where
  step : Int
  offset : Int
  deriving DecidableEq, Repr

namespace Steps

/-- A position, counted from 1, is one of the steps. A distance beyond 32 bits is none. -/
def has (s : Steps) (position : Nat) : Bool :=
  let distance := position - s.offset
  distance < bound &&
    if s.step = 0 then distance == 0 else distance % s.step == 0 && 0 ≤ distance / s.step

/-- A number without a sign behind one that stands alone. -/
def signed? (step sign : Int) (ts : List Token) : Option (Steps × List Token) :=
  match skipBlanks ts with
  | .number false (some n) :: ts => some (⟨step, sign * n⟩, ts)
  | _ => none

/-- The offset behind a step, if there is one. -/
def offset? (step : Int) (ts : List Token) : Option (Steps × List Token) :=
  match skipBlanks ts with
  | .mark '+' :: ts => signed? step 1 ts
  | .mark '-' :: ts => signed? step (-1) ts
  | .number true (some n) :: ts => some (⟨step, n⟩, ts)
  | _ => some (⟨step, 0⟩, ts)

/-- Steps from the word that begins with `n` and what follows it. -/
def behind? (step : Int) (word : String) (ts : List Token) : Option (Steps × List Token) :=
  match word.lowerAscii.toList with
  | ['n'] => offset? step ts
  | ['n', '-'] => signed? step (-1) ts
  | 'n' :: '-' :: digits =>
    if digits.all Char.isDigit then some (⟨step, clamp (-Decimal.wholeOf digits)⟩, ts) else none
  | _ => none

def ofTokens? (ts : List Token) : Option (Steps × List Token) :=
  match skipBlanks ts with
  | .number _ (some n) :: ts => some (⟨0, n⟩, ts)
  | .dimension (some step) unit :: ts => behind? step unit ts
  | .mark '+' :: .ident word :: ts => behind? 1 word ts
  | .ident word :: ts =>
    match word.lowerAscii with
    | "even" => some (⟨2, 0⟩, ts)
    | "odd" => some (⟨2, 1⟩, ts)
    | word =>
      match word.after? "-" with
      | some word => behind? (-1) word ts
      | none => behind? 1 word ts
  | _ => none

end Steps

end VisualTemplate.Selector
