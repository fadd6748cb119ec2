import VisualTemplate.Decimal.Reading
import VisualTemplate.Text.Blank
import VisualTemplate.Text.Cut
/-!
Fonts of inline styles: size, weight, line height and family.
-/

namespace VisualTemplate.Font

def number? (s : String) : Option Float32 := Float32.ofText? s.trimmed

/-- The size in pixels. `em` and percentages refer to the parent's size, `rem` to 16 pixels. -/
def size? (value : String) (parent : Float32) : Option Float32 :=
  let v := value.trimmed
  match v.before? "rem", v.before? "em", v.before? "pt", v.before? "%" with
  | some n, _, _, _ => (number? n).map (· * 16)
  | _, some n, _, _ => (number? n).map (· * parent)
  | _, _, some n, _ => (number? n).map fun x => x * 4 / 3
  | _, _, _, some n => (number? n).map fun x => x / 100 * parent
  | _, _, _, _ => number? ((v.before? "px").getD v)

/-- A whole number with at most a plus sign, below a bound. -/
def whole? (bound : Nat) (s : String) : Option Nat :=
  let digits := match s.toList with
    | '+' :: ds => ds
    | ds => ds
  if digits.isEmpty || !digits.all Char.isDigit then none
  else
    let n := Decimal.wholeOf digits
    if n < bound then some n else none

def weight? (value : String) : Option UInt16 :=
  match value.trimmed with
  | "normal" => some 400
  | "bold" => some 700
  | "lighter" => some 300
  | "bolder" => some 800
  | other => (whole? (Nat.pow 2 16) other).map Nat.toUInt16

/-- The line height in pixels. Bare numbers and percentages refer to the font's size. -/
def lineHeight? (value : String) (size : Float32) : Option Float32 :=
  let v := value.trimmed
  if v == "normal" then none
  else match v.before? "%", v.before? "px" with
    | some share, _ => (number? share).map fun x => x / 100 * size
    | _, some px => number? px
    | _, _ => (Float32.ofText? v).map (· * size)

/-- The first family of a list, without quotes. -/
def family? (value : String) : Option String :=
  let first := (value.toList.splitOn ',').headD []
  let name := Text.strip (fun c => c == '"' || c == '\'') (Text.trim first)
  if name.isEmpty then none else some (.ofList name)

end VisualTemplate.Font
