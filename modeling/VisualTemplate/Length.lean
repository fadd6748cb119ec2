import VisualTemplate.Decimal.Reading
import VisualTemplate.Json.Decode
import VisualTemplate.Text.Blank
import VisualTemplate.Text.Cut
/-!
Lengths, insets and positions, in pixels unless they say otherwise.
-/

namespace VisualTemplate

open Json

/-- A length: pixels, a percentage of the parent, or automatic. -/
inductive Length where
  | px (x : Float32)
  | percent (x : Float32)
  | auto
  deriving BEq

namespace Length

def number? (cs : List Char) : Option Float32 := Float32.ofText? (.ofList (Text.trim cs))

/-- A length from `auto`, `50%`, `120px` or a bare number of pixels. -/
def ofText? (text : String) : Option Length :=
  let s := text.trimmed
  if s.sameIgnoringCase "auto" then some .auto
  else match s.before? "%" with
    | some share => (number? share.toList).map .percent
    | none => (number? ((s.before? "px").getD s).toList).map .px

def css : Length → String
  | .px x => x.plain ++ "px"
  | .percent x => x.plain ++ "%"
  | .auto => "auto"

def px? : Length → Option Float32
  | .px x => some x
  | _ => none

def toValue : Length → Value
  | .px x => .single x
  | l => .string l.css

/-- A number of pixels or the text of a length. -/
def decoder : Decoder Length := fun mode s => do
  buffer mode s
  match s with
  | .number n => .ok (.px n.toSingle)
  | .string text =>
    match ofText? text with
    | some l => .ok l
    | none => .error (.refused s!"invalid length '{text}'")
  | _ => .error .misshapen

end Length

/-- Space on four sides. -/
structure Insets where
  top : Float32 := 0
  right : Float32 := 0
  bottom : Float32 := 0
  left : Float32 := 0
  deriving BEq

namespace Insets

def uniform (x : Float32) : Insets := ⟨x, x, x, x⟩

def isZero (i : Insets) : Bool := i.top == 0 && i.right == 0 && i.bottom == 0 && i.left == 0

def css (i : Insets) : String :=
  " ".intercalate ([i.top, i.right, i.bottom, i.left].map fun x => x.plain ++ "px")

def toValue (i : Insets) : Value :=
  .object [("top", .single i.top), ("right", .single i.right), ("bottom", .single i.bottom),
    ("left", .single i.left)]

def decoder : Decoder Insets :=
  .record (mk <$> .optional "top" .single 0 <*> .optional "right" .single 0
    <*> .optional "bottom" .single 0 <*> .optional "left" .single 0)

end Insets

structure Position where
  x : Float32
  y : Float32
  deriving BEq

namespace Position

def isOrigin (p : Position) : Bool := p.x == 0 && p.y == 0

def toValue (p : Position) : Value := .object [("x", .single p.x), ("y", .single p.y)]

def decoder : Decoder Position :=
  .record (mk <$> .required "x" .single <*> .required "y" .single)

end Position

/-- A colour of a template: written out, or looked up among the schema's tokens. -/
inductive Paint where
  | token (name : String)
  | literal (text : String)
  deriving DecidableEq, Repr

namespace Paint

def black : Paint := .literal "#000000"

def toValue : Paint → Value
  | .token name => .object [("token", .string name)]
  | .literal text => .string text

def decoder : Decoder Paint := fun mode s => do
  buffer mode s
  match Decoder.record (.required "token" .string) .buffered s, s with
  | .ok name, _ => .ok (.token name)
  | .error _, .string text => .ok (.literal text)
  | .error _, _ => .error .misshapen

end Paint

end VisualTemplate
