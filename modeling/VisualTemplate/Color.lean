import VisualTemplate.Decimal.Reading
import VisualTemplate.Text.Blank
import VisualTemplate.Text.Cut
import VisualTemplate.Text.Hex
/-!
Colours: four channels of a byte each.

A colour is written as `#` with 3, 4, 6 or 8 hexadecimal digits, or as `rgb(…)` or `rgba(…)` with
three or four numbers. Its normal form is `#rrggbb`, or `rgba(r,g,b,alpha)` when it is not opaque.
-/

namespace VisualTemplate

structure Color where
  r : UInt8
  g : UInt8
  b : UInt8
  a : UInt8
  deriving DecidableEq, Repr

namespace Color

def white : Color := ⟨255, 255, 255, 255⟩

def isOpaque (c : Color) : Bool := c.a == 255

/-- The nearest byte to a number, brought into the range of a byte. -/
def channel (x : Float32) : UInt8 := (x.clamped 0 255).nearestWord.toUInt8

/-- The byte of a share between 0 and 1. -/
def share (x : Float32) : UInt8 := ((x.clamped 0 1) * 255).nearestWord.toUInt8

def ofShares (r g b a : Float32) : Color := ⟨share r, share g, share b, share a⟩

/-- A channel moved towards 255 by a share of the way. -/
def lightenChannel (p : Float32) (c : UInt8) : UInt8 :=
  let x := c.toFloat32
  channel ((x + (255 - x) * p).nearestWord.toFloat32)

/-- The colour moved towards white by a percentage of the way; its alpha stays. -/
def lighten (c : Color) (percent : Float32) : Color :=
  let p := percent.clamped 0 100 / 100
  ⟨lightenChannel p c.r, lightenChannel p c.g, lightenChannel p c.b, c.a⟩

def hexByte (n : UInt8) : List Char :=
  [Nat.digitChar (n.toNat / 16), Nat.digitChar (n.toNat % 16)]

/-- Alpha as a share with at most three places. -/
def alphaShare (a : UInt8) : Float32 :=
  (a.toFloat32 / 255 * 1000).nearestWord.toFloat32 / 1000

def css (c : Color) : String :=
  if c.isOpaque then .ofList ('#' :: hexByte c.r ++ hexByte c.g ++ hexByte c.b)
  else s!"rgba({c.r.toNat},{c.g.toNat},{c.b.toNat},{(alphaShare c.a).plain})"

def hexDigit? (c : Char) : Option UInt8 := (Text.hexValue? c).map Nat.toUInt8

/-- A colour from its hexadecimal digits. -/
def ofHex? : List UInt8 → Option Color
  | [r, g, b] => some ⟨r * 17, g * 17, b * 17, 255⟩
  | [r, g, b, a] => some ⟨r * 17, g * 17, b * 17, a * 17⟩
  | [r, r', g, g', b, b'] => some ⟨r * 16 + r', g * 16 + g', b * 16 + b', 255⟩
  | [r, r', g, g', b, b', a, a'] =>
    some ⟨r * 16 + r', g * 16 + g', b * 16 + b', a * 16 + a'⟩
  | _ => none

/-- The alpha of a share or a percentage. -/
def alpha? (s : String) : Option UInt8 :=
  match s.before? "%" with
  | some percent => (Float32.ofText? percent).map fun x => share (x / 100)
  | none => (Float32.ofText? s).map share

/-- A colour from its numbers. -/
def ofArguments? : List String → Option Color
  | [r, g, b] => do
    some ⟨channel (← Float32.ofText? r), channel (← Float32.ofText? g),
      channel (← Float32.ofText? b), 255⟩
  | [r, g, b, a] => do
    some ⟨channel (← Float32.ofText? r), channel (← Float32.ofText? g),
      channel (← Float32.ofText? b), ← alpha? a⟩
  | _ => none

def isSeparator (c : Char) : Bool := c == ',' || c == '/' || c == ' '

/-- The numbers between the brackets of a functional colour. -/
def arguments? (s : String) : Option (List String) := do
  let s := s.lowerAscii
  let rest ← (s.after? "rgba(").orElse fun _ => s.after? "rgb("
  let inner ← rest.before? ")"
  let parts := (inner.toList.splitOnP isSeparator).map Text.trim
  some ((parts.filter (!·.isEmpty)).map .ofList)

/-- The colour that a text writes, blanks at its ends apart. -/
def ofText? (text : String) : Option Color :=
  let s := text.trimmed
  match s.after? "#" with
  | some digits => (digits.toList.mapM hexDigit?).bind ofHex?
  | none => (arguments? s).bind ofArguments?

/-- The normal form of a colour's text. -/
def normalize? (text : String) : Option String := (ofText? text).map css

end Color

end VisualTemplate
