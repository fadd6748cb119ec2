import VisualTemplate.Color
import VisualTemplate.Node
import VisualTemplate.Token
/-!
Inline styles: the declarations of a style attribute, as typed values.

Declarations end at semicolons outside brackets. Of several for one property the last counts.
-/

namespace VisualTemplate

/-- A brackets' depth after one more character; it never falls below zero. -/
def InlineStyle.depthAfter (depth : Nat) (c : Char) : Nat :=
  if c = '(' then depth + 1 else if c = ')' then depth - 1 else depth

/-- The pieces between semicolons outside brackets. -/
def InlineStyle.split (depth : Nat) : List Char → List (List Char)
  | [] => [[]]
  | c :: cs =>
    if c = ';' ∧ depth = 0 then [] :: split 0 cs
    else match split (depthAfter depth c) cs with
      | [] => [[c]]
      | w :: ws => (c :: w) :: ws

structure InlineStyle where
  declarations : Table String := .empty

namespace InlineStyle

open Text

/-- The property and the value of one piece. -/
def declaration? (piece : List Char) : Option (String × String) := do
  let (property, value) ← cutAt (· == ':') piece
  let property := String.ofList ((trim property).map Char.toLower)
  let value := trim value
  let value := String.ofList (trim (dropEndings "!important".toList value))
  if property.isEmpty || value.isEmpty then none else some (property, value)

def ofText (s : String) : InlineStyle :=
  ⟨.ofList ((split 0 s.toList).filterMap declaration?)⟩

def get? (s : InlineStyle) (property : String) : Option String := s.declarations.get? property

def length? (s : InlineStyle) (property : String) : Option Length :=
  (s.get? property).bind Length.ofText?

def px? (s : InlineStyle) (property : String) : Option Float32 :=
  (s.length? property).bind Length.px?

/-- Insets from one to four values, clockwise from the top. -/
def insetsOf (value : String) : Insets :=
  let px (w : List Char) : Float32 := ((Length.ofText? (.ofList w)).bind Length.px?).getD 0
  match (words value.toList).map px with
  | [] => {}
  | [a] => .uniform a
  | [v, h] => ⟨v, h, v, h⟩
  | [t, h, b] => ⟨t, h, b, h⟩
  | t :: r :: b :: l :: _ => ⟨t, r, b, l⟩

/-- The insets of a property, with those of its sides on top. -/
def insets (s : InlineStyle) (property : String) : Insets :=
  let i := ((s.get? property).map insetsOf).getD {}
  let side (name : String) (x : Float32) : Float32 := (s.px? (property ++ "-" ++ name)).getD x
  ⟨side "top" i.top, side "right" i.right, side "bottom" i.bottom, side "left" i.left⟩

def hasOne (s : InlineStyle) (property : String) (values : List String) : Bool :=
  match s.get? property with
  | some v => values.contains v
  | none => false

def isFlex (s : InlineStyle) : Bool := s.hasOne "display" ["flex", "inline-flex"]

def isHidden (s : InlineStyle) : Bool :=
  s.hasOne "display" ["none"] || s.hasOne "visibility" ["hidden"]

def direction (s : InlineStyle) : FlexDirection :=
  match s.get? "flex-direction" with
  | some d => if (d.after? "column").isSome then .column else .row
  | none => .row

def justify (s : InlineStyle) : Justify :=
  match (s.get? "justify-content").getD "" with
  | "center" => .center
  | "flex-end" | "end" | "right" => .finish
  | "space-between" => .spaceBetween
  | "space-around" => .spaceAround
  | "space-evenly" => .spaceEvenly
  | _ => .start

def align (s : InlineStyle) : Align :=
  match (s.get? "align-items").getD "" with
  | "center" => .center
  | "flex-start" | "start" => .start
  | "flex-end" | "end" => .finish
  | "baseline" => .baseline
  | _ => .stretch

def gap (s : InlineStyle) : Float32 :=
  ((do
    let value ← s.get? "gap"
    let first ← (words value.toList).head?
    (← Length.ofText? (.ofList first)).px?) : Option Float32).getD 0

def overflow (s : InlineStyle) : Overflow :=
  if s.hasOne "overflow" ["hidden", "clip"] then .hidden else .visible

def boxSizing (s : InlineStyle) : Option BoxSizing :=
  match s.get? "box-sizing" with
  | some "border-box" => some .borderBox
  | some "content-box" => some .contentBox
  | _ => none

def textAlign (s : InlineStyle) : Option TextAlign :=
  match s.get? "text-align" with
  | some "left" | some "start" => some .left
  | some "center" => some .center
  | some "right" | some "end" => some .right
  | some "justify" => some .justify
  | _ => none

def objectFit (s : InlineStyle) : ObjectFit :=
  match (s.get? "object-fit").getD "" with
  | "contain" => .contain
  | "fill" => .fill
  | "none" => .none
  | "scale-down" => .scaleDown
  | _ => .cover

def background (s : InlineStyle) : Option String :=
  (s.get? "background-color").or (s.get? "background")

end InlineStyle

end VisualTemplate
