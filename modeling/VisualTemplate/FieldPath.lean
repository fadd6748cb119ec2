import VisualTemplate.Text.Blank
import VisualTemplate.Text.Cut
import VisualTemplate.Decimal.Reading
/-!
Field paths such as `eventTitle`, `people[0].role` or `people[].role`.

A path is a sequence of parts with dots between them. A part is a key and any number of brackets;
empty brackets are an open slot, which takes the next entry of a list wherever it occurs.
-/

namespace VisualTemplate

inductive Segment where
  | key (name : String)
  | index (n : Nat)
  | slot
  deriving DecidableEq, Repr

structure FieldPath where
  segments : List Segment
  deriving DecidableEq, Repr

namespace FieldPath

def isKeyStart (c : Char) : Bool := c.isAlpha || c == '_'

def isKeyChar (c : Char) : Bool := c.isAlphanum || c == '_' || c == '-'

def isKey : List Char → Bool
  | [] => false
  | c :: cs => isKeyStart c && cs.all isKeyChar

/-- The index between brackets: digits, with a plus sign at most, below 2 to the 64th. -/
def index? (cs : List Char) : Option Nat :=
  let digits := match cs with
    | '+' :: ds => ds
    | ds => ds
  if digits.isEmpty || !digits.all Char.isDigit then none
  else
    let n := Decimal.wholeOf digits
    if n < Nat.pow 2 64 then some n else none

/-- What stands between brackets. -/
def bracket? (inner : List Char) : Option Segment :=
  if inner.isEmpty then some .slot else (index? inner).map .index

/-- The brackets behind a key. -/
def brackets? (cs : List Char) : Option (List Segment) :=
  match cs with
  | [] => some []
  | c :: cs =>
    if c = '[' then
      match _h : Text.cutAt (· == ']') cs with
      | none => none
      | some (inner, rest) => do
        let s ← bracket? inner
        let ss ← brackets? rest
        some (s :: ss)
    else none
termination_by cs.length
decreasing_by
  have := Text.length_of_cutAt _h
  simp only [List.length_cons]
  omega

/-- A key with its brackets. -/
def part? (cs : List Char) : Option (List Segment) :=
  let (key, rest) := cs.span (· != '[')
  if isKey key then (brackets? rest).map (.key (.ofList key) :: ·) else none

def ofText? (s : String) : Option FieldPath :=
  ((s.toList.splitOn '.').mapM part?).map fun parts => ⟨parts.flatten⟩

def Segment.text : Segment → String
  | .key name => "." ++ name
  | .index n => "[" ++ toString n ++ "]"
  | .slot => "[]"

def text (p : FieldPath) : String :=
  match p.segments with
  | .key name :: rest => name ++ String.join (rest.map Segment.text)
  | segments => String.join (segments.map Segment.text)

def hasSlot (p : FieldPath) : Bool := p.segments.contains .slot

/-- The first open slot filled. -/
def fillFirst (i : Nat) : List Segment → List Segment
  | [] => []
  | .slot :: ss => .index i :: ss
  | s :: ss => s :: fillFirst i ss

def fillSlot (p : FieldPath) (i : Nat) : FieldPath := ⟨fillFirst i p.segments⟩

end FieldPath

end VisualTemplate
