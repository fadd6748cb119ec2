import VisualTemplate.Text.Blank
import VisualTemplate.Text.Hex
/-!
Sets of characters as ranges of code points.

The ranges are in order and do not touch each other.
-/

namespace VisualTemplate.Text

/-- Ranges of code points with both ends. -/
abbrev CharSet := List (Nat × Nat)

namespace CharSet

def last : Nat := 0x10FFFF

def has : CharSet → Nat → Bool
  | [], _ => false
  | (a, b) :: rs, n => if n < a then false else if n ≤ b then true else has rs n

def mem (s : CharSet) (c : Char) : Bool := s.has c.toNat

def single (c : Char) : CharSet := [(c.toNat, c.toNat)]

/-- Joins ranges that overlap or touch, given in order of their lower ends. -/
def join : CharSet → CharSet
  | [] => []
  | (a, b) :: rest =>
    match join rest with
    | (c, d) :: more => if c ≤ b + 1 then (a, max b d) :: more else (a, b) :: (c, d) :: more
    | [] => [(a, b)]

def ofRanges (rs : List (Nat × Nat)) : CharSet := join (rs.mergeSort fun x y => x.1 ≤ y.1)

def union (s t : CharSet) : CharSet := ofRanges (s ++ t)

/-- What lies outside a set from some code point on. -/
def outside (start : Nat) : CharSet → CharSet
  | [] => if start ≤ last then [(start, last)] else []
  | (a, b) :: rs => if start < a then (start, a - 1) :: outside (b + 1) rs else outside (b + 1) rs

def complement (s : CharSet) : CharSet := outside 0 s

def inter (s t : CharSet) : CharSet := complement (union s.complement t.complement)

def diff (s t : CharSet) : CharSet := inter s t.complement

def symmDiff (s t : CharSet) : CharSet := union (diff s t) (diff t s)

/-- A set from its ranges in hexadecimal digits, with blanks between them. -/
def ofText (s : String) : CharSet :=
  (words s.toList).map fun w =>
    match w.splitOn '-' with
    | [a, b] => (hexOf a, hexOf b)
    | _ => (hexOf w, hexOf w)

end CharSet

end VisualTemplate.Text
