import VisualTemplate.Decimal.Reading
import VisualTemplate.Json.Value
import VisualTemplate.Text.Hex
/-!
A document text as far as it can be read.

The source of a value records the faults of the text where they stand: what follows a fault is not
read. Faults that only count when the value is taken, and not when it is passed over, are kept
apart from those that always count.
-/

namespace VisualTemplate.Json

/-- Containers may be nested this deep. -/
def depthLimit : Nat := 127

inductive Source where
  /-- The text is no document from here on. -/
  | broken
  | null
  | bool (b : Bool)
  | number (n : Number)
  /-- A number too large for a double. -/
  | huge
  | string (s : String)
  /-- A string with half of a surrogate pair. -/
  | halved
  | array (deep : Bool) (items : List Source)
  /-- A name is missing where it cannot be read. -/
  | object (deep : Bool) (fields : List (Option String × Source))

instance : Inhabited Source := ⟨.broken⟩

namespace Source

def isSpace (c : Char) : Bool := c == ' ' || c == '\n' || c == '\t' || c == '\r'

def skip (cs : List Char) : List Char := cs.dropWhile isSpace

def simpleEscape? (c : Char) : Option Char :=
  match c with
  | '"' => some '"'
  | '\\' => some '\\'
  | '/' => some '/'
  | 'b' => some '\x08'
  | 'f' => some '\x0c'
  | 'n' => some '\n'
  | 'r' => some '\r'
  | 't' => some '\t'
  | _ => none

/-- What a string literal has given so far. -/
structure Literal where
  /-- Characters, last first. -/
  chars : List Char := []
  /-- The first half of a pair, waiting for the second. -/
  high : Option Nat := none
  /-- A half has been left alone. -/
  halved : Bool := false

def Literal.push (l : Literal) (c : Char) : Literal :=
  ⟨c :: l.chars, none, l.halved || l.high.isSome⟩

def Literal.unit (l : Literal) (u : Nat) : Literal :=
  if 0xD800 ≤ u ∧ u < 0xDC00 then ⟨l.chars, some u, l.halved || l.high.isSome⟩
  else if 0xDC00 ≤ u ∧ u < 0xE000 then
    match l.high with
    | some h => ⟨.ofNat (0x10000 + (h - 0xD800) * 0x400 + (u - 0xDC00)) :: l.chars, none, l.halved⟩
    | none => ⟨l.chars, none, true⟩
  else l.push (.ofNat u)

/-- Reads a string literal behind its opening quote; `none` inside if a half stands alone. -/
def literal (l : Literal) : List Char → Option (Option String × List Char)
  | [] => none
  | '"' :: cs =>
    some (if l.halved || l.high.isSome then none else some (.ofList l.chars.reverse), cs)
  | '\\' :: 'u' :: a :: b :: c :: d :: cs =>
    if [a, b, c, d].all fun x => (Text.hexValue? x).isSome then
      literal (l.unit (Text.hexOf [a, b, c, d])) cs
    else none
  | '\\' :: c :: cs =>
    match simpleEscape? c with
    | some c => literal (l.push c) cs
    | none => none
  | c :: cs => if c.toNat < 32 ∨ c = '\\' then none else literal (l.push c) cs

/-- The digits behind a point, if there is one; there must be some. -/
def fraction? : List Char → Option (Option (List Char) × List Char)
  | '.' :: rest =>
    let (f, rest) := rest.span Char.isDigit
    if f.isEmpty then none else some (some f, rest)
  | rest => some (none, rest)

/-- The exponent behind its letter, if there is one; it must have digits. -/
def exponent? : List Char → Option (Option Int × List Char)
  | c :: rest =>
    if c == 'e' || c == 'E' then
      let (down, rest) := Decimal.readSign rest
      let (e, rest) := rest.span Char.isDigit
      if e.isEmpty then none
      else
        let n : Int := Decimal.wholeOf e
        some (some (if down then -n else n), rest)
    else some (none, c :: rest)
  | [] => some (none, [])

/-- Reads a number behind its sign. -/
def digits (negative : Bool) (cs : List Char) : Option (Source × List Char) := do
  let (whole, rest) := cs.span Char.isDigit
  if whole.isEmpty || (whole.length > 1 && whole.head? == some '0') then none
  let (fraction, rest) ← fraction? rest
  let (exponent, rest) ← exponent? rest
  pure (match Number.ofParts? negative whole fraction exponent with
    | some n => .number n
    | none => .huge, rest)

/-- A fixed word behind its first letter. -/
def word (s : Source) (rest : List Char) (cs : List Char) : Source × Option (List Char) :=
  if rest.isPrefixOf cs then (s, some (cs.drop rest.length)) else (.broken, none)

mutual

/-- Reads a value inside `depth` containers; what follows is missing once a fault stands. -/
def readValue : Nat → Nat → List Char → Source × Option (List Char)
  | 0, _, _ => (.broken, none)
  | fuel + 1, depth, cs =>
    match skip cs with
    | '"' :: cs =>
      match literal {} cs with
      | some (some s, rest) => (.string s, some rest)
      | some (none, rest) => (.halved, some rest)
      | none => (.broken, none)
    | '[' :: cs =>
      let (items, rest) := readItems fuel (depth + 1) true cs
      (.array (depthLimit ≤ depth) items, rest)
    | '\x7b' :: cs =>
      let (fields, rest) := readFields fuel (depth + 1) true cs
      (.object (depthLimit ≤ depth) fields, rest)
    | 'n' :: cs => word .null ['u', 'l', 'l'] cs
    | 't' :: cs => word (.bool true) ['r', 'u', 'e'] cs
    | 'f' :: cs => word (.bool false) ['a', 'l', 's', 'e'] cs
    | '-' :: cs =>
      match digits true cs with
      | some (s, rest) => (s, some rest)
      | none => (.broken, none)
    | cs =>
      match digits false cs with
      | some (s, rest) => (s, some rest)
      | none => (.broken, none)

/-- Reads the items of an array. -/
def readItems : Nat → Nat → Bool → List Char → List Source × Option (List Char)
  | 0, _, _, _ => ([.broken], none)
  | fuel + 1, depth, first, cs =>
    let item (cs : List Char) :=
      match readValue fuel depth cs with
      | (s, none) => ([s], none)
      | (s, some rest) =>
        let (more, rest) := readItems fuel depth false rest
        (s :: more, rest)
    match skip cs with
    | ']' :: rest => ([], some rest)
    | ',' :: rest =>
      if first then ([.broken], none)
      else match skip rest with
        | ']' :: _ => ([.broken], none)
        | rest => item rest
    | cs => if first then item cs else ([.broken], none)

/-- Reads the fields of an object. -/
def readFields : Nat → Nat → Bool → List Char →
    List (Option String × Source) × Option (List Char)
  | 0, _, _, _ => ([(none, .broken)], none)
  | fuel + 1, depth, first, cs =>
    let member (cs : List Char) :=
      match cs with
      | '"' :: cs =>
        match literal {} cs with
        | none => ([(none, .broken)], none)
        | some (name, rest) =>
          match skip rest with
          | ':' :: rest =>
            match readValue fuel depth rest with
            | (s, none) => ([(name, s)], none)
            | (s, some rest) =>
              let (more, rest) := readFields fuel depth false rest
              ((name, s) :: more, rest)
          | _ => ([(name, .broken)], none)
      | _ => ([(none, .broken)], none)
    match skip cs with
    | '\x7d' :: rest => ([], some rest)
    | ',' :: rest => if first then ([(none, .broken)], none) else member (skip rest)
    | cs => if first then member cs else ([(none, .broken)], none)

end

/-- The value that a text starts with, and whether nothing but space follows. -/
def ofText (s : String) : Source × Bool :=
  let cs := s.toList
  match readValue (2 * cs.length + 2) 0 cs with
  | (v, some rest) => (v, (skip rest).isEmpty)
  | (v, none) => (v, false)

end Source

end VisualTemplate.Json
