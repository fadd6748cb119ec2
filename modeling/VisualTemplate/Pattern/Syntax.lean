import VisualTemplate.Text.Blank
import VisualTemplate.Text.Cut
import VisualTemplate.Text.Fold
import VisualTemplate.Text.Hex
import VisualTemplate.Text.Property
/-!
Regular expressions and how they are written.

A pattern that cannot be read, or that uses what patterns do not have (look-around, references to
groups), is refused as a whole. So is one that names a property of characters for which there is no
table: of the scripts only the common ones have one.
-/

namespace VisualTemplate.Pattern

open Text

/-- A place between two characters. -/
inductive Place where
  | textStart
  | textEnd
  | lineStart
  | lineEnd
  | crlfLineStart
  | crlfLineEnd
  | word (unicode : Bool)
  | notWord (unicode : Bool)
  | wordStart (unicode : Bool)
  | wordEnd (unicode : Bool)
  | wordStartHalf (unicode : Bool)
  | wordEndHalf (unicode : Bool)
  deriving DecidableEq, Repr

inductive Regex where
  | empty
  | set (s : CharSet)
  | place (p : Place)
  | both (r s : Regex)
  | either (r s : Regex)
  /-- So many times at least, and at most if there is a bound. -/
  | repeated (least : Nat) (most : Option Nat) (greedy : Bool) (r : Regex)
  deriving Repr, Inhabited

structure Flags where
  ignoreCase : Bool := false
  multiLine : Bool := false
  dotAll : Bool := false
  swapGreed : Bool := false
  unicode : Bool := true
  verbose : Bool := false
  crlf : Bool := false

def wordChars : CharSet := Property.wordChars

def asciiWord : CharSet := .ofText "30-39 41-5A 5F 61-7A"

/-- The set of a class letter such as `d`, in its positive form. -/
def perlClass? (unicode : Bool) (c : Char) : Option CharSet :=
  match c, unicode with
  | 'd', true => some Property.digits
  | 's', true => some Property.whiteSpace
  | 'w', true => some wordChars
  | 'd', false => some (CharSet.ofText "30-39")
  | 's', false => some (CharSet.ofText "9-D 20")
  | 'w', false => some asciiWord
  | _, _ => none

def posixClass? (name : String) : Option CharSet :=
  match name with
  | "alnum" => some (CharSet.ofText "30-39 41-5A 61-7A")
  | "alpha" => some (CharSet.ofText "41-5A 61-7A")
  | "ascii" => some (CharSet.ofText "0-7F")
  | "blank" => some (CharSet.ofText "9 20")
  | "cntrl" => some (CharSet.ofText "0-1F 7F")
  | "digit" => some (CharSet.ofText "30-39")
  | "graph" => some (CharSet.ofText "21-7E")
  | "lower" => some (CharSet.ofText "61-7A")
  | "print" => some (CharSet.ofText "20-7E")
  | "punct" => some (CharSet.ofText "21-2F 3A-40 5B-60 7B-7E")
  | "space" => some (CharSet.ofText "9-D 20")
  | "upper" => some (CharSet.ofText "41-5A")
  | "word" => some asciiWord
  | "xdigit" => some (CharSet.ofText "30-39 41-46 61-66")
  | _ => none

/-- What follows a backslash stands for. -/
inductive Escape where
  | char (c : Char)
  | set (s : CharSet)
  | place (p : Place)

def codePoint? (digits : List Char) : Option Char := do
  if digits.isEmpty || !digits.all fun c => (hexValue? c).isSome then none
  let n := hexOf digits
  if h : n.isValidChar then some (Char.ofNatAux n h) else none

/-- A code point of so many hexadecimal digits, or of any number of them in braces. -/
def hexEscape? (width : Nat) (cs : List Char) : Option (Char × List Char) :=
  match cs with
  | '\x7b' :: rest => do
    let (digits, rest) ← cutAt (· == '\x7d') rest
    some (← codePoint? digits, rest)
  | _ =>
    if cs.length < width then none
    else do some (← codePoint? (cs.take width), cs.drop width)

/-- A set as it counts under the flags. -/
def folded (f : Flags) (s : CharSet) : CharSet :=
  if f.ignoreCase then
    if f.unicode then s.foldClosure
    else .ofRanges (s.foldClosure.filter fun (a, b) => a < 0x80 && b < 0x80)
  else s

/-- A property behind `p`: one letter, or a name in braces. Case is ignored before the set is turned
into its complement. -/
def property? (f : Flags) (cs : List Char) : Option (CharSet × List Char) :=
  match cs with
  | '\x7b' :: rest => do
    let (name, rest) ← cutAt (· == '\x7d') rest
    let (negated, name) := match name with
      | '^' :: name => (true, name)
      | name => (false, name)
    let valued (p v : List Char) := (Property.valued? (.ofList p) (.ofList v)).map (folded f)
    let set ← match cutAround ['!', '='] name, cutAt (fun c => c == ':' || c == '=') name with
      | some (p, v), _ => (valued p v).map CharSet.complement
      | none, some (p, v) => valued p v
      | none, none => (Property.named? (.ofList name)).map (folded f)
    some (if negated then set.complement else set, rest)
  | c :: rest => do some (folded f (← Property.named? (.ofList [c])), rest)
  | [] => none

/-- A word boundary behind `b`, with its kind in braces if it has one. -/
def boundary? (unicode : Bool) (cs : List Char) : Option (Escape × List Char) :=
  let isKind (c : Char) : Bool := c.isAlpha || c == '-'
  match cs with
  | '\x7b' :: c :: rest =>
    if isKind c then do
      let (kind, rest) ← cutAt (· == '\x7d') (c :: rest)
      let place ← match String.ofList kind with
        | "start" => some (Place.wordStart unicode)
        | "end" => some (.wordEnd unicode)
        | "start-half" => some (.wordStartHalf unicode)
        | "end-half" => some (.wordEndHalf unicode)
        | _ => none
      some (.place place, rest)
    else some (.place (.word unicode), cs)
  | _ => some (.place (.word unicode), cs)

/-- Reads what follows a backslash. -/
def escape? (f : Flags) (cs : List Char) : Option (Escape × List Char) :=
  match cs with
  | [] => none
  | c :: rest =>
    match c with
    | 'x' => do
      let (c, r) ← hexEscape? 2 rest
      -- two digits are a byte, and a byte beyond ASCII is no character
      if !f.unicode && 0x80 ≤ c.toNat && rest.head? != some '\x7b' then none
      else some (.char c, r)
    | 'u' => (hexEscape? 4 rest).map fun (c, r) => (.char c, r)
    | 'U' => (hexEscape? 8 rest).map fun (c, r) => (.char c, r)
    | 'p' => if !f.unicode then none else (property? f rest).map fun (s, r) => (.set s, r)
    | 'P' =>
      if !f.unicode then none else (property? f rest).map fun (s, r) => (.set s.complement, r)
    | 'd' | 's' | 'w' => (perlClass? f.unicode c).map fun s => (.set s, rest)
    | 'D' | 'S' | 'W' =>
      if !f.unicode then none
      else (perlClass? true c.toLower).map fun s => (.set s.complement, rest)
    | 'n' => some (.char '\n', rest)
    | 't' => some (.char '\t', rest)
    | 'r' => some (.char '\r', rest)
    | 'a' => some (.char '\x07', rest)
    | 'f' => some (.char '\x0c', rest)
    | 'v' => some (.char '\x0b', rest)
    | 'A' => some (.place .textStart, rest)
    | 'z' => some (.place .textEnd, rest)
    | 'b' => boundary? f.unicode rest
    | 'B' => some (.place (.notWord f.unicode), rest)
    | '<' => some (.place (.wordStart f.unicode), rest)
    | '>' => some (.place (.wordEnd f.unicode), rest)
    | c =>
      if c.isAlphanum || 0x80 ≤ c.toNat then none
      else some (.char c, rest)

/-- Blanks and comments of verbose patterns. -/
def skipVerbose (f : Flags) : Nat → List Char → List Char
  | 0, cs => cs
  | n + 1, cs =>
    if !f.verbose then cs
    else match cs with
      | c :: rest =>
        if isBlank c then skipVerbose f n rest
        else if c == '#' then skipVerbose f n ((rest.dropWhile (· != '\n')).drop 1)
        else cs
      | [] => []

def skip (f : Flags) (cs : List Char) : List Char := skipVerbose f cs.length cs

/-- One item of a bracketed set: a character or a set. -/
def classItem? (f : Flags) (cs : List Char) : Option (Escape × List Char) :=
  match cs with
  | '\\' :: rest => do
    match ← escape? f rest with
    | (.place _, _) => none
    | (.char c, rest) => if !f.unicode && 0x80 ≤ c.toNat then none else some (.char c, rest)
    | item => some item
  | c :: rest => if !f.unicode && 0x80 ≤ c.toNat then none else some (.char c, rest)
  | [] => none

/-- An item or a range of characters. -/
def classRange? (f : Flags) (cs : List Char) : Option (CharSet × List Char) := do
  let (item, rest) ← classItem? f cs
  let rest := skip f rest
  let alone : CharSet := match item with
    | .char c => .single c
    | .set s => s
    | .place _ => []
  match rest with
  | '-' :: more =>
    match skip f more with
    | ']' :: _ | '-' :: _ => some (alone, rest)
    | more => do
      let (upper, after) ← classItem? f more
      match item, upper with
      | .char a, .char b => if a ≤ b then some ([(a.toNat, b.toNat)], after) else none
      | _, _ => none
  | _ => some (alone, rest)

/-- A named set inside brackets, such as `[:alpha:]`, behind its first bracket. -/
def posix? (cs : List Char) : Option (CharSet × List Char) :=
  match cs with
  | ':' :: rest => do
    let (name, rest) ← cutAround [':', ']'] rest
    let (negated, name) := match name with
      | '^' :: name => (true, name)
      | name => (false, name)
    let s ← posixClass? (.ofList name)
    some (if negated then s.complement else s, rest)
  | _ => none

inductive SetOp where
  | inter
  | diff
  | symmDiff

def SetOp.apply (f : Flags) (op : SetOp) (s t : CharSet) : CharSet :=
  let s := folded f s
  let t := folded f t
  match op with
  | inter => s.inter t
  | diff => s.diff t
  | symmDiff => s.symmDiff t

/-- The set so far, with the operation that waits for its right side. -/
structure ClassState where
  left : Option (CharSet × SetOp) := none
  items : List (Nat × Nat) := []

def ClassState.value (f : Flags) (st : ClassState) : CharSet :=
  match st.left with
  | none => .ofRanges st.items
  | some (s, op) => op.apply f s (.ofRanges st.items)

mutual

/-- Reads a bracketed set behind its opening bracket. -/
def class? (f : Flags) : Nat → List Char → Option (CharSet × List Char)
  | 0, _ => none
  | n + 1, cs => do
    let (negated, cs) := match cs with
      | '^' :: rest => (true, rest)
      | cs => (false, cs)
    if negated && !f.unicode then none
    let cs := skip f cs
    let hyphens := cs.takeWhile (· == '-')
    let cs := skip f (cs.dropWhile (· == '-'))
    let start : List (Nat × Nat) := if hyphens.isEmpty then [] else CharSet.single '-'
    let (start, cs) := match cs with
      | ']' :: rest => if hyphens.isEmpty then (CharSet.single ']', rest) else (start, cs)
      | cs => (start, cs)
    let (s, rest) ← classItems? f n { items := start } cs
    let s := folded f s
    some (if negated then s.complement else s, rest)

/-- Reads the items of a bracketed set up to its closing bracket. -/
def classItems? (f : Flags) : Nat → ClassState → List Char → Option (CharSet × List Char)
  | 0, _, _ => none
  | n + 1, st, cs =>
    let operation (op : SetOp) (rest : List Char) :=
      classItems? f n { left := some (st.value f, op) } rest
    let add (s : CharSet) (rest : List Char) :=
      classItems? f n { st with items := st.items ++ s } rest
    match skip f cs with
    | [] => none
    | ']' :: rest => some (st.value f, rest)
    | '&' :: '&' :: rest => operation .inter rest
    | '-' :: '-' :: rest => operation .diff rest
    | '~' :: '~' :: rest => operation .symmDiff rest
    | '[' :: rest =>
      match posix? rest with
      | some (s, rest) => if f.unicode || s.all (·.2 < 0x80) then add s rest else none
      | none =>
        match class? f n rest with
        | some (s, rest) => add s rest
        | none => none
    | cs =>
      match classRange? f cs with
      | some (s, rest) => add s rest
      | none => none

end

/-- Sets the flags named between `?` and `:` or `)`. -/
def flags? (f : Flags) (seen : List Char) (on fresh : Bool) : List Char → Option ((Flags × Bool) × List Char)
  | [] => none
  | c :: cs =>
    if c == ')' || c == ':' then
      if (!on && fresh) || (c == ')' && seen.isEmpty) then none else some ((f, c == ':'), cs)
    else if c == '-' then
      if on then flags? f seen false true cs else none
    else if seen.contains c then none
    else
      let go (g : Flags) := flags? g (c :: seen) on false cs
      match c with
      | 'i' => go { f with ignoreCase := on }
      | 'm' => go { f with multiLine := on }
      | 's' => go { f with dotAll := on }
      | 'U' => go { f with swapGreed := on }
      | 'u' => go { f with unicode := on }
      | 'x' => go { f with verbose := on }
      | 'R' => go { f with crlf := on }
      | _ => none

def isNameStart (c : Char) : Bool := c == '_' || Property.alphabetic.mem c

def isNameChar (c : Char) : Bool :=
  isNameStart c || c == '.' || c == '[' || c == ']' || Property.digits.mem c ||
    (Property.category "nl").mem c || (Property.category "no").mem c

/-- The name of a group up to its closing bracket. -/
def groupName? (cs : List Char) : Option (String × List Char) := do
  let (name, rest) ← cutAt (· == '>') cs
  match name with
  | [] => none
  | c :: more =>
    if isNameStart c && more.all isNameChar then some (.ofList name, rest) else none

/-- A decimal number with blanks around it, below 2 to the 32nd. -/
def count? (cs : List Char) : Option (Nat × List Char) :=
  let (digits, rest) := (cs.dropWhile isBlank).span Char.isDigit
  if digits.isEmpty then none
  else
    let n := digits.foldl (fun n c => 10 * n + (c.toNat - '0'.toNat)) 0
    if n < Nat.pow 2 32 then some (n, rest.dropWhile isBlank) else none

/-- Bounds in braces, behind the opening one. -/
def bounds? (f : Flags) (cs : List Char) : Option ((Nat × Option Nat) × List Char) := do
  let (least, rest) ← count? (skip f cs)
  match rest with
  | '\x7d' :: rest => some ((least, some least), rest)
  | ',' :: rest =>
    match skip f rest with
    | '\x7d' :: rest => some ((least, none), rest)
    | rest => do
      let (most, rest) ← count? rest
      match rest with
      | '\x7d' :: rest => if least ≤ most then some ((least, some most), rest) else none
      | _ => none
  | _ => none

/-- The part of a group that has been read: the flags, the names of groups, the finished branches
and the current one, its last item first. An item that is a change of flags is no expression. -/
structure GroupState where
  flags : Flags
  names : List String
  branches : List Regex := []
  items : List (Option Regex) := []

def sequence (items : List (Option Regex)) : Regex :=
  items.foldl (fun r x => match x with
    | none => r
    | some s => match r with
      | .empty => s
      | r => .both s r) .empty

def GroupState.push (st : GroupState) (r : Regex) : GroupState :=
  { st with items := some r :: st.items }

/-- The last item repeated. -/
def GroupState.repeatLast? (st : GroupState) (least : Nat) (most : Option Nat) (lazy : Bool) :
    Option GroupState :=
  match st.items with
  | some r :: rest =>
    some { st with items := some (.repeated least most (lazy == st.flags.swapGreed) r) :: rest }
  | _ => none

def GroupState.value (st : GroupState) : Regex :=
  st.branches.foldl (fun r s => .either s r) (sequence st.items)

/-- A character as a set under the flags. -/
def charSet (f : Flags) (c : Char) : CharSet :=
  if f.ignoreCase && (f.unicode || c.toNat < 0x80) then folded f (.single c) else .single c

def dot? (f : Flags) : Option CharSet :=
  if !f.unicode then none
  else if f.dotAll then some Property.any
  else if f.crlf then some (CharSet.complement (.ofText "A D"))
  else some (CharSet.complement (.ofText "A"))

def lineStart (f : Flags) : Place :=
  if !f.multiLine then .textStart else if f.crlf then .crlfLineStart else .lineStart

def lineEnd (f : Flags) : Place :=
  if !f.multiLine then .textEnd else if f.crlf then .crlfLineEnd else .lineEnd

/-- A question mark that makes a repetition lazy. -/
def lazyMark (cs : List Char) : Bool × List Char :=
  match cs with
  | '?' :: rest => (true, rest)
  | cs => (false, cs)

/-- Reads a group up to its closing bracket or the end of the text. -/
def group? : Nat → GroupState → List Char → Option ((Regex × List String) × List Char)
  | 0, _, _ => none
  | n + 1, st, cs =>
    let f := st.flags
    let again (least : Nat) (most : Option Nat) (rest : List Char) := do
      let (lazy, rest) := lazyMark rest
      group? n (← st.repeatLast? least most lazy) rest
    let inner (g : GroupState) (rest : List Char) := do
      let ((r, names), rest) ← group? n g rest
      match rest with
      | ')' :: rest => group? n { st.push r with names := names } rest
      | _ => none
    let named (rest : List Char) := do
      let (name, rest) ← groupName? rest
      if st.names.contains name then none
      inner { flags := f, names := name :: st.names } rest
    match skip f cs with
    | [] => some ((st.value, st.names), [])
    | ')' :: rest => some ((st.value, st.names), ')' :: rest)
    | '|' :: rest =>
      group? n { st with branches := sequence st.items :: st.branches, items := [] } rest
    | '*' :: rest => again 0 none rest
    | '+' :: rest => again 1 none rest
    | '?' :: rest => again 0 (some 1) rest
    | '\x7b' :: rest => do
      let ((least, most), rest) ← bounds? f rest
      again least most (skip f rest)
    | '[' :: rest => do
      let (s, rest) ← class? f (rest.length + 1) rest
      group? n (st.push (.set s)) rest
    | '.' :: rest => do group? n (st.push (.set (← dot? f))) rest
    | '^' :: rest => group? n (st.push (.place (lineStart f))) rest
    | '$' :: rest => group? n (st.push (.place (lineEnd f))) rest
    | '\\' :: rest => do
      match ← escape? f rest with
      | (.char c, rest) => group? n (st.push (.set (charSet f c))) rest
      | (.set s, rest) => group? n (st.push (.set (folded f s))) rest
      | (.place p, rest) => group? n (st.push (.place p)) rest
    | '(' :: '?' :: 'P' :: '<' :: rest => named rest
    | '(' :: '?' :: '<' :: '=' :: _ => none
    | '(' :: '?' :: '<' :: '!' :: _ => none
    | '(' :: '?' :: '<' :: rest => named rest
    | '(' :: '?' :: rest => do
      let ((g, opensGroup), rest) ← flags? f [] true true rest
      if opensGroup then inner { flags := g, names := st.names } rest
      else group? n { st with flags := g, items := none :: st.items } rest
    | '(' :: rest => inner { flags := f, names := st.names } rest
    | c :: rest => group? n (st.push (.set (charSet f c))) rest

/-- The expression that a text writes. -/
def Regex.ofText? (s : String) : Option Regex := do
  let cs := s.toList
  let ((r, _), rest) ← group? (2 * cs.length + 2) { flags := {}, names := [] } cs
  if rest.isEmpty then some r else none

end VisualTemplate.Pattern
