import VisualTemplate.Selector.Steps
/-!
Selectors and how they are written.

A selector that cannot be read, or that uses what a still document does not have (states of an
element, parts of its rendering), is refused as a whole.
-/

namespace VisualTemplate

namespace Selector

/-- How the value of an attribute is compared with a given one. -/
inductive Comparison where
  | equal
  /-- One of the words of the value. -/
  | word
  /-- The value, or its beginning up to a dash. -/
  | dashed
  | start
  | finish
  | part
  deriving DecidableEq, Repr

/-- Whether the case of letters counts. -/
inductive LetterCase where
  | counts
  | ignored
  /-- It counts except for certain attributes of the page's own elements. -/
  | byName
  deriving DecidableEq, Repr

structure ValueTest where
  comparison : Comparison
  value : String
  letterCase : LetterCase
  deriving DecidableEq, Repr

structure AttributeTest where
  /-- Attributes of all vocabularies count, not only plain ones. -/
  anySpace : Bool
  name : String
  value : Option ValueTest
  deriving DecidableEq, Repr

/-- What one element can be asked. -/
inductive Condition where
  | anything
  /-- A name without a vocabulary. No element has one. -/
  | nothing
  | tag (name : String)
  | id (name : String)
  | hasClass (name : String)
  | attributes (test : AttributeTest)
  | root
  /-- Without elements and texts. -/
  | empty
  /-- The position among its siblings, or among those of its tag, from either end. -/
  | position (ofTag fromEnd : Bool) (steps : Steps)
  | only (ofTag : Bool)
  deriving DecidableEq, Repr

inductive Simple where
  | is (c : Condition)
  | isNot (c : Condition)
  deriving DecidableEq, Repr

/-- Conditions on one element. -/
abbrev Compound := List Simple

/-- Where an element stands that another one is tied to. -/
inductive Combinator where
  | ancestor
  | parent
  | previous
  | earlier
  deriving DecidableEq, Repr

/-- Conditions on an element and on elements that it is tied to, each of them to the next. -/
structure Chain where
  subject : Compound
  ties : List (Combinator × Compound) := []
  deriving DecidableEq, Repr

end Selector

/-- A selector chooses what one of its chains chooses. -/
structure Selector where
  chains : List Selector.Chain
  deriving DecidableEq, Repr

namespace Selector

/-- What follows a closing bracket. The end of the text closes every bracket. -/
def closed? (bracket : Char) (ts : List Token) : Option (List Token) :=
  match skipBlanks ts with
  | [] => some []
  | .mark c :: ts => if c = bracket then some ts else none
  | _ => none

/-- The condition on the tag at the start, if there is one. No prefix is declared. -/
def tag? : List Token → Option (Option Condition × List Token)
  | .ident _ :: .mark '|' :: _ => none
  | .ident n :: ts => some (some (.tag n), ts)
  | .mark '*' :: .mark '|' :: .ident n :: ts => some (some (.tag n), ts)
  | .mark '*' :: .mark '|' :: .mark '*' :: ts => some (some .anything, ts)
  | .mark '*' :: .mark '|' :: _ => none
  | .mark '*' :: ts => some (some .anything, ts)
  | .mark '|' :: .ident _ :: ts => some (some .nothing, ts)
  | .mark '|' :: .mark '*' :: ts => some (some .nothing, ts)
  | .mark '|' :: _ => none
  | ts => some (none, ts)

def comparison? : Token → Option Comparison
  | .mark '=' => some .equal
  | .comparison '~' => some .word
  | .comparison '|' => some .dashed
  | .comparison '^' => some .start
  | .comparison '$' => some .finish
  | .comparison '*' => some .part
  | _ => none

def letterCase? (ts : List Token) : Option (LetterCase × List Token) :=
  match skipBlanks ts with
  | .ident n :: ts =>
    match n.lowerAscii with
    | "i" => some (.ignored, ts)
    | "s" => some (.counts, ts)
    | _ => none
  | ts => some (.byName, ts)

def attributeName? : List Token → Option (Bool × String × List Token)
  | .ident _ :: .mark '|' :: _ => none
  | .ident n :: ts => some (false, n, ts)
  | .mark '|' :: .ident n :: ts => some (false, n, ts)
  | .mark '*' :: .mark '|' :: .ident n :: ts => some (true, n, ts)
  | _ => none

def value? (ts : List Token) : Option (String × List Token) :=
  match skipBlanks ts with
  | .ident v :: ts | .string v :: ts => some (v, ts)
  | _ => none

/-- What stands behind the name of an attribute, up to the bracket. -/
def valueTest? (ts : List Token) : Option (Option ValueTest × List Token) :=
  match closed? ']' ts, skipBlanks ts with
  | some ts, _ => some (none, ts)
  | none, t :: ts => do
    let comparison ← comparison? t
    let (value, ts) ← value? ts
    let (letterCase, ts) ← letterCase? ts
    let ts ← closed? ']' ts
    some (some ⟨comparison, value, letterCase⟩, ts)
  | none, [] => none

def attribute? (ts : List Token) : Option (AttributeTest × List Token) := do
  let (anySpace, name, ts) ← attributeName? (skipBlanks ts)
  let (value, ts) ← valueTest? ts
  some (⟨anySpace, name, value⟩, ts)

/-- A condition behind a colon. -/
def word? (name : String) : Option Condition :=
  match name.lowerAscii with
  | "root" | "scope" => some .root
  | "empty" => some .empty
  | "first-child" => some (.position false false ⟨0, 1⟩)
  | "last-child" => some (.position false true ⟨0, 1⟩)
  | "only-child" => some (.only false)
  | "first-of-type" => some (.position true false ⟨0, 1⟩)
  | "last-of-type" => some (.position true true ⟨0, 1⟩)
  | "only-of-type" => some (.only true)
  | _ => none

/-- A condition behind a colon that has steps in brackets. -/
def counted? (name : String) : Option (Steps → Condition) :=
  match name.lowerAscii with
  | "nth-child" => some (.position false false)
  | "nth-last-child" => some (.position false true)
  | "nth-of-type" => some (.position true false)
  | "nth-last-of-type" => some (.position true true)
  | _ => none

/-- The condition at the start, other than on the tag. -/
def condition? : List Token → Option (Condition × List Token)
  | .id n :: ts => some (.id n, ts)
  | .mark '.' :: .ident n :: ts => some (.hasClass n, ts)
  | .mark '[' :: ts => (attribute? ts).map fun (t, ts) => (.attributes t, ts)
  | .mark ':' :: .ident n :: ts => (word? n).map fun c => (c, ts)
  | .mark ':' :: .function n :: ts => do
    let condition ← counted? n
    let (steps, ts) ← Steps.ofTokens? ts
    let ts ← closed? ')' ts
    some (condition steps, ts)
  | _ => none

/-- The one condition in the brackets of `:not(`. -/
def negated? (ts : List Token) : Option (Simple × List Token) := do
  let (tag, ts) ← tag? (skipBlanks ts)
  let (c, ts) ← match tag with
    | some c => some (c, ts)
    | none => condition? ts
  let ts ← closed? ')' ts
  some (.isNot c, ts)

def simple? : List Token → Option (Simple × List Token)
  | .mark ':' :: .function n :: ts =>
    if n.sameIgnoringCase "not" then negated? ts
    else (condition? (.mark ':' :: .function n :: ts)).map fun (c, ts) => (.is c, ts)
  | ts => (condition? ts).map fun (c, ts) => (.is c, ts)

/-- A condition other than on the tag begins here. -/
def beginsSimple : List Token → Bool
  | .id _ :: _ => true
  | .mark c :: _ => c == '.' || c == '[' || c == ':'
  | _ => false

/-- The conditions at the start, so many at most. -/
def simplesWithin : Nat → List Token → Option (List Simple × List Token)
  | 0, ts => some ([], ts)
  | n + 1, ts =>
    if beginsSimple ts then do
      let (s, ts) ← simple? ts
      let (more, ts) ← simplesWithin n ts
      some (s :: more, ts)
    else some ([], ts)

/-- All conditions on one element; there must be one. -/
def compound? (ts : List Token) : Option (Compound × List Token) := do
  let (tag, ts) ← tag? (skipBlanks ts)
  let (simples, ts) ← simplesWithin ts.length ts
  let all := (tag.toList.map Simple.is) ++ simples
  if all.isEmpty then none else some (all, ts)

/-- The tie to the next compound, if there is one. -/
def combinator? (ts : List Token) : Option (Combinator × List Token) :=
  match skipBlanks ts with
  | [] | .mark ',' :: _ => none
  | .mark '>' :: ts => some (.parent, ts)
  | .mark '+' :: ts => some (.previous, ts)
  | .mark '~' :: ts => some (.earlier, ts)
  | _ => if ts.head? = some .blank then some (.ancestor, ts) else none

/-- A chain with so many ties at most to come. -/
def chainWithin : Nat → Chain → List Token → Option (Chain × List Token)
  | 0, chain, ts => some (chain, ts)
  | n + 1, chain, ts =>
    match combinator? ts with
    | none => some (chain, skipBlanks ts)
    | some (tie, ts) => do
      let (subject, ts) ← compound? ts
      chainWithin n ⟨subject, (tie, chain.subject) :: chain.ties⟩ ts

def chain? (ts : List Token) : Option (Chain × List Token) := do
  let (subject, ts) ← compound? ts
  chainWithin ts.length ⟨subject, []⟩ ts

/-- Chains with commas between them, so many at most. -/
def chainsWithin : Nat → List Token → Option (List Chain)
  | 0, _ => none
  | n + 1, ts => do
    let (chain, ts) ← chain? ts
    match ts with
    | [] => some [chain]
    | .mark ',' :: ts => (chainsWithin n ts).map (chain :: ·)
    | _ => none

def ofText? (text : String) : Option Selector :=
  let ts := tokens text
  (chainsWithin (ts.length + 1) ts).map mk

end Selector

end VisualTemplate
