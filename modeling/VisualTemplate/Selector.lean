import VisualTemplate.Html.Place
import VisualTemplate.Selector.Syntax
/-!
Which elements of a document a selector chooses.
-/

namespace VisualTemplate.Selector

open Html

/-- Attributes of the page's own elements in which the case of letters does not count. -/
def caselessAttributes : List String :=
  ["accept", "accept-charset", "align", "alink", "axis", "bgcolor", "charset", "checked", "clear",
    "codetype", "color", "compact", "declare", "defer", "dir", "direction", "disabled", "enctype",
    "face", "frame", "hreflang", "http-equiv", "lang", "language", "link", "media", "method",
    "multiple", "nohref", "noresize", "noshade", "nowrap", "readonly", "rel", "rev", "rules",
    "scope", "scrolling", "selected", "shape", "target", "text", "type", "valign", "valuetype",
    "vlink"]

def isOwn (e : Element) : Bool := e.name.space == .html

/-- A name as the vocabulary of an element spells it. -/
def spelledFor (e : Element) (name : String) : String := if isOwn e then name.lowerAscii else name

/-- The comparison of a value with a given one. No value holds the empty text. -/
def Comparison.accepts (given value : String) : Comparison → Bool
  | equal => value == given
  | dashed => value == given || (value.after? (given ++ "-")).isSome
  | word =>
    !given.isEmpty && (value.toList.splitOnP Text.isMarkupBlank).contains given.toList
  | start => !given.isEmpty && (value.after? given).isSome
  | finish => !given.isEmpty && (value.before? given).isSome
  | part => !given.isEmpty && value.hasPiece given

/-- The case of letters does not count in a test on an element. -/
def AttributeTest.isCaseless (t : AttributeTest) (v : ValueTest) (e : Element) : Bool :=
  match v.letterCase with
  | .counts => false
  | .ignored => true
  | .byName => isOwn e && !t.anySpace && caselessAttributes.contains t.name.lowerAscii

def AttributeTest.accepts (t : AttributeTest) (e : Element) (value : String) : Bool :=
  match t.value with
  | none => true
  | some v =>
    if t.isCaseless v e then v.comparison.accepts v.value.lowerAscii value.lowerAscii
    else v.comparison.accepts v.value value

def AttributeTest.holds (t : AttributeTest) (e : Element) : Bool :=
  e.attributes.any fun a =>
    (t.anySpace || a.space == .plain) && a.name == spelledFor e t.name && t.accepts e a.value

/-- Siblings on one side, all of them or those with the tag of the element. -/
def countOf (ofTag : Bool) (e : Element) (side : List Sibling) : Nat :=
  side.countP fun s => !ofTag || s.element.name == e.name

def Condition.holds (p : Place) : Condition → Bool
  | anything => true
  | nothing => false
  | tag n => p.element.tag == spelledFor p.element n
  | id n => p.element.id == some n
  | hasClass n => p.element.classes.contains n
  | attributes t => t.holds p.element
  | root => p.isRoot
  | empty => p.children.all fun d =>
    match d with
    | .element _ _ | .text _ => false
    | _ => true
  | position ofTag fromEnd s =>
    s.has (countOf ofTag p.element (if fromEnd then p.after else p.before) + 1)
  | only ofTag => countOf ofTag p.element p.before == 0 && countOf ofTag p.element p.after == 0

def Simple.holds (p : Place) : Simple → Bool
  | is c => c.holds p
  | isNot c => !c.holds p

def Compound.holds (c : Compound) (p : Place) : Bool := c.all (Simple.holds p)

/-- The elements that a combinator ties an element to. -/
def Combinator.tied (p : Place) : Combinator → List Place
  | ancestor => p.ancestors
  | parent => p.parent.toList
  | previous => p.earlier.take 1
  | earlier => p.earlier

/-- Every compound holds of some element, each of them tied to the one before. -/
def tiesHold : List (Combinator × Compound) → Place → Bool
  | [], _ => true
  | (k, c) :: ties, p => (k.tied p).any fun q => c.holds q && tiesHold ties q

def Chain.chooses (c : Chain) (p : Place) : Bool := c.subject.holds p && tiesHold c.ties p

def chooses (s : Selector) (p : Place) : Bool := s.chains.any (·.chooses p)

end VisualTemplate.Selector
