import VisualTemplate.Html.Dom
/-!
Elements with where they stand in their document.
-/

namespace VisualTemplate.Html

/-- An element with its children. -/
structure Sibling where
  element : Element
  children : List Dom

/-- An element, its element siblings before it (the nearest first) and behind it, all elements
around it (the nearest first), and its parent if that is an element. -/
inductive Place where
  | mk (element : Element) (children : List Dom) (before after : List Sibling)
      (around : List Element) (parent : Option Place)

def siblings (ds : List Dom) : List Sibling :=
  ds.filterMap fun d =>
    match d with
    | .element e cs => some ⟨e, cs⟩
    | _ => none

namespace Place

def element : Place → Element
  | mk e _ _ _ _ _ => e

def children : Place → List Dom
  | mk _ cs _ _ _ _ => cs

def before : Place → List Sibling
  | mk _ _ bs _ _ _ => bs

def after : Place → List Sibling
  | mk _ _ _ as _ _ => as

def around : Place → List Element
  | mk _ _ _ _ es _ => es

def parent : Place → Option Place
  | mk _ _ _ _ _ p => p

def tag (p : Place) : String := p.element.tag

/-- The outermost element of a document. -/
def isRoot (p : Place) : Bool := p.around.isEmpty

/-- The elements that an element stands in, the nearest first, up to what is no element. -/
def ancestors : Place → List Place
  | mk _ _ _ _ _ none => []
  | mk _ _ _ _ _ (some p) => p :: p.ancestors

/-- The places of siblings, the nearest first, with what stands behind the first of them. -/
def earlierFrom (around : List Element) (parent : Option Place) :
    List Sibling → List Sibling → List Place
  | [], _ => []
  | s :: before, after =>
    .mk s.element s.children before after around parent
      :: earlierFrom around parent before (s :: after)

/-- The element siblings before an element, the nearest first. -/
def earlier (p : Place) : List Place :=
  earlierFrom p.around p.parent p.before (⟨p.element, p.children⟩ :: p.after)

end Place

mutual

/-- The places of a node's elements, each before those below it. -/
def Dom.places (parent : Option Place) (around : List Element) (before after : List Sibling) :
    Dom → List Place
  | .element e cs =>
    let p := Place.mk e cs before after around parent
    p :: placesIn (some p) (e :: around) [] cs
  | .contents cs => placesIn none around [] cs
  | .text _ => []
  | .other => []

def placesIn (parent : Option Place) (around : List Element) (before : List Sibling) :
    List Dom → List Place
  | [] => []
  | d :: ds =>
    d.places parent around before (siblings ds)
      ++ placesIn parent around (siblings [d] ++ before) ds

end

/-- An element and the elements below it. -/
def Place.descendants (p : Place) : List Place :=
  p :: placesIn (some p) (p.element :: p.around) [] p.children

namespace Document

/-- The places of the elements of a document. -/
def places (d : Document) : List Place :=
  placesIn none [] [] d.children ++ d.detached.flatMap fun t =>
    match t with
    | .element e cs => placesIn (some (.mk e cs [] [] [] none)) [e] [] cs
    | _ => []

/-- The places in the order in which the elements were made. -/
def inOrder (d : Document) : List Place :=
  d.places.mergeSort fun p q => p.element.serial ≤ q.element.serial

end Document

end VisualTemplate.Html
