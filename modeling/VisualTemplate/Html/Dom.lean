import VisualTemplate.Html.Name
import VisualTemplate.Text.Blank
/-!
Documents of markup as trees.

Elements are numbered in the order in which they were made. It is the order of the text except
where broken markup is mended.
-/

namespace VisualTemplate.Html

structure Element where
  serial : Nat
  name : Name
  attributes : List Attribute
  /-- The id and the classes that the element was made with. -/
  id : Option String
  classes : List String
  deriving DecidableEq, Repr

inductive Dom where
  | element (e : Element) (children : List Dom)
  | text (s : String)
  /-- A comment or a document type. -/
  | other
  /-- What a template holds; it stands below the template's element. -/
  | contents (children : List Dom)

structure Document where
  children : List Dom
  /-- Elements that were taken out of the document again, with what is below them. -/
  detached : List Dom := []

namespace Element

def tag (e : Element) : String := e.name.tag

/-- The element of a tag with given attributes. -/
def make (serial : Nat) (name : Name) (as : List Attribute) : Element where
  serial
  name
  attributes := as
  id := (as.find? (·.name == "id")).map (·.value)
  classes := match as.find? (·.name == "class") with
    | some a => (Text.words a.value.toList).map .ofList
    | none => []

/-- The value of a plain attribute. -/
def plain? (e : Element) (name : String) : Option String :=
  (e.attributes.find? fun a => a.space == .plain && a.name == name).map (·.value)

/-- The value of an attribute of any vocabulary, the case of its name apart. -/
def any? (e : Element) (name : String) : Option String :=
  (e.attributes.find? fun a => a.name.sameIgnoringCase name).map (·.value)

/-- The element with attributes that it did not have before. -/
def withMissing (e : Element) (as : List Attribute) : Element :=
  let missing := as.filter fun a =>
    !e.attributes.any fun b => b.space == a.space && b.name == a.name
  { e with attributes := e.attributes ++ missing }

end Element

namespace Dom

def children : Dom → List Dom
  | element _ cs => cs
  | contents cs => cs
  | _ => []

mutual

/-- The texts of a node and of all below it, in order. -/
def texts : Dom → List String
  | element _ cs => textsIn cs
  | text s => [s]
  | other => []
  | contents cs => textsIn cs

def textsIn : List Dom → List String
  | [] => []
  | d :: ds => d.texts ++ textsIn ds

end

end Dom

end VisualTemplate.Html
