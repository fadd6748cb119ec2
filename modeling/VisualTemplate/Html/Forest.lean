import VisualTemplate.Html.Dom
/-!
Trees under construction.

While a text is read its nodes are made, moved and taken out again. Each has a number; the first
is the document.
-/

namespace VisualTemplate.Html

inductive Content where
  | document
  | element (e : Element)
  | text (s : String)
  | other
  /-- What a template holds. -/
  | contents

/-- A node with its place. -/
structure Site where
  content : Content
  parent : Option Nat := none
  children : List Nat := []

structure Forest where
  sites : Array Site := #[⟨.document, none, []⟩]

namespace Forest

def site? (f : Forest) (n : Nat) : Option Site := f.sites[n]?

def parent? (f : Forest) (n : Nat) : Option Nat := (f.site? n).bind (·.parent)

def childrenOf (f : Forest) (n : Nat) : List Nat :=
  match f.site? n with
  | some s => s.children
  | none => []

def modify (f : Forest) (n : Nat) (g : Site → Site) : Forest := ⟨f.sites.modify n g⟩

/-- A new node without a place. -/
def make (f : Forest) (c : Content) : Nat × Forest := (f.sites.size, ⟨f.sites.push ⟨c, none, []⟩⟩)

/-- Puts a node without a place below another, behind its children. -/
def append (f : Forest) (parent child : Nat) : Forest :=
  (f.modify parent fun s => { s with children := s.children ++ [child] }).modify child
    fun s => { s with parent := some parent }

/-- A new element. A template holds its contents from the start. -/
def makeElement (f : Forest) (name : Name) (as : List Attribute) : Nat × Forest :=
  let (n, f) := f.make (.element (.make f.sites.size name as))
  if name.is "template" then
    let (c, f) := f.make .contents
    (n, f.append n c)
  else (n, f)

/-- Takes a node from its place. -/
def detach (f : Forest) (n : Nat) : Forest :=
  match f.parent? n with
  | none => f
  | some p =>
    (f.modify p fun s => { s with children := s.children.filter (· != n) }).modify n
      fun s => { s with parent := none }

/-- Puts a node without a place in front of another that has one. -/
def insertBefore (f : Forest) (sibling child : Nat) : Forest :=
  match f.parent? sibling with
  | none => f
  | some p =>
    (f.modify p fun s =>
      { s with children := s.children.flatMap fun c =>
          if c = sibling then [child, c] else [c] }).modify child
      fun s => { s with parent := some p }

def isText (f : Forest) (n : Nat) : Bool :=
  match f.site? n with
  | some ⟨.text _, _, _⟩ => true
  | _ => false

def extendText (f : Forest) (n : Nat) (text : String) : Forest :=
  f.modify n fun s =>
    match s.content with
    | .text t => { s with content := .text (t ++ text) }
    | _ => s

/-- Adds text below a node, to its last child if that is a text. -/
def appendText (f : Forest) (parent : Nat) (text : String) : Forest :=
  match (f.childrenOf parent).getLast? with
  | some last =>
    if f.isText last then f.extendText last text
    else
      let (n, f) := f.make (.text text)
      f.append parent n
  | none =>
    let (n, f) := f.make (.text text)
    f.append parent n

/-- The child in front of another. -/
def previous? (sibling : Nat) : List Nat → Option Nat
  | a :: b :: rest => if b = sibling then some a else previous? sibling (b :: rest)
  | _ => none

/-- Adds text in front of a node, to the text there if there is one. -/
def insertTextBefore (f : Forest) (sibling : Nat) (text : String) : Forest :=
  match f.parent? sibling with
  | none => f
  | some p =>
    let fresh (f : Forest) : Forest :=
      let (n, f) := f.make (.text text)
      f.insertBefore sibling n
    match previous? sibling (f.childrenOf p) with
    | some q => if f.isText q then f.extendText q text else fresh f
    | none => fresh f

/-- Moves the children of a node behind those of another. -/
def moveChildren (f : Forest) (source target : Nat) : Forest :=
  let cs := f.childrenOf source
  let f := f.modify source fun s => { s with children := [] }
  let f := f.modify target fun s => { s with children := s.children ++ cs }
  cs.foldl (fun f c => f.modify c fun s => { s with parent := some target }) f

def addMissing (f : Forest) (n : Nat) (as : List Attribute) : Forest :=
  f.modify n fun s =>
    match s.content with
    | .element e => { s with content := .element (e.withMissing as) }
    | _ => s

/-- The contents of a template's element, or the node itself. -/
def contentsOf (f : Forest) (n : Nat) : Nat := ((f.childrenOf n).head?).getD n

/-- The tree below a node, so many levels deep at most. -/
def tree (f : Forest) : Nat → Nat → Dom
  | 0, _ => .other
  | depth + 1, n =>
    match f.site? n with
    | none => .other
    | some s =>
      match s.content with
      | .element e => .element e (s.children.map (tree f depth))
      | .text t => .text t
      | .other => .other
      | .document | .contents => .contents (s.children.map (tree f depth))

/-- The finished document. No node is deeper than there are nodes. -/
def document (f : Forest) : Document :=
  let tree := f.tree (f.sites.size + 1)
  let lone := (List.range f.sites.size).filter fun n =>
    n != 0 && (f.parent? n).isNone && !(f.childrenOf n).isEmpty
  ⟨(tree 0).children, lone.map tree⟩

end Forest

end VisualTemplate.Html
