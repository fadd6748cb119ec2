import VisualTemplate.Binding
import VisualTemplate.Length
/-!
Template nodes.

A node is a container with children, laid out as the canvas, a flex box or a plain box, or a leaf:
a text, an image, a clipped image or a static shape.
-/

namespace VisualTemplate

inductive Overflow where
  | visible
  | hidden
  deriving DecidableEq

inductive BoxSizing where
  | contentBox
  | borderBox
  deriving DecidableEq

inductive FlexDirection where
  | row
  | column
  deriving DecidableEq

inductive Justify where
  | start
  | center
  | finish
  | spaceBetween
  | spaceAround
  | spaceEvenly
  deriving DecidableEq

inductive Align where
  | start
  | center
  | finish
  | stretch
  | baseline
  deriving DecidableEq

inductive TextAlign where
  | left
  | center
  | right
  | justify
  deriving DecidableEq

inductive ObjectFit where
  | cover
  | contain
  | fill
  | none
  | scaleDown
  deriving DecidableEq

inductive ImageDisplay where
  | block
  | inline
  deriving DecidableEq

/-- The canvas of a layout schema. -/
structure Frame where
  width : UInt32
  height : UInt32
  padding : Insets := {}
  background : Option Paint := none
  deriving BEq

structure Flex where
  width : Length := .auto
  height : Length := .auto
  direction : FlexDirection := .row
  justify : Justify := .start
  align : Align := .stretch
  gap : Float32 := 0
  padding : Insets := {}
  background : Option Paint := none
  overflow : Overflow := .visible
  boxSizing : Option BoxSizing := none
  deriving BEq

structure Block where
  width : Length := .auto
  height : Length := .auto
  padding : Insets := {}
  background : Option Paint := none
  overflow : Overflow := .visible
  boxSizing : Option BoxSizing := none
  deriving BEq

/-- How a container arranges its children. -/
inductive Layout where
  | frame (f : Frame)
  | flex (f : Flex)
  | box (b : Block)
  deriving BEq

structure Typography where
  family : String := "sans-serif"
  size : Float32 := 16
  weight : UInt16 := 400
  lineHeight : Option Float32 := none
  deriving BEq

structure TextLeaf where
  width : Length := .auto
  height : Length := .auto
  content : String
  font : Typography := {}
  align : TextAlign := .left
  color : Paint := .black
  margin : Insets := {}
  binding : Option Binding := none
  deriving BEq

structure ImageLeaf where
  width : Length := .auto
  height : Length := .auto
  /-- The asset or address that is shown when no field supplies another. -/
  src : String
  fit : ObjectFit := .cover
  display : ImageDisplay := .block
  binding : Option Binding := none
  deriving BEq

/-- The outline that a clipped image shows through. -/
structure Mask where
  id : String
  path : String
  /-- Where the path is moved to inside the view box. -/
  offset : Option Position := none
  deriving BEq

/-- An image clipped to an outline. -/
structure SvgLeaf where
  width : Float32
  height : Float32
  viewBox : String
  mask : Option Mask := none
  image : Option String := none
  binding : Option Binding := none
  deriving BEq

inductive Outline where
  | rectangle (cornerRadius : Float32)
  | ellipse
  | vector (path : String) (viewBox : Option String)
  deriving BEq

structure Stroke where
  color : Paint
  width : Float32
  deriving BEq

structure ShapeLeaf where
  width : Float32
  height : Float32
  shape : Outline
  fill : Option Paint := none
  stroke : Option Stroke := none
  deriving BEq

inductive Leaf where
  | text (t : TextLeaf)
  | image (i : ImageLeaf)
  | svg (s : SvgLeaf)
  | shape (s : ShapeLeaf)
  deriving BEq

/-- What every node has. -/
structure Head where
  id : String
  name : String := ""
  visible : Bool := true
  /-- The offset from the canvas' corner, in flat schemas. -/
  position : Option Position := none
  deriving BEq

inductive Node where
  | container (head : Head) (layout : Layout) (children : List Node)
  | leaf (head : Head) (leaf : Leaf)

mutual

/-- Two nodes with the same parts. -/
def Node.same : Node → Node → Bool
  | .container h l cs, .container h' l' cs' => h == h' && (l == l' && Node.sameAll cs cs')
  | .leaf h l, .leaf h' l' => h == h' && l == l'
  | _, _ => false

def Node.sameAll : List Node → List Node → Bool
  | [], [] => true
  | n :: ns, m :: ms => n.same m && Node.sameAll ns ms
  | _, _ => false

end

instance : BEq Node := ⟨Node.same⟩

def Layout.kind : Layout → String
  | .frame _ => "frame"
  | .flex _ => "flex"
  | .box _ => "box"

def Leaf.kind : Leaf → String
  | .text _ => "text"
  | .image _ => "image"
  | .svg _ => "svg"
  | .shape _ => "shape"

def Leaf.binding : Leaf → Option Binding
  | .text t => t.binding
  | .image i => i.binding
  | .svg s => s.binding
  | .shape _ => none

namespace Node

def head : Node → Head
  | container h _ _ => h
  | leaf h _ => h

def id (n : Node) : String := n.head.id

def visible (n : Node) : Bool := n.head.visible

def children : Node → List Node
  | container _ _ cs => cs
  | leaf _ _ => []

def kind : Node → String
  | container _ l _ => l.kind
  | leaf _ l => l.kind

def isContainer : Node → Bool
  | container _ _ _ => true
  | leaf _ _ => false

def isFrame : Node → Bool
  | container _ (.frame _) _ => true
  | _ => false

def binding : Node → Option Binding
  | container _ _ _ => none
  | leaf _ l => l.binding

def withHead (h : Head) : Node → Node
  | container _ l cs => container h l cs
  | leaf _ l => leaf h l

def hide (n : Node) : Node := n.withHead { n.head with visible := false }

mutual

/-- The node and all below it, each before its children. -/
def preorder : Node → List Node
  | container h l cs => container h l cs :: preorders cs
  | leaf h l => [leaf h l]

def preorders : List Node → List Node
  | [] => []
  | n :: ns => n.preorder ++ preorders ns

end

mutual

/-- The visible nodes whose containers are all visible, each before its children. -/
def rendered : Node → List Node
  | container h l cs => if h.visible then container h l cs :: renderedIn cs else []
  | leaf h l => if h.visible then [leaf h l] else []

def renderedIn : List Node → List Node
  | [] => []
  | n :: ns => n.rendered ++ renderedIn ns

end

theorem preorders_eq_flatMap (ns : List Node) : preorders ns = ns.flatMap preorder := by
  induction ns with
  | nil => rfl
  | cons n ns ih => simp [preorders, ih]

theorem renderedIn_eq_flatMap (ns : List Node) : renderedIn ns = ns.flatMap rendered := by
  induction ns with
  | nil => rfl
  | cons n ns ih => simp [renderedIn, ih]

/-- The first node with an id, in the order of `preorder`. -/
def find? (ns : List Node) (id : String) : Option Node := (preorders ns).find? (·.id == id)

end Node

end VisualTemplate
