import VisualTemplate.Text.Cut
/-!
Names of elements and attributes.

Element and attribute names are read without regard to case. Inside vector and mathematical markup
some of them have capitals, and attributes such as `xlink:href` stand in a name space of their own.
-/

namespace VisualTemplate.Html

/-- The vocabulary of an element. -/
inductive Space where
  | html
  | svg
  | mathml
  deriving DecidableEq, Repr

/-- The name of an element. -/
structure Name where
  space : Space
  tag : String
  deriving DecidableEq, Repr

/-- The vocabulary of an attribute. -/
inductive AttributeSpace where
  | plain
  | xlink
  | xml
  | xmlns
  deriving DecidableEq, Repr

structure Attribute where
  space : AttributeSpace := .plain
  name : String
  value : String
  deriving DecidableEq, Repr

def html (tag : String) : Name := ⟨.html, tag⟩
def mathml (tag : String) : Name := ⟨.mathml, tag⟩

/-- The element is one of the page's own with one of the given tags. -/
def Name.isOneOf (n : Name) (tags : List String) : Bool := n.space == .html && tags.contains n.tag

def Name.is (n : Name) (tag : String) : Bool := n == html tag

/-- Words with capitals, by their spelling without. -/
def spellings (words : List String) : List (String × String) :=
  words.map fun w => (w.lowerAscii, w)

/-- Elements of vector markup with capitals in their names. -/
def svgTags : List (String × String) :=
  spellings ["altGlyph", "altGlyphDef", "altGlyphItem", "animateColor", "animateMotion",
    "animateTransform", "clipPath", "feBlend", "feColorMatrix", "feComponentTransfer",
    "feComposite", "feConvolveMatrix", "feDiffuseLighting", "feDisplacementMap",
    "feDistantLight", "feDropShadow", "feFlood", "feFuncA", "feFuncB", "feFuncG", "feFuncR",
    "feGaussianBlur", "feImage", "feMerge", "feMergeNode", "feMorphology", "feOffset",
    "fePointLight", "feSpecularLighting", "feSpotLight", "feTile", "feTurbulence",
    "foreignObject", "glyphRef", "linearGradient", "radialGradient", "textPath"]

/-- Attributes of vector markup with capitals in their names. -/
def svgAttributes : List (String × String) :=
  spellings ["attributeName", "attributeType", "baseFrequency", "baseProfile", "calcMode",
    "clipPathUnits", "diffuseConstant", "edgeMode", "filterUnits", "glyphRef",
    "gradientTransform", "gradientUnits", "kernelMatrix", "kernelUnitLength", "keyPoints",
    "keySplines", "keyTimes", "lengthAdjust", "limitingConeAngle", "markerHeight",
    "markerUnits", "markerWidth", "maskContentUnits", "maskUnits", "numOctaves", "pathLength",
    "patternContentUnits", "patternTransform", "patternUnits", "pointsAtX", "pointsAtY",
    "pointsAtZ", "preserveAlpha", "preserveAspectRatio", "primitiveUnits", "refX", "refY",
    "repeatCount", "repeatDur", "requiredExtensions", "requiredFeatures", "specularConstant",
    "specularExponent", "spreadMethod", "startOffset", "stdDeviation", "stitchTiles",
    "surfaceScale", "systemLanguage", "tableValues", "targetX", "targetY", "textLength",
    "viewBox", "viewTarget", "xChannelSelector", "yChannelSelector", "zoomAndPan"]

def mathmlAttributes : List (String × String) := spellings ["definitionURL"]

/-- Attributes with a name space of their own. -/
def spacedAttributes : List (String × AttributeSpace × String) :=
  (["actuate", "arcrole", "href", "role", "show", "title", "type"].map fun n =>
      ("xlink:" ++ n, .xlink, n))
    ++ (["base", "lang", "space"].map fun n => ("xml:" ++ n, .xml, n))
    ++ [("xmlns", .xmlns, "xmlns"), ("xmlns:xlink", .xmlns, "xlink")]

/-- The tag of an element of a vocabulary. -/
def adjustTag (space : Space) (tag : String) : String :=
  if space = .svg then (svgTags.lookup tag).getD tag else tag

/-- An attribute outside the page's own vocabulary. -/
def adjustAttribute (space : Space) (a : Attribute) : Attribute :=
  let capitals := match space with
    | .html => []
    | .svg => svgAttributes
    | .mathml => mathmlAttributes
  let name := (capitals.lookup a.name).getD a.name
  match spacedAttributes.lookup name with
  | some (s, n) => ⟨s, n, a.value⟩
  | none => ⟨.plain, name, a.value⟩

/-- Elements in which the text of mathematical markup stands. -/
def isMathTextPoint (n : Name) : Bool :=
  n.space == .mathml && ["mi", "mo", "mn", "ms", "mtext"].contains n.tag

/-- Elements of vector markup in which markup of the page may stand. -/
def isSvgContentPoint (n : Name) : Bool :=
  n.space == .svg && ["foreignObject", "desc", "title"].contains n.tag

end VisualTemplate.Html
