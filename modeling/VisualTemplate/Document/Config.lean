import VisualTemplate.Node.Wire
/-!
Options of a compiled document.
-/

namespace VisualTemplate

open Json

/-- A font that is embedded into every document. -/
structure FontFace where
  family : String
  weight : UInt16 := 400
  style : String := "normal"
  /-- The asset that holds the font. -/
  asset : String
  deriving DecidableEq

structure CompileConfig where
  fonts : List FontFace := []
  /-- A style sheet that is written after the fonts as it stands. -/
  fontCss : Option String := none
  lang : String := "en"
  deriving DecidableEq

namespace FontFace

def toValue (f : FontFace) : Value :=
  .object [("family", .string f.family), ("weight", .nat f.weight.toNat),
    ("style", .string f.style), ("asset", .string f.asset)]

def decoder : Decoder FontFace :=
  .record (mk <$> .required "family" .string <*> .optional "weight" Node.Wire.word16 400
    <*> .optional "style" .string "normal" <*> .required "asset" .string)

end FontFace

namespace CompileConfig

def toValue (c : CompileConfig) : Value :=
  .object [("fonts", .array (c.fonts.map (·.toValue))),
    ("fontCss", (c.fontCss.map .string).getD .null), ("lang", .string c.lang)]

def decoder : Decoder CompileConfig :=
  .record (mk <$> .optional "fonts" FontFace.decoder.list [] <*> .maybe "fontCss" .string
    <*> .optional "lang" .string "en")

end CompileConfig

end VisualTemplate
