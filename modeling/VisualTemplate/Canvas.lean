import VisualTemplate.Node.Wire
/-!
The size of a template in pixels.
-/

namespace VisualTemplate

structure Canvas where
  width : UInt32 := 1080
  height : UInt32 := 1080
  deriving DecidableEq

namespace Canvas

open Json

def text (c : Canvas) : String := s!"{c.width.toNat}x{c.height.toNat}"

def isEmpty (c : Canvas) : Bool := c.width == 0 || c.height == 0

def toValue (c : Canvas) : Value :=
  .object [("width", .nat c.width.toNat), ("height", .nat c.height.toNat)]

def decoder : Decoder Canvas :=
  .record (mk <$> .required "width" Node.Wire.word32 <*> .required "height" Node.Wire.word32)

end Canvas

end VisualTemplate
