import VisualTemplate.Document
/-!
Pictures of documents.

Drawing is left to others. The recorder stands in for a renderer: its pictures have the right size
and no content, and it remembers the digests of the documents that it was handed.
-/

namespace VisualTemplate

open Json

inductive OutputFormat where
  | png
  | jpeg
  | webp
  | pdf
  deriving DecidableEq, Repr

namespace OutputFormat

def word : OutputFormat → String
  | png => "png"
  | jpeg => "jpeg"
  | webp => "webp"
  | pdf => "pdf"

/-- The extension of a file in this format. -/
def extension : OutputFormat → String
  | jpeg => "jpg"
  | f => f.word

def mime : OutputFormat → String
  | pdf => "application/pdf"
  | f => "image/" ++ f.word

def decoder : Decoder OutputFormat := .oneOf (wordsOf word [.png, .jpeg, .webp, .pdf]) none

end OutputFormat

structure Picture where
  format : OutputFormat
  width : UInt32
  height : UInt32
  data : List UInt8 := []
  deriving DecidableEq

/-- The digests of the documents handed over so far, in order. -/
structure Recorder where
  digests : List String := []
  deriving DecidableEq

namespace Recorder

def render (r : Recorder) (d : Document) (f : OutputFormat) : Picture × Recorder :=
  (⟨f, d.width, d.height, []⟩, ⟨r.digests ++ [d.digest]⟩)

end Recorder

end VisualTemplate
