import VisualTemplate.Document.Config
import VisualTemplate.Document.Emit
import VisualTemplate.Sha256
/-!
Compiled documents: a schema filled with a request, as one markup text that needs nothing else.
-/

namespace VisualTemplate

structure Document where
  schemaId : String
  variant : Option String := none
  width : UInt32
  height : UInt32
  html : String
  diagnostics : List Diagnostic := []
  deriving DecidableEq

namespace Document

/-- The digest of the markup. -/
def digest (d : Document) : String := Sha256.hex (Sha256.digest (Text.utf8 d.html))

/-- Reports of fields that kept their placeholder. -/
def unresolved (d : Document) : List Diagnostic :=
  d.diagnostics.filter (·.kind == .unresolvedBinding)

def fontFormat (mime : String) : String :=
  if mime == "font/woff2" then "woff2"
  else if mime == "font/woff" then "woff"
  else if mime == "font/otf" then "opentype"
  else "truetype"

/-- The rule that embeds a font. -/
def fontRule (f : FontFace) (a : Asset) : String :=
  "@font-face\x7bfont-family:'" ++ withoutQuotes f.family ++ "';font-weight:"
    ++ toString f.weight.toNat ++ ";font-style:" ++ f.style ++ ";src:url(" ++ a.dataUri
    ++ ") format('" ++ fontFormat a.mime ++ "')\x7d"

/-- The rules of the known fonts, and reports of the others. -/
def fontRules (assets : AssetSource) : List FontFace → String × List Diagnostic
  | [] => ("", [])
  | f :: fs =>
    let (css, diagnostics) := fontRules assets fs
    match assets f.asset with
    | some a => (fontRule f a ++ css, diagnostics)
    | none => (css, .missingAsset f.asset none :: diagnostics)

/-- The body of a document: the nodes, below one element of the canvas' size if they are placed
absolutely. -/
def body (s : Schema) (nodes : List Markup) : List Markup :=
  match s.version with
  | .flat =>
    [.element "div" [("data-schema-id", s.id),
      ("style", s!"position:relative;width:{px s.canvas.width.toFloat32};height:{px s.canvas.height.toFloat32};overflow:hidden")]
      nodes]
  | .tree => nodes

/-- The whole text around a body. -/
def page (lang title fontCss : String) (canvas : Canvas) (body : String) : String :=
  "<!DOCTYPE html><html lang=\"" ++ escapeAttribute lang
    ++ "\"><head><meta charset=\"utf-8\"><title>" ++ escapeText title ++ "</title><style>"
    ++ fontCss ++ "html,body\x7bmargin:0;padding:0;width:" ++ px canvas.width.toFloat32
    ++ ";height:" ++ px canvas.height.toFloat32 ++ ";overflow:hidden\x7d</style></head><body>"
    ++ body ++ "</body></html>"

/-- Fills a schema. It fails on an unknown variant and on colours that cannot be resolved; what is
missing otherwise is only reported. -/
def compile (config : CompileConfig) (s : Schema) (r : FillRequest) (assets : AssetSource) :
    Except Error Document := do
  let nodes ← s.nodesFor r.variant
  let palette ← Palette.ofTokens s.tokens r.tokens
  let resolution := Resolution.ofNodes r.submission nodes
  let emitted ← emitAll ⟨palette, resolution.values, assets⟩ nodes
  let (fonts, missing) := fontRules assets config.fonts
  .ok
    { schemaId := s.id
      variant := r.variant
      width := s.canvas.width
      height := s.canvas.height
      html := page config.lang s.title (fonts ++ config.fontCss.getD "") s.canvas
        (writeAll (body s emitted.markup))
      diagnostics := resolution.diagnostics ++ emitted.diagnostics ++ missing }

/-- The bytes that tell requests apart: the schema, the variant, the colours and the data. -/
def keyBytes (schemaId : String) (r : FillRequest) : List UInt8 :=
  Text.utf8 schemaId ++ 0 :: Text.utf8 (r.variant.getD "") ++ 0 ::
    (r.tokens.entries.flatMap fun (name, value) =>
      Text.utf8 name ++ Text.utf8 "=" ++ Text.utf8 value ++ [0])
    ++ Text.utf8 r.submission.toValue.compact

/-- The digest of a request, under which its document is kept. -/
def cacheKey (schemaId : String) (r : FillRequest) : String :=
  Sha256.hex (Sha256.digest (keyBytes schemaId r))

open Json

def decoder : Decoder Document :=
  .record (mk <$> .required "schemaId" .string <*> .maybe "variant" .string
    <*> .required "width" Node.Wire.word32 <*> .required "height" Node.Wire.word32
    <*> .required "html" .string <*> .optional "diagnostics" Diagnostic.decoder.list [])

end Document

end VisualTemplate
