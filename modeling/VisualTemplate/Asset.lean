import VisualTemplate.Base64
import VisualTemplate.Error
import VisualTemplate.Text.Utf8
/-!
Assets: bytes with a media type, and the payloads that they are recorded from.
-/

namespace VisualTemplate

structure Asset where
  mime : String
  data : List UInt8
  deriving DecidableEq

namespace Asset

def bytes (s : String) : List UInt8 := Text.utf8 s

/-- Beginnings of bytes that give their media type away; `none` stands for any byte. -/
def signatures : List (List (Option UInt8) × String) :=
  let text (s : String) := (bytes s).map some
  [(some 0x89 :: text "PNG", "image/png"),
    ([some 0xFF, some 0xD8, some 0xFF], "image/jpeg"),
    (text "GIF8", "image/gif"),
    (text "RIFF" ++ [none, none, none, none] ++ text "WEBP", "image/webp"),
    (text "wOF2", "font/woff2"),
    (text "wOFF", "font/woff"),
    ([some 0, some 1, some 0, some 0], "font/ttf"),
    (text "OTTO", "font/otf")]

def startsLike : List (Option UInt8) → List UInt8 → Bool
  | [], _ => true
  | _ :: _, [] => false
  | none :: ps, _ :: bs => startsLike ps bs
  | some p :: ps, b :: bs => p == b && startsLike ps bs

/-- The bytes begin like a vector document, blanks apart. -/
def looksLikeSvg (data : List UInt8) : Bool :=
  let head := (Text.lossy none (data.take 256)).dropWhile Text.isBlank
  "<svg".toList.isPrefixOf head ||
    ("<?xml".toList.isPrefixOf head && Text.occurs "<svg".toList head)

/-- The media type of bytes, told by how they begin. -/
def sniff (data : List UInt8) : String :=
  match signatures.find? fun (s, _) => startsLike s data with
  | some (_, mime) => mime
  | none => if looksLikeSvg data then "image/svg+xml" else "application/octet-stream"

def ofBytes (data : List UInt8) : Asset := ⟨sniff data, data⟩

/-- The asset of a data URI without its scheme. -/
def ofDataUri (rest : String) : Except Error Asset := do
  match rest.cutAt ',' with
  | none => .error (.importing .malformedDataUri)
  | some (info, body) =>
    let mime := String.ofList ((info.toList.splitOn ';').headD [])
    let data ← if (info.before? ";base64").isSome then
        match Base64.decode? body with
        | some data => pure data
        | none => .error (.importing .invalidDataUriPayload)
      else pure (bytes body)
    .ok (if mime.isEmpty then ofBytes data else ⟨mime, data⟩)

/-- The asset of a payload: a data URI, vector markup or bare base 64. -/
def ofPayload (payload : String) : Except Error Asset :=
  let s := payload.trimmed
  match s.after? "data:" with
  | some rest => ofDataUri rest
  | none =>
    if (s.after? "<").isSome then .ok ⟨"image/svg+xml", bytes s⟩
    else match Base64.decode? s with
      | some data => .ok (ofBytes data)
      | none => .error (.importing .invalidPayload)

def dataUri (a : Asset) : String := s!"data:{a.mime};base64,{Base64.encode a.data}"

open Json

def toValue (a : Asset) : Value :=
  .object [("mime", .string a.mime), ("data", .string (Base64.encode a.data))]

def decoder : Decoder Asset :=
  .record (mk <$> .required "mime" .string
    <*> .required "data" (Decoder.string.refine fun s =>
      match Base64.decode? s with
      | some data => .ok data
      | none => .error .misshapen))

end Asset

/-- Assets under the keys that templates refer to. -/
abbrev Assets := Table Asset

namespace Assets

open Json

def toValue (as : Assets) : Value := .object (as.entries.map fun (k, a) => (k, a.toValue))

def decoder : Decoder Assets := .table Asset.decoder

def insertPayload (as : Assets) (key payload : String) : Except Error Assets := do
  return as.insert key (← Asset.ofPayload payload)

end Assets

/-- A way to look assets up. -/
abbrev AssetSource := String → Option Asset

/-- Looks in one place first and then in another. -/
def AssetSource.layered (first second : AssetSource) : AssetSource := fun key =>
  (first key).or (second key)

end VisualTemplate
