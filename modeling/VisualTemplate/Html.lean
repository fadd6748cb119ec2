import VisualTemplate.Html.Rules.Foreign
/-!
Documents and fragments from their text.

Every text gives a document: what is missing is added, and what stands in the wrong place is moved.
-/

namespace VisualTemplate.Html

/-- Beginnings of public identifiers of old kinds of documents. -/
def oldKinds : List String :=
  ["-//ietf//dtd html", "-//w3c//dtd html 3", "-//w3c//dtd html 4.0 frameset//",
    "-//w3c//dtd html 4.0 transitional//", "-//w3c//dtd html experimental", "-//w3c//dtd w3 html//",
    "-//w3o//dtd w3 html"]

/-- Beginnings of public identifiers that are old without a system identifier. -/
def olderWithoutSystem : List String :=
  ["-//w3c//dtd html 4.01 frameset//", "-//w3c//dtd html 4.01 transitional//"]

/-- The document type of an old kind of document, in which a table does not end a paragraph. -/
def Doctype.isQuirky (d : Doctype) : Bool :=
  let begins (s : String) (starts : List String) : Bool := starts.any fun p => (s.after? p).isSome
  d.isBroken || d.name != some "html" ||
    match d.publicId.map String.lowerAscii with
    | none => false
    | some p =>
      ["-/w3c/dtd html 4.0 transitional/en", "html"].contains p || begins p oldKinds
        || (d.systemId.isNone && begins p olderWithoutSystem)

namespace Builder

/-- Takes a document type; it counts only at the start. -/
def addDoctype (b : Builder) (d : Doctype) : Builder :=
  if b.mode = .start then
    { b.addCommentBelow 0 with isQuirky := d.isQuirky, mode := .beforeHtml }
  else b

/-- Without a line feed at the start, if it does not count; nothing if no more is left. -/
def withoutLineFeed (drops : Bool) (token : Token) : Option Token :=
  match token with
  | .characters isBlank ('\n' :: rest) =>
    if drops then (if rest.isEmpty then none else some (.characters isBlank rest)) else some token
  | _ => some token

/-- Takes the next token. -/
def take (b : Builder) (token : Token) : Builder :=
  let drops := b.dropsLineFeed
  let b := { b with dropsLineFeed := false }
  match token with
  | .doctype d => b.addDoctype d
  | _ =>
    match withoutLineFeed drops token with
    | some token => steps (8 * b.opened.length + 64) b token
    | none => b

/-- Marked sections may stand in vector and mathematical markup. -/
def allowsSections (b : Builder) : Bool :=
  match b.adjustedCurrent? with
  | some n => n.space != .html
  | none => false

/-- Reads a text, so many pieces at most. -/
def read : Nat → Builder → List Char → Builder
  | 0, b, _ => b
  | n + 1, b, cs =>
    let (tokens, rest) := Token.next b.reading b.allowsSections cs
    let b := tokens.foldl take b
    if cs.isEmpty then b else read n b rest

/-- Reads a whole text. A byte order mark at its start does not count. -/
def readText (b : Builder) (text : String) : Builder :=
  let cs := match text.toList with
    | '\ufeff' :: cs => cs
    | cs => cs
  read (cs.length + 1) b (normalizeLines cs)

/-- The start of a fragment of a page's body. -/
def ofBody : Builder :=
  let (_, f) := ({} : Forest).makeElement (html "body") []
  let b : Builder := { forest := f, context := some (html "body") }
  (b.openRoot []).resetMode

end Builder

/-- The document that a text writes. -/
def Document.ofText (text : String) : Document := (({} : Builder).readText text).forest.document

/-- The fragment of a page's body that a text writes. -/
def Document.ofFragment (text : String) : Document := (Builder.ofBody.readText text).forest.document

end VisualTemplate.Html
