import VisualTemplate.Html.Name
import VisualTemplate.Html.Reference
/-!
Tokens of markup.

`Token.next` takes the next piece of a text: a tag, a comment, a document type or a run of
characters. How the piece is read depends on the element that is open: inside some elements
everything up to their end tag is text.
-/

namespace VisualTemplate.Html

open Text

structure Tag where
  name : String
  attributes : List Attribute := []
  selfClosing : Bool := false
  deriving DecidableEq, Repr

structure Doctype where
  name : Option String := none
  publicId : Option String := none
  systemId : Option String := none
  /-- The declaration is broken. -/
  isBroken : Bool := false
  deriving DecidableEq, Repr

inductive Token where
  | doctype (d : Doctype)
  | opening (t : Tag)
  | closing (name : String)
  | comment
  /-- A run of blanks or of characters other than blanks. -/
  | characters (isBlank : Bool) (text : List Char)
  /-- The character 0 outside of text elements. -/
  | zero
  | finish
  deriving Repr

/-- What the characters up to an end tag are. -/
inductive TextKind where
  /-- Text with references. -/
  | escapable
  | raw
  | script
  deriving DecidableEq, Repr

/-- How the next piece is read. -/
inductive Reading where
  | markup
  /-- Text up to the end tag of an element. -/
  | text (kind : TextKind) (tag : String)
  /-- Text up to the end. -/
  | rest
  deriving DecidableEq, Repr

/-- Every line end as one line feed. -/
def normalizeLines : List Char → List Char
  | [] => []
  | '\r' :: '\n' :: cs => '\n' :: normalizeLines cs
  | '\r' :: cs => '\n' :: normalizeLines cs
  | c :: cs => c :: normalizeLines cs

/-- The character 0 as a replacement character. -/
def visible (c : Char) : Char := if c.toNat = 0 then '\ufffd' else c

/-- A name with its capital letters made small. -/
def nameOf (cs : List Char) : String := .ofList (cs.map fun c => visible c.toLower)

/-- Runs of blanks and of other characters. -/
def runs : List Char → List Token
  | [] => []
  | c :: cs =>
    let b := isMarkupBlank c
    match runs cs with
    | .characters b' text :: ts =>
      if b = b' then .characters b (c :: text) :: ts
      else .characters b [c] :: .characters b' text :: ts
    | ts => .characters b [c] :: ts

/-- The text that an attribute's characters write. -/
def attributeText (cs : List Char) : String := .ofList ((plainText true cs).map visible)

/-- The value of an attribute behind its equals sign; nothing if the text ends in it. -/
def attributeValue? (cs : List Char) : Option (String × List Char) :=
  match cs.dropWhile isMarkupBlank with
  | [] => none
  | '>' :: rest => some ("", '>' :: rest)
  | c :: rest =>
    if c == '"' || c == '\'' then
      (cutAt (· == c) rest).map fun (value, rest) => (attributeText value, rest)
    else
      let (value, rest) := (c :: rest).span fun c => !(isMarkupBlank c || c == '>')
      some (attributeText value, rest)

/-- An attribute together with those before it; of two with one name the first counts. -/
def addAttribute (as : List Attribute) (name value : String) : List Attribute :=
  if as.any (·.name == name) then as else as ++ [{ name := name, value := value }]

/-- The attributes of a tag up to its end, whether the tag closes itself, and what follows;
nothing if the text ends before the tag does. -/
def readAttributes : Nat → List Attribute → List Char →
    Option (List Attribute × Bool × List Char)
  | 0, _, _ => none
  | _, _, [] => none
  | _, as, '>' :: cs => some (as, false, cs)
  | _, as, '/' :: '>' :: cs => some (as, true, cs)
  | n + 1, as, c :: cs =>
    if isMarkupBlank c || c == '/' then readAttributes n as cs
    else
      let (more, rest) := cs.span fun c =>
        !(isMarkupBlank c || c == '/' || c == '=' || c == '>')
      let name := nameOf (c :: more)
      match rest.dropWhile isMarkupBlank with
      | '=' :: rest =>
        match attributeValue? rest with
        | some (value, rest) => readAttributes n (addAttribute as name value) rest
        | none => none
      | rest => readAttributes n (addAttribute as name "") rest

/-- A tag from its first letter on. -/
def readTag (cs : List Char) : Option (Tag × List Char) :=
  let (name, rest) := cs.span fun c => !(isMarkupBlank c || c == '/' || c == '>')
  (readAttributes (rest.length + 1) [] rest).map fun (as, closed, rest) =>
    (⟨nameOf name, as, closed⟩, rest)

/-- What follows a comment, from the characters behind its opening on. -/
def afterComment (cs : List Char) : List Char :=
  match cs with
  | '>' :: rest => rest
  | '-' :: '>' :: rest => rest
  | cs => go cs
where
  go : List Char → List Char
    | '-' :: '-' :: '>' :: rest => rest
    | '-' :: '-' :: '!' :: '>' :: rest => rest
    | _ :: cs => go cs
    | [] => []

/-- What follows the next closing bracket. -/
def afterBracket (cs : List Char) : List Char := (cs.dropWhile (· != '>')).drop 1

/-- What follows a word, the case of its letters apart. -/
def afterWord? (word : String) (cs : List Char) : Option (List Char) :=
  if nameOf (cs.take word.length) == word then some (cs.drop word.length) else none

/-- A quoted identifier of a document type; broken if the declaration ends in it. -/
def quoted? (cs : List Char) : Option (String × Bool × List Char) :=
  match cs with
  | [] => none
  | q :: cs =>
    if q == '"' || q == '\'' then
      let (id, rest) := cs.span fun c => !(c == q || c == '>')
      let text := String.ofList (id.map visible)
      match rest with
      | c :: after => if c == q then some (text, false, after) else some (text, true, rest)
      | [] => some (text, true, [])
    else none

/-- The identifiers of a document type behind its name. -/
def readIdentifiers (d : Doctype) (cs : List Char) : Doctype × List Char :=
  let skip (cs : List Char) := cs.dropWhile isMarkupBlank
  let broken (d : Doctype) : Doctype := { d with isBroken := true }
  let system (d : Doctype) (cs : List Char) (needed : Bool) : Doctype × List Char :=
    match skip cs with
    | '>' :: _ => (if needed then broken d else d, cs)
    | rest =>
      match quoted? rest with
      | some (id, isBroken, rest) =>
        let atEnd := rest.isEmpty || (skip rest).isEmpty
        ({ d with systemId := some id, isBroken := d.isBroken || isBroken || atEnd }, rest)
      | none => (broken d, rest)
  match skip cs with
  | '>' :: rest => (d, '>' :: rest)
  | cs =>
    match afterWord? "public" cs, afterWord? "system" cs with
    | some rest, _ =>
      match quoted? (skip rest) with
      | some (id, isBroken, rest) =>
        system { d with publicId := some id, isBroken := isBroken } rest false
      | none => (broken d, rest)
    | none, some rest => system d rest true
    | none, none => (broken d, cs)

/-- A document type behind its keyword. -/
def readDoctype (cs : List Char) : Token × List Char :=
  let cs := cs.dropWhile isMarkupBlank
  let (name, rest) := cs.span fun c => !(isMarkupBlank c || c == '>')
  let d : Doctype := { name := if name.isEmpty then none else some (nameOf name) }
  let (d, rest) := readIdentifiers d rest
  let unfinished := name.isEmpty || !rest.contains '>'
  (.doctype { d with isBroken := d.isBroken || unfinished }, afterBracket rest)

/-- What stands before the end of a marked section and behind it. -/
def section_ : List Char → List Char × List Char
  | ']' :: ']' :: '>' :: rest => ([], rest)
  | c :: cs =>
    let (text, rest) := section_ cs
    (c :: text, rest)
  | [] => ([], [])

/-- Runs of characters with the character 0 between them. -/
def runsWithZeros (cs : List Char) : List Token :=
  (List.intersperse [Token.zero] ((cs.splitOnP (·.toNat == 0)).map runs)).flatten

/-- A piece that begins with an exclamation mark, behind the mark. -/
def readDeclaration (isForeign : Bool) (cs : List Char) : List Token × List Char :=
  match after? ['-', '-'] cs, afterWord? "doctype" cs with
  | some rest, _ => ([.comment], afterComment rest)
  | none, some rest =>
    let (t, rest) := readDoctype rest
    ([t], rest)
  | none, none =>
    match if isForeign then after? "[CDATA[".toList cs else none with
    | some rest =>
      let (text, rest) := section_ rest
      (runsWithZeros text, rest)
    | none => ([.comment], afterBracket cs)

/-- A piece that begins with an angle bracket, behind the bracket. -/
def readMarkup (isForeign : Bool) (cs : List Char) : List Token × List Char :=
  match cs with
  | '!' :: rest => readDeclaration isForeign rest
  | '?' :: rest => ([.comment], afterBracket rest)
  | '/' :: [] => (runs ['<', '/'], [])
  | '/' :: '>' :: rest => ([], rest)
  | '/' :: c :: rest =>
    if c.isAlpha then
      match readTag (c :: rest) with
      | some (t, rest) => ([.closing t.name], rest)
      | none => ([], [])
    else ([.comment], afterBracket (c :: rest))
  | c :: rest =>
    if c.isAlpha then
      match readTag (c :: rest) with
      | some (t, rest) => ([.opening t], rest)
      | none => ([], [])
    else (runs ['<'], c :: rest)
  | [] => (runs ['<'], [])

/-- An end tag of an element stands behind an angle bracket. -/
def endsElement (tag : String) (cs : List Char) : Bool :=
  match cs with
  | '/' :: cs =>
    match afterWord? tag cs with
    | some (c :: _) => isMarkupBlank c || c == '/' || c == '>'
    | _ => false
  | _ => false

/-- The text up to an end tag of an element, and the rest from that tag on. -/
def textUpTo (tag : String) : List Char → List Char × List Char
  | [] => ([], [])
  | c :: cs =>
    if c == '<' && endsElement tag cs then ([], c :: cs)
    else
      let (text, rest) := textUpTo tag cs
      (c :: text, rest)

/-- Where a script stands with respect to comments in it: outside, in a comment, or in a script
inside a comment; with the number of hyphens just read. -/
inductive ScriptPart where
  | outside
  | comment (hyphens : Nat)
  | nested (hyphens : Nat)

def beginsScript (cs : List Char) : Bool :=
  match afterWord? "script" cs with
  | some (c :: _) => isMarkupBlank c || c == '/' || c == '>'
  | _ => false

/-- The text of a script up to its end tag, and the rest from that tag on. -/
def scriptUpTo (part : ScriptPart) : List Char → List Char × List Char
  | [] => ([], [])
  | c :: cs =>
    let ends := match part with
      | .nested _ => false
      | _ => c == '<' && endsElement "script" cs
    if ends then ([], c :: cs)
    else
      let next := match part with
        | .outside =>
          if c == '<' && (after? "!--".toList cs).isSome then ScriptPart.comment 0 else .outside
        | .comment n =>
          if c == '-' then .comment (n + 1)
          else if c == '>' && 2 ≤ n then .outside
          else if c == '<' && beginsScript cs then .nested 0
          else .comment 0
        | .nested n =>
          if c == '-' then .nested (n + 1)
          else if c == '>' && 2 ≤ n then .outside
          else if c == '<' && endsElement "script" cs then .comment 0
          else .nested 0
      let (text, rest) := scriptUpTo next cs
      (c :: text, rest)

/-- The next tokens and what follows them. -/
def Token.next (reading : Reading) (isForeign : Bool) (cs : List Char) : List Token × List Char :=
  match reading, cs with
  | _, [] => ([.finish], [])
  | .markup, '<' :: rest => readMarkup isForeign rest
  | .markup, c :: rest =>
    if c.toNat = 0 then ([.zero], rest)
    else
      let (text, rest) := (c :: rest).span fun c => !(c == '<' || c.toNat == 0)
      (runs (plainText false text), rest)
  | .text kind tag, c :: rest =>
    if c == '<' && endsElement tag rest then readMarkup false rest
    else
      let (text, rest) := match kind with
        | .script => scriptUpTo .outside (c :: rest)
        | _ => textUpTo tag (c :: rest)
      let text := if kind = .escapable then plainText false text else text
      (runs (text.map visible), rest)
  | .rest, cs => (runs (cs.map visible), [])

end VisualTemplate.Html
