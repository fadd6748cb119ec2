import VisualTemplate.Color
import VisualTemplate.Length
import VisualTemplate.Token
/-!
Colours of style sheets as paints of a template: references where a token stands for the colour.
-/

namespace VisualTemplate.Paint

open Text

def isNameChar (c : Char) : Bool := c.isAlphanum || c == '-' || c == '_'

/-- The name and the fallback of `var(--name, fallback)`. A fallback has no line feed in it. -/
def reference? (cs : List Char) : Option (List Char × Option (List Char)) := do
  let rest ← after? "var(".toList cs
  let rest ← after? ['-', '-'] (rest.dropWhile isBlank)
  let (name, rest) := rest.span isNameChar
  if name.isEmpty then none
  match rest.dropWhile isBlank with
  | [')'] => some (name, none)
  | ',' :: rest =>
    let fallback ← before? [')'] rest
    match fallback.dropWhile isBlank with
    | [] =>
      -- the last blank is the fallback itself
      match fallback.getLast? with
      | some c => if c == '\n' then none else some (name, some [c])
      | none => none
    | fallback => if fallback.contains '\n' then none else some (name, some fallback)
  | _ => none

/-- The first token in order whose stored colour has a normal form. -/
def tokenWith? (ts : Tokens) (normal : String) : Option String :=
  (ts.entries.find? fun (_, t) =>
    t.derivation.isNone && t.default_.bind Color.normalize? == some normal).map (·.1)

/-- The paint of a colour's text, with so many fallbacks left to look at. -/
def ofTextWithin (ts : Tokens) : Nat → String → Paint
  | 0, text => .literal text.trimmed
  | n + 1, text =>
    let raw := text.trimmed
    match reference? raw.toList with
    | some (name, fallback) =>
      let name := String.ofList name
      if ts.contains name then .token name
      else match fallback with
        | some f => ofTextWithin ts n (.ofList f)
        | none => .literal raw
    | none =>
      match (Color.normalize? raw).bind (tokenWith? ts) with
      | some name => .token name
      | none => .literal raw

/-- The paint of a colour's text: a reference to a declared token that the text names or whose
stored colour it writes, else the text itself. -/
def ofText (ts : Tokens) (text : String) : Paint := ofTextWithin ts (text.length + 1) text

end VisualTemplate.Paint
