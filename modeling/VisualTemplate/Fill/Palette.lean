import VisualTemplate.Schema
/-!
The colours of a fill: the schema's tokens with the request's replacements.
-/

namespace VisualTemplate

structure Palette where
  tokens : Tokens
  replaced : Table Color

/-- The colour that a text writes. -/
def Color.ofText (text : String) : Except Error Color :=
  match Color.ofText? text with
  | some c => .ok c
  | none => .error (.invalidColor text.trimmed)

namespace Palette

/-- Checks one replacement: the token is declared, editable and not derived, and the text is a
colour. -/
def replacement (ts : Tokens) (name text : String) : Except Error Color :=
  match ts.get? name with
  | none => .error (.unknownToken name)
  | some t =>
    if t.derivation.isSome || !t.editable then .error (.tokenNotEditable name)
    else Color.ofText text

def replacements (ts : Tokens) : List (String × String) → Except Error (List (String × Color))
  | [] => .ok []
  | (name, text) :: rest => do
    let c ← replacement ts name text
    .ok ((name, c) :: (← replacements ts rest))

def ofTokens (ts : Tokens) (overrides : Table String) : Except Error Palette := do
  .ok ⟨ts, .ofList (← replacements ts overrides.entries)⟩

/-- The colour of a token, with so many derivations left to follow. -/
def resolveWithin (p : Palette) : Nat → String → Except Error Color
  | 0, name => .error (.structural (.cyclicDerivation name))
  | n + 1, name =>
    match p.tokens.get? name with
    | none => .error (.unknownToken name)
    | some t =>
      match t.derivation with
      | some (.lighten source percent) => do
        let c ← resolveWithin p n source
        .ok (c.lighten percent)
      | none =>
        match p.replaced.get? name, t.default_ with
        | some c, _ => .ok c
        | none, some text => Color.ofText text
        | none, none => .error (.tokenWithoutValue name)

def resolve (p : Palette) (name : String) : Except Error Color :=
  p.resolveWithin (p.tokens.size + 1) name

/-- The text of a colour in a style; literals stay as they are. -/
def css (p : Palette) : Paint → Except Error String
  | .literal text => .ok text
  | .token name => (p.resolve name).map Color.css

end Palette

end VisualTemplate
