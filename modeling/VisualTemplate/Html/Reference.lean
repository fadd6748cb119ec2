import VisualTemplate.Html.Entity
/-!
Character references.

Behind an ampersand stand a name or, behind a number sign, the digits of a code point. What is no
reference stays as it is written.
-/

namespace VisualTemplate.Html

/-- What the code points 128 to 159 stand for: the characters of an old code page. -/
def oldCodes : List Nat :=
  [0x20AC, 0x81, 0x201A, 0x192, 0x201E, 0x2026, 0x2020, 0x2021, 0x2C6, 0x2030, 0x160, 0x2039,
    0x152, 0x8D, 0x17D, 0x8F, 0x90, 0x2018, 0x2019, 0x201C, 0x201D, 0x2022, 0x2013, 0x2014,
    0x2DC, 0x2122, 0x161, 0x203A, 0x153, 0x9D, 0x17E, 0x178]

/-- The character of a numeric reference. -/
def charOfCode (n : Nat) : Char :=
  if n = 0 ∨ 0x10FFFF < n ∨ (0xD800 ≤ n ∧ n < 0xE000) then '\ufffd'
  else if 0x80 ≤ n ∧ n < 0xA0 then .ofNat (oldCodes.getD (n - 0x80) n)
  else .ofNat n

/-- Digits of a base below 17, as many as follow. -/
def readDigits (base : Nat) (n : Option Nat) : List Char → Option Nat × List Char
  | [] => (n, [])
  | c :: cs =>
    match Text.hexValue? c with
    | some d => if d < base then readDigits base (some (n.getD 0 * base + d)) cs else (n, c :: cs)
    | none => (n, c :: cs)

def dropSemicolon : List Char → List Char
  | ';' :: cs => cs
  | cs => cs

/-- A numeric reference behind its number sign. -/
def numericReference? (cs : List Char) : Option (List Char × List Char) :=
  let (n, rest) := match cs with
    | 'x' :: ds | 'X' :: ds => readDigits 16 none ds
    | ds => readDigits 10 none ds
  n.map fun n => ([charOfCode n], dropSemicolon rest)

/-- A named reference. In an attribute a name without a semicolon is none if a letter, a digit or
an equals sign follows. -/
def namedReference? (inAttribute : Bool) (cs : List Char) : Option (List Char × List Char) :=
  match Entity.longest? cs with
  | none => none
  | some e =>
    let rest := cs.drop e.name.length
    let continued := match rest with
      | c :: _ => c == '=' || c.isAlphanum
      | [] => false
    if inAttribute && e.name.getLast? != some ';' && continued then none
    else some (e.meaning, rest)

/-- The reference behind an ampersand and what follows it. -/
def reference? (inAttribute : Bool) : List Char → Option (List Char × List Char)
  | '#' :: cs => numericReference? cs
  | cs => namedReference? inAttribute cs

/-- A text with its references replaced; so many characters are left at most. -/
def replaceReferences (inAttribute : Bool) : Nat → List Char → List Char
  | 0, cs => cs
  | _, [] => []
  | n + 1, '&' :: cs =>
    match reference? inAttribute cs with
    | some (meaning, rest) => meaning ++ replaceReferences inAttribute n rest
    | none => '&' :: replaceReferences inAttribute n cs
  | n + 1, c :: cs => c :: replaceReferences inAttribute n cs

/-- A text with its references replaced. -/
def plainText (inAttribute : Bool) (cs : List Char) : List Char :=
  replaceReferences inAttribute cs.length cs

end VisualTemplate.Html
