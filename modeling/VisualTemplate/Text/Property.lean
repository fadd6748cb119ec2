import VisualTemplate.Text.CharSet
import VisualTemplate.Text.Category
/-!
Character properties by name.

Names are compared without case, blanks, hyphens and underscores, and without a leading `is`.
-/

namespace VisualTemplate.Text.Property

open Category

def ascii : CharSet := [(0, 0x7F)]

def any : CharSet := [(0, CharSet.last)]

def whiteSpace : CharSet := .ofText "9-D 20 85 A0 1680 2000-200A 2028-2029 202F 205F 3000"

/-- The categories by their short names, with their ranges. -/
def categories : List (String × CharSet) :=
  [("lu", .ofText upperText), ("ll", .ofText lowerText), ("lt", .ofText titleText),
    ("lm", .ofText modifierText), ("lo", .ofText caselessText), ("mn", .ofText nonspacingText),
    ("mc", .ofText spacingText), ("me", .ofText enclosingText), ("nd", .ofText digitText),
    ("nl", .ofText letterNumberText), ("no", .ofText otherNumberText), ("pc", .ofText connectorText),
    ("pd", .ofText dashText), ("ps", .ofText openingText), ("pe", .ofText closingText),
    ("pi", .ofText openingQuoteText), ("pf", .ofText closingQuoteText),
    ("po", .ofText otherPunctuationText), ("sm", .ofText mathText), ("sc", .ofText currencyText),
    ("sk", .ofText modifierSymbolText), ("so", .ofText otherSymbolText), ("zs", .ofText spaceText),
    ("zl", .ofText lineText), ("zp", .ofText paragraphText), ("cc", .ofText controlText),
    ("cf", .ofText formatText), ("co", .ofText privateText)]

def category (name : String) : CharSet := (categories.lookup name).getD []

/-- Several categories together. -/
def categoryUnion (names : List String) : CharSet := .ofRanges (names.flatMap category)

def letters : CharSet := categoryUnion ["lu", "ll", "lt", "lm", "lo"]

def upperLetters : CharSet := category "lu"

def lowerLetters : CharSet := category "ll"

def marks : CharSet := categoryUnion ["mn", "mc", "me"]

def digits : CharSet := category "nd"

/-- Code points that count as letters of words without being letters by category. -/
def otherLetters : CharSet := .ofText "24B6-24E9 1F130-1F149 1F150-1F169 1F170-1F189"

def alphabetic : CharSet := .ofRanges (letters ++ category "nl" ++ otherLetters)

/-- What words are made of: letters, marks, digits, connecting punctuation and joiners. -/
def wordChars : CharSet :=
  .ofRanges (alphabetic ++ marks ++ digits ++ category "pc" ++ [(0x200C, 0x200D)])

def unassigned : CharSet :=
  (CharSet.ofRanges ((0xD800, 0xDFFF) :: categories.flatMap (·.2))).complement

/-- Groups of categories and single categories by their long names. -/
def groups : List (List String × List String) :=
  [(["l", "letter"], ["lu", "ll", "lt", "lm", "lo"]), (["lc", "casedletter"], ["lu", "ll", "lt"]),
    (["m", "mark", "combiningmark"], ["mn", "mc", "me"]), (["n", "number"], ["nd", "nl", "no"]),
    (["p", "punctuation", "punct"], ["pc", "pd", "ps", "pe", "pi", "pf", "po"]),
    (["s", "symbol"], ["sm", "sc", "sk", "so"]), (["z", "separator"], ["zs", "zl", "zp"]),
    (["uppercaseletter"], ["lu"]), (["lowercaseletter"], ["ll"]), (["titlecaseletter"], ["lt"]),
    (["modifierletter"], ["lm"]), (["otherletter"], ["lo"]), (["nonspacingmark"], ["mn"]),
    (["spacingmark"], ["mc"]), (["enclosingmark"], ["me"]), (["decimalnumber", "digit"], ["nd"]),
    (["letternumber"], ["nl"]), (["othernumber"], ["no"]), (["connectorpunctuation"], ["pc"]),
    (["dashpunctuation"], ["pd"]), (["openpunctuation"], ["ps"]), (["closepunctuation"], ["pe"]),
    (["initialpunctuation"], ["pi"]), (["finalpunctuation"], ["pf"]),
    (["otherpunctuation"], ["po"]), (["mathsymbol"], ["sm"]), (["currencysymbol"], ["sc"]),
    (["modifiersymbol"], ["sk"]), (["othersymbol"], ["so"]), (["spaceseparator"], ["zs"]),
    (["lineseparator"], ["zl"]), (["paragraphseparator"], ["zp"]), (["control", "cntrl"], ["cc"]),
    (["format"], ["cf"]), (["privateuse"], ["co"])]

/-- A category by its short or long name. -/
def generalCategory? (name : String) : Option CharSet :=
  match categories.lookup name with
  | some s => some s
  | none =>
    match groups.find? fun g => g.1.contains name with
    | some g => some (categoryUnion g.2)
    | none =>
      if name == "any" then some any
      else if name == "ascii" then some ascii
      else if name == "assigned" then some unassigned.complement
      else if name == "cn" || name == "unassigned" then some unassigned
      else if name == "c" || name == "other" then
        some (CharSet.ofRanges (categoryUnion ["cc", "cf", "co"] ++ unassigned))
      else none

def script? (name : String) : Option CharSet :=
  match name with
  | "latin" | "latn" => some (CharSet.ofText latinText)
  | "greek" | "grek" => some (CharSet.ofText greekText)
  | "cyrillic" | "cyrl" => some (CharSet.ofText cyrillicText)
  | "han" | "hani" => some (CharSet.ofText hanText)
  | _ => none

def binary? (name : String) : Option CharSet :=
  match name with
  | "alphabetic" | "alpha" => some alphabetic
  | "uppercase" | "upper" => some (CharSet.ofRanges (upperLetters ++ CharSet.ofText otherUpperText))
  | "lowercase" | "lower" => some (CharSet.ofRanges (lowerLetters ++ CharSet.ofText otherLowerText))
  | "whitespace" | "wspace" | "space" => some whiteSpace
  | _ => none

/-- A name without case, blanks, hyphens, underscores and a leading `is`. -/
def plainName (s : String) : String :=
  let cs := (s.toList.filter fun c => !(c == ' ' || c == '-' || c == '_')).map Char.toLower
  match cs with
  | 'i' :: 's' :: rest => if rest == ['c'] || rest.isEmpty then .ofList cs else .ofList rest
  | cs => .ofList cs

/-- The set of a property's name. -/
def named? (name : String) : Option CharSet :=
  let name := plainName name
  (binary? name).or ((generalCategory? name).or (script? name))

/-- The set of a property with a value. -/
def valued? (property value : String) : Option CharSet :=
  let value := plainName value
  match plainName property with
  | "gc" | "generalcategory" => generalCategory? value
  | "sc" | "script" | "scx" | "scriptextensions" => script? value
  | _ => none

end VisualTemplate.Text.Property
