import VisualTemplate.Json.Number
/-!
Document values and their text, compact or indented.
-/

namespace VisualTemplate.Json

inductive Value where
  | null
  | bool (b : Bool)
  | number (n : Number)
  | string (s : String)
  | array (items : List Value)
  | object (fields : List (String × Value))

instance : Inhabited Value := ⟨.null⟩

namespace Value

def nat (n : Nat) : Value := .number (.whole n)
def single (x : Float32) : Value := .number (.single x)

/-- The value under a name of an object. -/
def field? : Value → String → Option Value
  | object fields, name => fields.lookup name
  | _, _ => none

/-- The item at a position of an array. -/
def item? : Value → Nat → Option Value
  | array items, i => items[i]?
  | _, _ => none

end Value

/-- A hexadecimal digit, letters small. -/
def hexDigit (n : Nat) : Char := (Nat.digitChar (n % 16))

/-- A character inside quotes. -/
def escapeChar (c : Char) : List Char :=
  if c == '"' then ['\\', '"']
  else if c == '\\' then ['\\', '\\']
  else if c == '\n' then ['\\', 'n']
  else if c == '\r' then ['\\', 'r']
  else if c == '\t' then ['\\', 't']
  else if c.toNat == 8 then ['\\', 'b']
  else if c.toNat == 12 then ['\\', 'f']
  else if c.toNat < 32 then ['\\', 'u', '0', '0', hexDigit (c.toNat / 16), hexDigit c.toNat]
  else [c]

def quote (s : String) : String := .ofList ('"' :: s.toList.flatMap escapeChar ++ ['"'])

def indent (depth : Nat) : String := .ofList (List.replicate (2 * depth) ' ')

mutual

/-- The text without any blank. -/
def Value.compact : Value → String
  | .null => "null"
  | .bool b => if b then "true" else "false"
  | .number n => n.text
  | .string s => quote s
  | .array items => "[" ++ ",".intercalate (compactItems items) ++ "]"
  | .object fields => "\x7b" ++ ",".intercalate (compactFields fields) ++ "\x7d"

def compactItems : List Value → List String
  | [] => []
  | v :: vs => v.compact :: compactItems vs

def compactFields : List (String × Value) → List String
  | [] => []
  | (k, v) :: fs => (quote k ++ ":" ++ v.compact) :: compactFields fs

end

/-- Parts on lines of their own, two blanks deeper than the brackets. -/
def block (depth : Nat) (opening closing : String) (parts : List String) : String :=
  if parts.isEmpty then opening ++ closing
  else
    let inner := "\n" ++ indent (depth + 1)
    opening ++ inner ++ ("," ++ inner).intercalate parts ++ "\n" ++ indent depth ++ closing

mutual

/-- The text with one field or item per line. -/
def Value.indented (depth : Nat) : Value → String
  | .array items => block depth "[" "]" (indentedItems depth items)
  | .object fields => block depth "\x7b" "\x7d" (indentedFields depth fields)
  | .null => "null"
  | .bool b => if b then "true" else "false"
  | .number n => n.text
  | .string s => quote s

def indentedItems (depth : Nat) : List Value → List String
  | [] => []
  | v :: vs => v.indented (depth + 1) :: indentedItems depth vs

def indentedFields (depth : Nat) : List (String × Value) → List String
  | [] => []
  | (k, v) :: fs => (quote k ++ ": " ++ v.indented (depth + 1)) :: indentedFields depth fs

end

def Value.pretty (v : Value) : String := v.indented 0

/-- Objects with optional fields: those that are absent are left out. -/
def Value.ofFields (fields : List (String × Option Value)) : Value :=
  .object (fields.filterMap fun (k, v) => v.map (k, ·))

end VisualTemplate.Json
