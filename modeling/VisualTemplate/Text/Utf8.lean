/-!
Texts as bytes, and bytes read as text where they are one.
-/

namespace VisualTemplate.Text

def utf8 (s : String) : List UInt8 := s.toUTF8.toList

/-- What a first byte promises: how many bytes follow, its own bits, and the bounds of the second
byte. -/
def lead? (b : Nat) : Option (Nat × Nat × Nat × Nat) :=
  if 0xC2 ≤ b ∧ b ≤ 0xDF then some (1, b - 0xC0, 0x80, 0xBF)
  else if b = 0xE0 then some (2, 0, 0xA0, 0xBF)
  else if b = 0xED then some (2, 0xD, 0x80, 0x9F)
  else if 0xE1 ≤ b ∧ b ≤ 0xEF then some (2, b - 0xE0, 0x80, 0xBF)
  else if b = 0xF0 then some (3, 0, 0x90, 0xBF)
  else if 0xF1 ≤ b ∧ b ≤ 0xF3 then some (3, b - 0xF0, 0x80, 0xBF)
  else if b = 0xF4 then some (3, 4, 0x80, 0x8F)
  else none

/-- The characters written by bytes. Each longest beginning of a character that is not finished,
and each byte that begins none, counts as a replacement character. -/
def lossy (pending : Option (Nat × Nat × Nat × Nat)) : List UInt8 → List Char
  | [] => if pending.isSome then ['\ufffd'] else []
  | byte :: bytes =>
    let b := byte.toNat
    let fresh (front : List Char) : List Char :=
      if b < 0x80 then front ++ .ofNat b :: lossy none bytes
      else match lead? b with
        | some p => front ++ lossy (some p) bytes
        | none => front ++ '\ufffd' :: lossy none bytes
    match pending with
    | none => fresh []
    | some (n, bits, low, high) =>
      if low ≤ b ∧ b ≤ high then
        let bits := bits * 64 + b % 64
        if n = 1 then .ofNat bits :: lossy none bytes
        else lossy (some (n - 1, bits, 0x80, 0xBF)) bytes
      else fresh ['\ufffd']

/-- The text that bytes write, if they write one. -/
def ofUtf8? (bytes : List UInt8) : Option String :=
  let s := String.ofList (lossy none bytes)
  if utf8 s = bytes then some s else none

end VisualTemplate.Text
