/-!
Hexadecimal digits.
-/

namespace VisualTemplate.Text

def hexValue? (c : Char) : Option Nat :=
  if c.isDigit then some (c.toNat - '0'.toNat)
  else if 'a' ≤ c ∧ c ≤ 'f' then some (c.toNat - 'a'.toNat + 10)
  else if 'A' ≤ c ∧ c ≤ 'F' then some (c.toNat - 'A'.toNat + 10)
  else none

/-- The number that digits write. -/
def hexOf (digits : List Char) : Nat :=
  digits.foldl (fun n c => 16 * n + (hexValue? c).getD 0) 0

theorem hexValue?_lt {c : Char} {n : Nat} (h : hexValue? c = some n) : n < 16 := by
  have five : 'f'.toNat = 'a'.toNat + 5 ∧ 'F'.toNat = 'A'.toNat + 5 ∧ '9'.toNat = '0'.toNat + 9 := by
    decide
  simp only [hexValue?, Char.isDigit, Bool.and_eq_true, decide_eq_true_eq] at h
  split at h
  · next d =>
    have : c.toNat ≤ '9'.toNat := UInt32.le_iff_toNat_le.1 d.2
    grind
  · split at h
    · next d =>
      have : c.toNat ≤ 'f'.toNat := UInt32.le_iff_toNat_le.1 d.2
      grind
    · split at h
      · next d =>
        have : c.toNat ≤ 'F'.toNat := UInt32.le_iff_toNat_le.1 d.2
        grind
      · simp at h

end VisualTemplate.Text
