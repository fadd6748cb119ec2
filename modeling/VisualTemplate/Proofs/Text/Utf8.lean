import Mathlib.Tactic
import VisualTemplate.Text.Utf8
/-!
The bytes of a text: they are those of its characters in order, and they tell the text.
-/

namespace VisualTemplate.Text

/-- The bytes that are still to be listed follow those that are listed already. -/
lemma listed_bytes (bytes : ByteArray) (start : ℕ) (listed : List UInt8) :
    ByteArray.toList.loop bytes start listed =
      listed.reverse ++ bytes.data.toList.drop start := by
  fun_induction ByteArray.toList.loop bytes start listed with
  | case1 k listed hlt ih =>
    have hk : k < bytes.data.size := hlt
    have hget : bytes.get! k = bytes.data.toList[k] := by
      rw [ByteArray.get!, getElem!_pos bytes.data k hk, Array.getElem_toList]
    rw [ih, hget, List.reverse_cons, List.append_assoc, List.singleton_append,
      List.getElem_cons_drop]
  | case2 k listed hge =>
    have hk : bytes.data.toList.length ≤ k := Nat.le_of_not_lt hge
    rw [List.drop_of_length_le hk, List.append_nil]

lemma utf8_eq (s : String) : utf8 s = s.toByteArray.data.toList := by
  rw [utf8, String.toUTF8_eq_toByteArray, ByteArray.toList, listed_bytes]
  simp

@[simp] lemma utf8_append (s t : String) : utf8 (s ++ t) = utf8 s ++ utf8 t := by
  rw [utf8_eq, utf8_eq, utf8_eq, String.toByteArray_append, ByteArray.toList_data_append]

lemma utf8_inj {s t : String} (h : utf8 s = utf8 t) : s = t := by
  rw [utf8_eq, utf8_eq, Array.toList_inj] at h
  exact String.toByteArray_inj.1 (ByteArray.ext h)

/-! ### Reading -/

section Lossy

variable {b : UInt8} {bytes : List UInt8} {n bits low high : ℕ}

lemma lossy_ascii (h : b.toNat < 0x80) :
    lossy none (b :: bytes) = .ofNat b.toNat :: lossy none bytes := by
  rw [lossy]
  exact if_pos h

lemma lossy_lead {p : ℕ × ℕ × ℕ × ℕ} (h : 0x80 ≤ b.toNat) (hlead : lead? b.toNat = some p) :
    lossy none (b :: bytes) = lossy (some p) bytes := by
  rw [lossy]
  dsimp only
  rw [if_neg (Nat.not_lt.2 h), hlead]
  rfl

lemma lossy_more (h : low ≤ b.toNat ∧ b.toNat ≤ high) :
    lossy (some (n + 2, bits, low, high)) (b :: bytes) =
      lossy (some (n + 1, bits * 64 + b.toNat % 64, 0x80, 0xBF)) bytes := by
  rw [lossy]
  dsimp only
  rw [if_pos h, if_neg (by omega)]
  rfl

lemma lossy_last (h : low ≤ b.toNat ∧ b.toNat ≤ high) :
    lossy (some (1, bits, low, high)) (b :: bytes) =
      .ofNat (bits * 64 + b.toNat % 64) :: lossy none bytes := by
  rw [lossy]
  dsimp only
  rw [if_pos h, if_pos rfl]

end Lossy

lemma lead?_two {k : ℕ} (h : 2 ≤ k) (hk : k < 32) : lead? (k + 192) = some (1, k, 0x80, 0xBF) := by
  interval_cases k <;> rfl

lemma lead?_three {k : ℕ} (hk : k < 16) : lead? (k + 224) =
    some (2, k, if k = 0 then 0xA0 else 0x80, if k = 13 then 0x9F else 0xBF) := by
  interval_cases k <;> rfl

lemma lead?_four {k : ℕ} (hk : k < 5) : lead? (k + 240) =
    some (3, k, if k = 0 then 0x90 else 0x80, if k = 4 then 0x8F else 0xBF) := by
  interval_cases k <;> rfl

lemma toNat_ofNat_of_lt {n : ℕ} (h : n < 256) : (UInt8.ofNat n).toNat = n := by
  rw [UInt8.toNat_ofNat']
  exact Nat.mod_eq_of_lt h

/-- The bytes of a character are read as the character. -/
lemma lossy_utf8EncodeChar (c : Char) (rest : List UInt8) :
    lossy none (String.utf8EncodeChar c ++ rest) = c :: lossy none rest := by
  have hc : Char.ofNat c.val.toNat = c := Char.ofNat_toNat c
  have hmax : c.val.toNat < 0xD800 ∨ 0xDFFF < c.val.toNat ∧ c.val.toNat < 0x110000 := c.valid
  unfold String.utf8EncodeChar
  dsimp only
  generalize c.val.toNat = v at hc hmax ⊢
  subst hc
  have hlast : (UInt8.ofNat (v % 64 + 128)).toNat = v % 64 + 128 := toNat_ofNat_of_lt (by omega)
  have hmiddle : (UInt8.ofNat (v / 64 % 64 + 128)).toNat = v / 64 % 64 + 128 :=
    toNat_ofNat_of_lt (by omega)
  split
  · have hone : (UInt8.ofNat v).toNat = v := toNat_ofNat_of_lt (by omega)
    rw [List.singleton_append, lossy_ascii (by omega), hone]
  · split
    · have hfirst : (UInt8.ofNat (v / 64 % 32 + 192)).toNat = v / 64 % 32 + 192 :=
        toNat_ofNat_of_lt (by omega)
      rw [List.cons_append, List.singleton_append, lossy_lead (by omega)
        (hfirst ▸ lead?_two (by omega) (by omega)), lossy_last (by omega), hlast]
      congr 2
      omega
    · split
      · have hfirst : (UInt8.ofNat (v / 4096 % 16 + 224)).toNat = v / 4096 % 16 + 224 :=
          toNat_ofNat_of_lt (by omega)
        rw [List.cons_append, List.cons_append, List.singleton_append, lossy_lead (by omega)
          (hfirst ▸ lead?_three (by omega)), lossy_more (by split <;> split <;> omega),
          lossy_last (by omega), hmiddle, hlast]
        congr 2
        omega
      · have hfirst : (UInt8.ofNat (v / 262144 % 8 + 240)).toNat = v / 262144 % 8 + 240 :=
          toNat_ofNat_of_lt (by omega)
        have hsecond : (UInt8.ofNat (v / 4096 % 64 + 128)).toNat = v / 4096 % 64 + 128 :=
          toNat_ofNat_of_lt (by omega)
        rw [List.cons_append, List.cons_append, List.cons_append, List.singleton_append,
          lossy_lead (by omega) (hfirst ▸ lead?_four (by omega)),
          lossy_more (by split <;> split <;> omega), lossy_more (by omega), lossy_last (by omega),
          hsecond, hmiddle, hlast]
        congr 2
        omega

lemma utf8_ofList (cs : List Char) : utf8 (.ofList cs) = cs.flatMap String.utf8EncodeChar := by
  rw [utf8_eq, String.toByteArray_ofList, List.utf8Encode]
  simp

/-- The bytes of a text are read as the text. -/
lemma lossy_utf8 (s : String) : lossy none (utf8 s) = s.toList := by
  have hlist (cs : List Char) : lossy none (cs.flatMap String.utf8EncodeChar) = cs := by
    induction cs with
    | nil => rfl
    | cons c cs ih => rw [List.flatMap_cons, lossy_utf8EncodeChar, ih]
  have hs := hlist s.toList
  rwa [← utf8_ofList, String.ofList_toList] at hs

lemma ofUtf8?_utf8 (s : String) : ofUtf8? (utf8 s) = some s := by
  rw [ofUtf8?, lossy_utf8, String.ofList_toList]
  exact if_pos rfl

end VisualTemplate.Text
