import Mathlib.Data.List.TakeWhile
import VisualTemplate.Document.Emit
import VisualTemplate.Proofs.Markup.Reading
import VisualTemplate.Proofs.Text.Cut
import VisualTemplate.Proofs.Text.Trim
/-!
Assets that are recorded from their own addresses.

The address of an asset is read at its first comma, and its media type up to the first semicolon. So
an asset comes back from its address just when its media type is not empty and has neither in it.
Whatever payload an asset was recorded from, its media type is of this kind.
-/

namespace VisualTemplate

/-! ### Base 64 -/

namespace Base64

lemma digit_of_ge {n : ℕ} (h : 63 ≤ n) : digit n = '/' := by
  rw [digit, if_neg (by omega), if_neg (by omega), if_neg (by omega), if_neg (by omega)]

lemma value?_digit {n : ℕ} (h : n < 64) : value? (digit n) = some n := by
  have hall : ∀ n < 64, value? (digit n) = some n := by decide
  exact hall n h

lemma digit_ne_pad (n : ℕ) : digit n ≠ '=' := by
  have hsmall : ∀ n < 63, digit n ≠ '=' := by decide
  rcases Nat.lt_or_ge n 63 with hn | hn
  · exact hsmall n hn
  · rw [digit_of_ge hn]
    decide

lemma isBlank_digit (n : ℕ) : Text.isBlank (digit n) = false := by
  have hsmall : ∀ n < 63, Text.isBlank (digit n) = false := by decide
  rcases Nat.lt_or_ge n 63 with hn | hn
  · exact hsmall n hn
  · rw [digit_of_ge hn]
    decide

lemma isBlank_encodeChars (bytes : List UInt8) :
    ∀ c ∈ encodeChars bytes, Text.isBlank c = false := by
  have hpad : Text.isBlank '=' = false := by decide
  fun_induction encodeChars bytes <;> simp_all [isBlank_digit]

/-- A group of four digits stands for three bytes. -/
lemma decodeChars_group {n : ℕ} (h : n < 16777216) (rest : List Char) :
    decodeChars (digit (n / 262144) :: digit (n / 4096 % 64) :: digit (n / 64 % 64) ::
        digit (n % 64) :: rest) =
      (decodeChars rest).map fun more =>
        (n / 65536).toUInt8 :: (n / 256 % 256).toUInt8 :: (n % 256).toUInt8 :: more := by
  have hsum : ((n / 262144 * 64 + n / 4096 % 64) * 64 + n / 64 % 64) * 64 + n % 64 = n := by omega
  rw [decodeChars, value?_digit (by omega), value?_digit (by omega), value?_digit (by omega),
    value?_digit (by omega)]
  · cases hrest : decodeChars rest with
    | none => simp
    | some more => simp [hsum]
  all_goals simp [digit_ne_pad]

/-- **Bytes are read back from their digits.** -/
theorem decodeChars_encodeChars (bytes : List UInt8) :
    decodeChars (encodeChars bytes) = some bytes := by
  fun_induction encodeChars bytes with
  | case1 => rfl
  | case2 a n =>
    have ha : n < 256 := a.toNat_lt
    have hsum : n / 4 * 64 + n % 4 * 16 = n * 16 := by omega
    rw [decodeChars, value?_digit (by omega), value?_digit (by omega)]
    simp only [Option.bind_eq_bind, Option.bind_some, hsum, Nat.mul_mod_left, ↓reduceIte,
      Nat.mul_div_cancel n (show 0 < 16 by decide)]
    exact congrArg (fun b => some [b]) UInt8.ofNat_toNat
  | case3 a b n =>
    have ha : a.toNat < 256 := a.toNat_lt
    have hb : b.toNat < 256 := b.toNat_lt
    have hn : n = a.toNat * 256 + b.toNat := rfl
    have hsum : (n / 1024 * 64 + n / 16 % 64) * 64 + n % 16 * 4 = n * 4 := by omega
    have hfirst : n * 4 / 1024 = a.toNat := by omega
    have hsecond : n * 4 / 4 % 256 = b.toNat := by omega
    rw [decodeChars, value?_digit (by omega), value?_digit (by omega), value?_digit (by omega)]
    · simp only [Option.bind_eq_bind, Option.bind_some, hsum, Nat.mul_mod_left, ↓reduceIte, hfirst,
        hsecond]
      simp
    · simp [digit_ne_pad]
  | case4 a b c rest n ih =>
    have ha : a.toNat < 256 := a.toNat_lt
    have hb : b.toNat < 256 := b.toNat_lt
    have hc : c.toNat < 256 := c.toNat_lt
    have hn : n = (a.toNat * 256 + b.toNat) * 256 + c.toNat := rfl
    have hfirst : n / 65536 = a.toNat := by omega
    have hsecond : n / 256 % 256 = b.toNat := by omega
    have hthird : n % 256 = c.toNat := by omega
    rw [decodeChars_group (by omega), ih, hfirst, hsecond, hthird]
    simp

end Base64

namespace Asset

/-! ### Media types -/

/-- A media type that an address can carry. -/
structure IsPortable (mime : String) : Prop where
  nonempty : mime ≠ ""
  no_comma : ',' ∉ mime.toList
  no_semicolon : ';' ∉ mime.toList

/-- The media types of signatures can be carried. -/
lemma isPortable_sniff (data : List UInt8) : IsPortable (sniff data) := by
  have hwords : ∀ mime ∈ "image/svg+xml" :: "application/octet-stream" :: signatures.map Prod.snd,
      mime ≠ "" ∧ ',' ∉ mime.toList ∧ ';' ∉ mime.toList := by decide
  have hword {mime : String}
      (h : mime ∈ "image/svg+xml" :: "application/octet-stream" :: signatures.map Prod.snd) :
      IsPortable mime :=
    ⟨(hwords mime h).1, (hwords mime h).2.1, (hwords mime h).2.2⟩
  unfold sniff
  split
  · next mime hfind =>
    have hmem := List.mem_map_of_mem (f := Prod.snd) (List.mem_of_find?_eq_some hfind)
    exact hword (List.mem_cons_of_mem _ (List.mem_cons_of_mem _ hmem))
  · split
    · exact hword (by simp)
    · exact hword (by simp)

/-- The data behind the comma of an address: digits if the mark for them stands before it. -/
def dataBehind? (front back : List Char) : Option (List UInt8) :=
  if (Text.before? ";base64".toList front).isSome then Base64.decodeChars back
  else some (bytes (.ofList back))

/-- Data with a media type, which an empty one leaves to be told by the data. -/
def ofTyped (mime : String) (data : List UInt8) : Asset :=
  if mime.isEmpty then ofBytes data else ⟨mime, data⟩

/-- An address is read at its first comma, and its media type up to the first semicolon. -/
lemma ofDataUri_eq_ok_iff {rest : String} {a : Asset} :
    ofDataUri rest = .ok a ↔ ∃ front back data,
      Text.cutAt (· == ',') rest.toList = some (front, back) ∧ dataBehind? front back = some data ∧
      a = ofTyped (.ofList (front.takeWhile (· != ';'))) data := by
  have hread (front back : List Char) (hcut : rest.cutAt ',' = some (.ofList front, .ofList back)) :
      ofDataUri rest = (dataBehind? front back).elim (.error (.importing .invalidDataUriPayload))
        fun data => .ok (ofTyped (.ofList (front.takeWhile (· != ';'))) data) := by
    unfold ofDataUri dataBehind? Base64.decode?
    simp only [hcut, String.before?, String.toList_ofList, Option.isSome_map, Text.headD_splitOn]
    split
    · cases Base64.decodeChars back <;> rfl
    · rfl
  cases hcut : Text.cutAt (· == ',') rest.toList with
  | none => simp [ofDataUri, String.cutAt, hcut]
  | some cut =>
    obtain ⟨front, back⟩ := cut
    rw [hread front back (by rw [String.cutAt, hcut, Option.map_some])]
    cases hdata : dataBehind? front back with
    | none => simp [hdata]
    | some data => simp [hdata, eq_comm]

/-- What stands before the comma and the first semicolon of an address can be carried. -/
lemma isPortable_ofDataUri {rest : String} {a : Asset} (h : ofDataUri rest = .ok a) :
    IsPortable a.mime := by
  obtain ⟨front, back, data, hcut, -, rfl⟩ := ofDataUri_eq_ok_iff.1 h
  unfold ofTyped
  split
  · exact isPortable_sniff data
  · next hmime =>
    refine ⟨fun hempty => hmime (String.isEmpty_iff.2 hempty), fun hc => ?_, fun hc => ?_⟩
    · rw [String.toList_ofList] at hc
      have hcomma := (Text.append_of_cutAt hcut).1 _ (List.takeWhile_subset _ hc)
      simp at hcomma
    · rw [String.toList_ofList] at hc
      simpa using List.mem_takeWhile_imp hc

/-- The media type of what a payload holds can be carried. -/
lemma isPortable_ofPayload {payload : String} {a : Asset} (h : ofPayload payload = .ok a) :
    IsPortable a.mime := by
  have hmarkup : IsPortable "image/svg+xml" := ⟨by decide, by decide, by decide⟩
  unfold ofPayload at h
  dsimp only at h
  split at h
  · exact isPortable_ofDataUri h
  · split at h
    · rw [← Except.ok.inj h]
      exact hmarkup
    · split at h
      · rw [← Except.ok.inj h]
        exact isPortable_sniff _
      · cases h

/-! ### Addresses -/

lemma toList_dataUri (a : Asset) : a.dataUri.toList =
    "data:".toList ++ (a.mime.toList ++ ";base64".toList ++ ',' ::
      Base64.encodeChars a.data) := by
  have hmark : ";base64,".toList = ";base64".toList ++ [','] := by simp
  show ("data:" ++ a.mime ++ ";base64," ++ Base64.encode a.data).toList = _
  simp only [String.toList_append, hmark, Base64.encode, String.toList_ofList, List.append_assoc,
    List.singleton_append]

/-- An address has no blank at its ends. -/
lemma trimmed_dataUri (a : Asset) : a.dataUri.trimmed = a.dataUri := by
  have hlast : ∀ c ∈ a.dataUri.toList.getLast?, Text.isBlank c = false := by
    intro c hc
    have hback : c ∈ ',' :: Base64.encodeChars a.data := by
      rw [toList_dataUri, ← List.append_assoc, List.getLast?_append,
        List.getLast?_eq_some_getLast (List.cons_ne_nil _ _), Option.some_or,
        Option.mem_some_iff] at hc
      exact hc ▸ List.getLast_mem _
    rcases List.mem_cons.1 hback with rfl | hc
    · decide
    · exact Base64.isBlank_encodeChars _ c hc
  have hhead : ∀ c ∈ a.dataUri.toList.head?, Text.isBlank c = false := by
    intro c hc
    have hfirst : a.dataUri.toList.head? = some 'd' := by
      rw [toList_dataUri]
      rfl
    rw [← Option.some.inj (hfirst.symm.trans hc)]
    decide
  rw [String.trimmed, Text.trim_of_ends hhead hlast, String.ofList_toList]

/-- An asset is read back from its address if its media type can be carried. -/
lemma ofPayload_of_isPortable {a : Asset} (h : IsPortable a.mime) :
    ofPayload a.dataUri = .ok a := by
  have hafter : a.dataUri.after? "data:" =
      some (.ofList (a.mime.toList ++ ";base64".toList ++ ',' :: Base64.encodeChars a.data)) := by
    rw [String.after?, toList_dataUri, Text.after?_append, Option.map_some]
  have hcomma : ∀ c ∈ a.mime.toList ++ ";base64".toList, (c == ',') = false := by
    intro c hc
    rw [beq_eq_false_iff_ne]
    rintro rfl
    rcases List.mem_append.1 hc with hc | hc
    · exact h.no_comma hc
    · exact absurd hc (by decide)
  have hmime : (a.mime.toList ++ ";base64".toList).takeWhile (· != ';') = a.mime.toList := by
    have hall : ∀ c ∈ a.mime.toList, (c != ';') = true := by
      intro c hc
      rw [bne_iff_ne]
      rintro rfl
      exact h.no_semicolon hc
    rw [List.takeWhile_append_of_pos hall]
    simp
  have hnonempty : ¬ a.mime.isEmpty = true := fun hempty =>
    h.nonempty (String.isEmpty_iff.1 hempty)
  have huri : ofPayload a.dataUri = ofDataUri
      (.ofList (a.mime.toList ++ ";base64".toList ++ ',' :: Base64.encodeChars a.data)) := by
    simp only [ofPayload, trimmed_dataUri, hafter]
  have hcut : Text.cutAt (· == ',')
      (String.ofList (a.mime.toList ++ ";base64".toList ++ ',' ::
        Base64.encodeChars a.data)).toList =
      some (a.mime.toList ++ ";base64".toList, Base64.encodeChars a.data) := by
    rw [String.toList_ofList, Text.cutAt_append hcomma rfl]
  rw [huri]
  refine ofDataUri_eq_ok_iff.2 ⟨_, _, a.data, hcut, ?_, ?_⟩
  · rw [dataBehind?, Text.before?_append, Option.isSome_some, if_pos rfl,
      Base64.decodeChars_encodeChars]
  · rw [hmime, String.ofList_toList, ofTyped, if_neg hnonempty]

/-! ### Recorded payloads -/

/-- A recorded payload is inlined where its key is referred to. -/
lemma inlined_of_recorded {c : Document.Context} {key : String} {a : Asset}
    (h : c.assets key = some a) (hkey : key.after? "data:" = none) (head : Head) :
    Document.inlined c head key = (a.dataUri, []) := by
  simp [Document.inlined, hkey, h]

/-- **Assets come back from their addresses.** What a payload or bytes were read as is read again
from its address, which is the case just for assets with a media type that an address can carry. So
a payload that is recorded under a key, written into an attribute of a document in place of the key,
and recorded again from there is the same asset. -/
theorem ofPayload_dataUri :
    (∀ payload a, ofPayload payload = .ok a → ofPayload a.dataUri = .ok a) ∧
    (∀ data, ofPayload (ofBytes data).dataUri = .ok (ofBytes data)) ∧
    (∀ a : Asset, ofPayload a.dataUri = .ok a ↔ IsPortable a.mime) ∧
    ∀ (before : Assets) key payload (after : Assets), before.insertPayload key payload = .ok after →
      ∃ a, ofPayload payload = .ok a ∧ after.get? key = some a ∧
        ∀ (c : Document.Context) (h : Head) (others : Assets) other, c.assets = after.get? →
          key.after? "data:" = none →
          others.insertPayload other (.ofList (Document.unescape
            (Document.escapeAttribute (Document.inlined c h key).1).toList)) =
            .ok (others.insert other a) := by
  have hstable {payload : String} {a : Asset} (h : ofPayload payload = .ok a) :
      ofPayload a.dataUri = .ok a := ofPayload_of_isPortable (isPortable_ofPayload h)
  refine ⟨fun payload a => hstable, fun data => ofPayload_of_isPortable (isPortable_sniff data),
    fun a => ⟨isPortable_ofPayload, ofPayload_of_isPortable⟩, fun before key payload after h => ?_⟩
  obtain ⟨a, ha, hafter⟩ := Except.bind_eq_ok_iff.1 h
  obtain rfl := Except.ok.inj hafter
  have hget : (before.insert key a).get? key = some a := by rw [Table.get?_insert, if_pos rfl]
  refine ⟨a, ha, hget, fun c head others other hc hkey => ?_⟩
  rw [inlined_of_recorded (by rw [hc, hget]) hkey, Document.escapeAttribute, String.toList_ofList,
    Document.unescape_flatMap_attributeChar, String.ofList_toList, Assets.insertPayload, hstable ha]
  rfl

/-- The address of a photo with blanks around it and a parameter. -/
def photoPayload : String := " data:image/png;name=a;base64,AQI=\n"

theorem ofPayload_dataUri_photo :
    ∃ after a, Assets.insertPayload .empty "photo" photoPayload = .ok after ∧
      after.get? "photo" = some a ∧ a.mime = "image/png" ∧ ofPayload a.dataUri = .ok a ∧
      ∀ (c : Document.Context) (h : Head), c.assets = after.get? →
        after.insertPayload "copy" (.ofList (Document.unescape
          (Document.escapeAttribute (Document.inlined c h "photo").1).toList)) =
          .ok (after.insert "copy" a) := by
  have hread : ofPayload photoPayload = .ok ⟨"image/png", [1, 2]⟩ := by decide +kernel
  have hrecorded : Assets.insertPayload .empty "photo" photoPayload =
      .ok (Table.empty.insert "photo" ⟨"image/png", [1, 2]⟩) := by
    rw [Assets.insertPayload, hread]
    rfl
  obtain ⟨hpayload, -, -, hagain⟩ := ofPayload_dataUri
  obtain ⟨a, ha, hget, hcopy⟩ := hagain _ _ _ _ hrecorded
  have hmime : a.mime = "image/png" := by
    rw [hread] at ha
    rw [← Except.ok.inj ha]
  exact ⟨_, a, hrecorded, hget, hmime, hpayload _ _ ha,
    fun c h hc => hcopy c h _ "copy" hc (by decide +kernel)⟩

end Asset

end VisualTemplate
