import VisualTemplate.Proofs.Color.Channels
import VisualTemplate.Proofs.Color.Spelling
import VisualTemplate.Proofs.Decimal.Reread
/-!
The normal form of a colour writes that colour, and tells it from every other.

An opaque colour is written with six hexadecimal digits. Of other colours the channels are whole
numbers and come back as they are; the share of alpha is read back from its text too, and three
places are enough to tell 256 shares apart. So texts in whatever notation share a normal form just if
they write the same colour.
-/

namespace VisualTemplate.Color

/-! ### Digits -/

lemma digits_hexByte (n : UInt8) :
    Digits (Nat.digitChar (n.toNat / 16)) (Nat.digitChar (n.toNat % 16)) n := by
  have hn := n.toNat_lt
  have hvalue : ∀ k < 16, Text.hexValue? (Nat.digitChar k) = some k := by decide
  exact ⟨_, _, hvalue _ (by omega), hvalue _ (by omega), by omega⟩

lemma spells_css_of_isOpaque {c : Color} (h : c.isOpaque = true) :
    Spells (c.css.toList.map Char.toLower) c := by
  have hcss : c.css.toList = '#' :: (hexByte c.r ++ (hexByte c.g ++ hexByte c.b)) := by
    simp [css, h]
  have ha : c.a = 255 := by simpa [isOpaque] using h
  have hsix : Hex (hexByte c.r ++ (hexByte c.g ++ hexByte c.b)) ⟨c.r, c.g, c.b, 255⟩ :=
    .six (digits_hexByte _) (digits_hexByte _) (digits_hexByte _)
  rw [← ha] at hsix
  rw [hcss]
  exact .hex (hex_toLower_iff.2 hsix)

/-! ### Numbers -/

lemma isNumeralChar_of_isNumberChar {c : Char} (h : Decimal.isNumberChar c = true) :
    Decimal.isNumeralChar c = true := by
  simp only [Decimal.isNumberChar, Bool.or_eq_true, beq_iff_eq] at h
  rcases h with (((h | rfl) | rfl) | rfl) | rfl
  · exact Decimal.isNumeralChar_of_isDigit h
  all_goals decide

/-- A text of the characters of numbers. -/
structure IsNumber (s : String) : Prop where
  ne_nil : s.toList ≠ []
  chars : ∀ c ∈ s.toList, Decimal.isNumberChar c = true

namespace IsNumber

variable {s : String}

lemma toString_nat (n : ℕ) : IsNumber (toString n) :=
  ⟨Decimal.digitsOf_ne_nil n, fun _ hc => Decimal.isNumberChar_of_mem_digitsOf hc⟩

lemma lower (h : IsNumber s) : s.toList.map Char.toLower = s.toList :=
  Decimal.map_toLower_of_isNumberChar h.chars

lemma notFiller (h : IsNumber s) : ∀ c ∈ s.toList, Text.isFiller isSeparator c = false :=
  fun c hc => isFiller_of_isNumeralChar (isNumeralChar_of_isNumberChar (h.chars c hc))

end IsNumber

/-- The number of a channel is read back as that channel. -/
lemma channel_toString (n : UInt8) : Channel (toString n.toNat).toList n := by
  have hle : n.toNat ≤ 255 := Nat.le_of_lt_succ n.toNat_lt
  obtain ⟨x, hread, hx⟩ := Float32.ofText?_repr (n := n.toNat) (by omega)
  rw [← String.ofList_toList (s := n.toNat.repr)] at hread
  refine ⟨x, hread, UInt8.toNat_inj.1 ?_⟩
  rw [toNat_channel hx, min_eq_left (mod_cast hle), Float32.nearestWhole_natCast]

/-- The share of alpha is read back as that alpha. -/
lemma alpha_plain (a : UInt8) :
    IsNumber (alphaShare a).plain ∧ Alpha (alphaShare a).plain.toList a := by
  obtain ⟨n, m, e, hx⟩ := (is_alphaShare a).exists_binary
  have hread := Float32.ofText?_plain hx
  refine ⟨?_, ?_⟩
  · obtain ⟨hne, hchars⟩ := Decimal.chars_text_finite .plain (w := .single) n m e
    rw [← hx, ← Float32.plain] at hne hchars
    exact ⟨hne, hchars⟩
  · rw [← String.ofList_toList (s := (alphaShare a).plain)] at hread
    have halpha := Alpha.share hread
    rwa [share_alphaShare] at halpha

/-- Numbers with commas between them are listed one by one. -/
lemma listed_numbers {r g b a : String} (hr : IsNumber r) (hg : IsNumber g) (hb : IsNumber b)
    (ha : IsNumber a) : Text.Listed isSeparator
      (r.toList ++ ',' :: (g.toList ++ ',' :: (b.toList ++ ',' :: a.toList)))
      [r.toList, g.toList, b.toList, a.toList] := by
  have hcomma : isSeparator ',' = true := by decide
  have halpha : Text.Listed isSeparator a.toList [a.toList] := by
    simpa using Text.Listed.last ha.ne_nil ha.notFiller (List.forall_mem_nil _)
  exact .piece hr.ne_nil hr.notFiller (List.forall_mem_nil _) hcomma
    (.piece hg.ne_nil hg.notFiller (List.forall_mem_nil _) hcomma
      (.piece hb.ne_nil hb.notFiller (List.forall_mem_nil _) hcomma halpha))

lemma spells_css_translucent {c : Color} (h : c.isOpaque = false) :
    Spells (c.css.toList.map Char.toLower) c := by
  obtain ⟨hnumber, halpha⟩ := alpha_plain c.a
  have hcss : c.css.toList = "rgba(".toList ++ (((toString c.r.toNat).toList ++ ',' ::
      ((toString c.g.toNat).toList ++ ',' :: ((toString c.b.toNat).toList ++ ',' ::
        (alphaShare c.a).plain.toList))) ++ [')']) := by
    have hself (s : String) : toString s = s := rfl
    simp [css, h, hself]
  have hsmall : c.css.toList.map Char.toLower = c.css.toList := by
    have hcomma : Char.toLower ',' = ',' := by decide
    have hclose : Char.toLower ')' = ')' := by decide
    have hname : "rgba(".toList.map Char.toLower = "rgba(".toList := by decide
    simp only [hcss, List.map_append, List.map_cons, List.map_nil, hname, hcomma, hclose,
      (IsNumber.toString_nat _).lower, hnumber.lower]
  rw [hsmall, hcss]
  exact .call (.inr rfl)
    (listed_numbers (.toString_nat _) (.toString_nat _) (.toString_nat _) hnumber)
    (.four (channel_toString c.r) (channel_toString c.g) (channel_toString c.b) halpha)

/-! ### Normal forms -/

/-- The normal form of a colour is one of its spellings. -/
lemma written_css (c : Color) : Written c.css c := by
  have hspells : Spells (c.css.toList.map Char.toLower) c := by
    cases h : c.isOpaque with
    | true => exact spells_css_of_isOpaque h
    | false => exact spells_css_translucent h
  exact ⟨[], c.css.toList, [], by simp, by simp, by simp, hspells⟩

/-- **The normal form of a colour writes that colour.** -/
theorem ofText?_css (c : Color) : ofText? c.css = some c := ofText?_eq_some_iff.2 (written_css c)

/-- Colours with one normal form are the same. -/
lemma css_inj {c d : Color} (h : c.css = d.css) : c = d := by
  have hc := ofText?_css c
  rw [h, ofText?_css d] at hc
  exact (Option.some.inj hc).symm

lemma normalize?_eq {text : String} {c : Color} (h : ofText? text = some c) :
    normalize? text = some c.css := by
  rw [normalize?, h, Option.map_some]

lemma normalize?_css (c : Color) : normalize? c.css = some c.css := normalize?_eq (ofText?_css c)

/-- **Normal forms tell colours apart.** A text is a colour just if it is written in one of the
notations, and then its normal form is read as that colour and is its own normal form. Two texts of
colours, in whatever notation, have one normal form just if they are the same colour. -/
theorem normalize_identifies :
    (∀ text c, ofText? text = some c ↔ Written text c) ∧
    (∀ text c, ofText? text = some c → ∃ normal, normalize? text = some normal ∧
      ofText? normal = some c ∧ normalize? normal = some normal) ∧
    (∀ text, (normalize? text).bind normalize? = normalize? text) ∧
    (∀ text text' c c', ofText? text = some c → ofText? text' = some c' →
      (normalize? text = normalize? text' ↔ c = c')) := by
  refine ⟨fun text c => ofText?_eq_some_iff,
    fun text c h => ⟨c.css, normalize?_eq h, ofText?_css c, normalize?_css c⟩,
    fun text => ?idempotent, fun text text' c c' h h' => ?apart⟩
  case idempotent =>
    cases h : ofText? text with
    | none =>
      rw [normalize?, h]
      rfl
    | some c => rw [normalize?_eq h, Option.bind_some, normalize?_css]
  case apart =>
    rw [normalize?_eq h, normalize?_eq h', Option.some.injEq]
    exact ⟨css_inj, congrArg css⟩

theorem normalize_identifies_sky :
    ofText? "#3D9DFF80" = some ⟨61, 157, 255, 128⟩ ∧
      ofText? " RGBA(61 157,255 / 50.2%)" = some ⟨61, 157, 255, 128⟩ ∧
      ofText? "#3d9dff81" = some ⟨61, 157, 255, 129⟩ ∧
      Written " RGBA(61 157,255 / 50.2%)" ⟨61, 157, 255, 128⟩ ∧
      (∃ normal, normalize? "#3D9DFF80" = some normal ∧
        ofText? normal = some ⟨61, 157, 255, 128⟩ ∧ normalize? normal = some normal) ∧
      normalize? "#3D9DFF80" = normalize? " RGBA(61 157,255 / 50.2%)" ∧
      normalize? "#3D9DFF80" ≠ normalize? "#3d9dff81" := by
  have hhex : ofText? "#3D9DFF80" = some ⟨61, 157, 255, 128⟩ := by decide +kernel
  have hcall : ofText? " RGBA(61 157,255 / 50.2%)" = some ⟨61, 157, 255, 128⟩ := by
    decide +kernel
  have hother : ofText? "#3d9dff81" = some ⟨61, 157, 255, 129⟩ := by decide +kernel
  obtain ⟨hwritten, hnormal, -, hsame⟩ := normalize_identifies
  refine ⟨hhex, hcall, hother, (hwritten _ _).1 hcall, hnormal _ _ hhex,
    (hsame _ _ _ _ hhex hcall).2 rfl, fun heq => ?_⟩
  exact absurd ((hsame _ _ _ _ hhex hother).1 heq) (by decide)

end VisualTemplate.Color
