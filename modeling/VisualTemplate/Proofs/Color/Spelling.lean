import VisualTemplate.Color
import VisualTemplate.Proofs.Decimal.Numerals
import VisualTemplate.Proofs.Text.Fields
import VisualTemplate.Proofs.Text.Listed
/-!
The notations of colours.

A colour is written with 3, 4, 6 or 8 hexadecimal digits behind `#`, or with three or four numbers
in brackets behind a name, with any separators and blanks between them; either way in capital or
small letters and with blanks around it. A text is read just if it is written like that, and then as
the colour that it writes.
-/

namespace VisualTemplate.Color

/-! ### Spellings -/

/-- Two hexadecimal digits write this byte. -/
def Digits (d d' : Char) (n : UInt8) : Prop :=
  ∃ v v', Text.hexValue? d = some v ∧ Text.hexValue? d' = some v' ∧ n.toNat = 16 * v + v'

/-- Two digits for each channel, or one that stands for two equal ones; three channels, or four with
alpha. -/
inductive Hex : List Char → Color → Prop where
  | three {x y z : Char} {r g b : UInt8} : Digits x x r → Digits y y g → Digits z z b →
      Hex [x, y, z] ⟨r, g, b, 255⟩
  | four {x y z w : Char} {r g b a : UInt8} : Digits x x r → Digits y y g → Digits z z b →
      Digits w w a → Hex [x, y, z, w] ⟨r, g, b, a⟩
  | six {x x' y y' z z' : Char} {r g b : UInt8} : Digits x x' r → Digits y y' g → Digits z z' b →
      Hex [x, x', y, y', z, z'] ⟨r, g, b, 255⟩
  | eight {x x' y y' z z' w w' : Char} {r g b a : UInt8} : Digits x x' r → Digits y y' g →
      Digits z z' b → Digits w w' a → Hex [x, x', y, y', z, z', w, w'] ⟨r, g, b, a⟩

/-- The byte next to a number. -/
def Channel (cs : List Char) (n : UInt8) : Prop :=
  ∃ x, Float32.ofText? (.ofList cs) = some x ∧ channel x = n

/-- Alpha is a share of one, or of a hundred with a percent sign. -/
inductive Alpha : List Char → UInt8 → Prop where
  | share {cs : List Char} {x : Float32} : Float32.ofText? (.ofList cs) = some x →
      Alpha cs (share x)
  | percent {cs : List Char} {x : Float32} : Float32.ofText? (.ofList cs) = some x →
      Alpha (cs ++ ['%']) (share (x / 100))

/-- The numbers of a colour. -/
inductive Arguments : List (List Char) → Color → Prop where
  | three {x y z : List Char} {r g b : UInt8} : Channel x r → Channel y g → Channel z b →
      Arguments [x, y, z] ⟨r, g, b, 255⟩
  | four {x y z w : List Char} {r g b a : UInt8} : Channel x r → Channel y g → Channel z b →
      Alpha w a → Arguments [x, y, z, w] ⟨r, g, b, a⟩

/-- The notations of colours in small letters: digits behind `#`, or numbers in brackets behind
either name, with or without alpha. -/
inductive Spells : List Char → Color → Prop where
  | hex {ds : List Char} {c : Color} : Hex ds c → Spells ('#' :: ds) c
  | call {name : String} {inner : List Char} {ss : List (List Char)} {c : Color} :
      name = "rgb(" ∨ name = "rgba(" → Text.Listed isSeparator inner ss → Arguments ss c →
      Spells (name.toList ++ (inner ++ [')'])) c

/-- The text writes the colour, in capital or small letters, with blanks around it. -/
def Written (text : String) (c : Color) : Prop :=
  ∃ front body back, text.toList = front ++ (body ++ back) ∧
    (∀ x ∈ front, Text.isBlank x = true) ∧ (∀ x ∈ back, Text.isBlank x = true) ∧
    Spells (body.map Char.toLower) c

/-! ### Digits -/

lemma digits_iff {d d' : Char} {n : UInt8} : Digits d d' n ↔
    ∃ v v', hexDigit? d = some v ∧ hexDigit? d' = some v' ∧ v * 16 + v' = n := by
  have hbyte {v v' : ℕ} (hv : v < 16) (hv' : v' < 16) :
      (v.toUInt8 * 16 + v'.toUInt8).toNat = 16 * v + v' := by
    simp only [UInt8.toNat_add, UInt8.toNat_mul, Nat.toUInt8, UInt8.toNat_ofNat',
      UInt8.reduceToNat]
    omega
  constructor
  · rintro ⟨v, v', hd, hd', hn⟩
    refine ⟨v.toUInt8, v'.toUInt8, by rw [hexDigit?, hd]; rfl, by rw [hexDigit?, hd']; rfl, ?_⟩
    rw [← UInt8.toNat_inj, hn, hbyte (Text.hexValue?_lt hd) (Text.hexValue?_lt hd')]
  · rintro ⟨u, u', hd, hd', rfl⟩
    obtain ⟨v, hv, rfl⟩ := Option.map_eq_some_iff.1 hd
    obtain ⟨v', hv', rfl⟩ := Option.map_eq_some_iff.1 hd'
    exact ⟨v, v', hv, hv', hbyte (Text.hexValue?_lt hv) (Text.hexValue?_lt hv')⟩

lemma digits_of_hexDigit? {d d' : Char} {v v' : UInt8} (hd : hexDigit? d = some v)
    (hd' : hexDigit? d' = some v') : Digits d d' (v * 16 + v') :=
  digits_iff.2 ⟨v, v', hd, hd', rfl⟩

lemma digits_self_iff {d : Char} {n : UInt8} :
    Digits d d n ↔ ∃ v, hexDigit? d = some v ∧ v * 17 = n := by
  have htwice (v : UInt8) : v * 17 = v * 16 + v := by
    rw [← UInt8.toNat_inj]
    simp only [UInt8.toNat_add, UInt8.toNat_mul, UInt8.reduceToNat]
    omega
  rw [digits_iff]
  constructor
  · rintro ⟨v, v', hv, hv', rfl⟩
    obtain rfl : v = v' := Option.some.inj (hv.symm.trans hv')
    exact ⟨v, hv, htwice v⟩
  · rintro ⟨v, hv, rfl⟩
    exact ⟨v, v, hv, hv, (htwice v).symm⟩

/-- Digits are read as the colour that they write. -/
lemma ofHex?_eq_some_iff {ds : List Char} {c : Color} :
    (ds.mapM hexDigit?).bind ofHex? = some c ↔ Hex ds c := by
  simp only [Option.bind_eq_some_iff, Text.mapM_eq_some_iff]
  constructor
  · rintro ⟨vs, hvs, hc⟩
    unfold ofHex? at hc
    split at hc
    · obtain _ | ⟨hx, _ | ⟨hy, _ | ⟨hz, ⟨⟩⟩⟩⟩ := hvs
      obtain rfl := Option.some.inj hc
      exact .three (digits_self_iff.2 ⟨_, hx, rfl⟩) (digits_self_iff.2 ⟨_, hy, rfl⟩)
        (digits_self_iff.2 ⟨_, hz, rfl⟩)
    · obtain _ | ⟨hx, _ | ⟨hy, _ | ⟨hz, _ | ⟨hw, ⟨⟩⟩⟩⟩⟩ := hvs
      obtain rfl := Option.some.inj hc
      exact .four (digits_self_iff.2 ⟨_, hx, rfl⟩) (digits_self_iff.2 ⟨_, hy, rfl⟩)
        (digits_self_iff.2 ⟨_, hz, rfl⟩) (digits_self_iff.2 ⟨_, hw, rfl⟩)
    · obtain _ | ⟨hx, _ | ⟨hx', _ | ⟨hy, _ | ⟨hy', _ | ⟨hz, _ | ⟨hz', ⟨⟩⟩⟩⟩⟩⟩⟩ := hvs
      obtain rfl := Option.some.inj hc
      exact .six (digits_of_hexDigit? hx hx') (digits_of_hexDigit? hy hy')
        (digits_of_hexDigit? hz hz')
    · obtain _ | ⟨hx, _ | ⟨hx', _ | ⟨hy, _ | ⟨hy', _ | ⟨hz, _ | ⟨hz', _ | ⟨hw, _ | ⟨hw', ⟨⟩⟩⟩⟩⟩⟩⟩⟩⟩ :=
        hvs
      obtain rfl := Option.some.inj hc
      exact .eight (digits_of_hexDigit? hx hx') (digits_of_hexDigit? hy hy')
        (digits_of_hexDigit? hz hz') (digits_of_hexDigit? hw hw')
    · cases hc
  · intro h
    cases h with
    | three hr hg hb =>
      obtain ⟨r, hx, rfl⟩ := digits_self_iff.1 hr
      obtain ⟨g, hy, rfl⟩ := digits_self_iff.1 hg
      obtain ⟨b, hz, rfl⟩ := digits_self_iff.1 hb
      exact ⟨[r, g, b], by simp [hx, hy, hz], rfl⟩
    | four hr hg hb ha =>
      obtain ⟨r, hx, rfl⟩ := digits_self_iff.1 hr
      obtain ⟨g, hy, rfl⟩ := digits_self_iff.1 hg
      obtain ⟨b, hz, rfl⟩ := digits_self_iff.1 hb
      obtain ⟨a, hw, rfl⟩ := digits_self_iff.1 ha
      exact ⟨[r, g, b, a], by simp [hx, hy, hz, hw], rfl⟩
    | six hr hg hb =>
      obtain ⟨r, r', hx, hx', rfl⟩ := digits_iff.1 hr
      obtain ⟨g, g', hy, hy', rfl⟩ := digits_iff.1 hg
      obtain ⟨b, b', hz, hz', rfl⟩ := digits_iff.1 hb
      exact ⟨[r, r', g, g', b, b'], by simp [hx, hy, hz, hx', hy', hz'], rfl⟩
    | eight hr hg hb ha =>
      obtain ⟨r, r', hx, hx', rfl⟩ := digits_iff.1 hr
      obtain ⟨g, g', hy, hy', rfl⟩ := digits_iff.1 hg
      obtain ⟨b, b', hz, hz', rfl⟩ := digits_iff.1 hb
      obtain ⟨a, a', hw, hw', rfl⟩ := digits_iff.1 ha
      exact ⟨[r, r', g, g', b, b', a, a'], by simp [hx, hy, hz, hw, hx', hy', hz', hw'], rfl⟩

/-! ### Numbers -/

/-- Neither separators nor blanks stand in numbers. -/
lemma isFiller_of_isNumeralChar {c : Char} (h : Decimal.isNumeralChar c = true) :
    Text.isFiller isSeparator c = false := by
  rw [Text.isFiller, Decimal.isBlank_of_isNumeralChar h, Bool.or_false]
  cases hc : isSeparator c with
  | false => rfl
  | true =>
    simp only [isSeparator, Bool.or_eq_true, beq_iff_eq] at hc
    rcases hc with (rfl | rfl) | rfl <;> exact absurd h (by decide)

lemma chars_of_number {cs : List Char} {x : Float32} (h : Float32.ofText? (.ofList cs) = some x) :
    ∀ c ∈ cs, Decimal.isNumeralChar c = true := by
  have hchars := Float32.chars_of_ofText? h
  rwa [String.toList_ofList] at hchars

/-- A share or a percentage is read as the alpha that it writes. -/
lemma alpha?_eq_some_iff {cs : List Char} {a : UInt8} :
    alpha? (.ofList cs) = some a ↔ Alpha cs a := by
  rw [alpha?]
  cases hbefore : (String.ofList cs).before? "%" with
  | some front =>
    rw [String.before?_eq_some_iff, String.toList_ofList] at hbefore
    have hpercent : '%' ∈ cs := by
      rw [hbefore]
      exact List.mem_append_right _ (by decide)
    constructor
    · intro h
      obtain ⟨x, hx, rfl⟩ := Option.map_eq_some_iff.1 h
      rw [hbefore]
      exact .percent (by rwa [String.ofList_toList])
    · rintro (hx | @⟨cs', x, hx⟩)
      · exact absurd (chars_of_number hx _ hpercent) (by decide)
      · obtain rfl : cs' = front.toList := List.append_cancel_right hbefore
        rw [String.ofList_toList] at hx
        simp only [hx, Option.map_some]
  | none =>
    constructor
    · intro h
      obtain ⟨x, hx, rfl⟩ := Option.map_eq_some_iff.1 h
      exact .share hx
    · rintro (hx | @⟨cs', x, hx⟩)
      · simp only [hx, Option.map_some]
      · rw [Option.eq_none_iff_forall_ne_some] at hbefore
        exact absurd (String.before?_eq_some_iff.2 (by simp)) (hbefore (.ofList cs'))

/-- Three or four numbers are read as the colour that they write. -/
lemma ofArguments?_eq_some_iff {ss : List (List Char)} {c : Color} :
    ofArguments? (ss.map .ofList) = some c ↔ Arguments ss c := by
  constructor
  · intro h
    rcases ss with _ | ⟨x, _ | ⟨y, _ | ⟨z, _ | ⟨w, _ | ⟨v, ss⟩⟩⟩⟩⟩
    all_goals simp only [List.map_cons, List.map_nil, ofArguments?, Option.bind_eq_bind,
      Option.bind_eq_some_iff, reduceCtorEq] at h
    · obtain ⟨r, hr, g, hg, b, hb, h⟩ := h
      obtain rfl := Option.some.inj h
      exact .three ⟨r, hr, rfl⟩ ⟨g, hg, rfl⟩ ⟨b, hb, rfl⟩
    · obtain ⟨r, hr, g, hg, b, hb, a, ha, h⟩ := h
      obtain rfl := Option.some.inj h
      exact .four ⟨r, hr, rfl⟩ ⟨g, hg, rfl⟩ ⟨b, hb, rfl⟩ (alpha?_eq_some_iff.1 ha)
  · intro h
    cases h with
    | three hr hg hb =>
      obtain ⟨r, hx, rfl⟩ := hr
      obtain ⟨g, hy, rfl⟩ := hg
      obtain ⟨b, hz, rfl⟩ := hb
      simp [ofArguments?, hx, hy, hz]
    | four hr hg hb ha =>
      obtain ⟨r, hx, rfl⟩ := hr
      obtain ⟨g, hy, rfl⟩ := hg
      obtain ⟨b, hz, rfl⟩ := hb
      simp [ofArguments?, hx, hy, hz, alpha?_eq_some_iff.2 ha]

lemma Arguments.notFiller {ss : List (List Char)} {c : Color} (h : Arguments ss c) :
    ∀ s ∈ ss, ∀ x ∈ s, Text.isFiller isSeparator x = false := by
  have hchannel {s : List Char} {n : UInt8} (hs : Channel s n) :
      ∀ x ∈ s, Text.isFiller isSeparator x = false := by
    obtain ⟨y, hy, -⟩ := hs
    exact fun x hx => isFiller_of_isNumeralChar (chars_of_number hy x hx)
  have halpha {s : List Char} {a : UInt8} (hs : Alpha s a) :
      ∀ x ∈ s, Text.isFiller isSeparator x = false := by
    cases hs with
    | share hy => exact fun x hx => isFiller_of_isNumeralChar (chars_of_number hy x hx)
    | percent hy =>
      refine List.forall_mem_append.2
        ⟨fun x hx => isFiller_of_isNumeralChar (chars_of_number hy x hx), ?_⟩
      rw [List.forall_mem_singleton]
      decide
  cases h with
  | three hr hg hb => simpa using ⟨hchannel hr, hchannel hg, hchannel hb⟩
  | four hr hg hb ha => simpa using ⟨hchannel hr, hchannel hg, hchannel hb, halpha ha⟩

/-! ### Letters in either case -/

lemma hexDigit?_toLower (c : Char) : hexDigit? c.toLower = hexDigit? c := by
  rcases Text.toLower_eq_or c with hsmall | hcapital
  · rw [hsmall]
  · exact Text.of_isUpper (P := fun c => hexDigit? c.toLower = hexDigit? c) (by decide) hcapital

lemma toLower_eq_hash_iff {c : Char} : c.toLower = '#' ↔ c = '#' := by
  rcases Text.toLower_eq_or c with hsmall | hcapital
  · rw [hsmall]
  · exact Text.of_isUpper (P := fun c => c.toLower = '#' ↔ c = '#') (by decide) hcapital

lemma hex_toLower_iff {ds : List Char} {c : Color} : Hex (ds.map Char.toLower) c ↔ Hex ds c := by
  have hdigits : hexDigit? ∘ Char.toLower = hexDigit? := funext hexDigit?_toLower
  rw [← ofHex?_eq_some_iff, ← ofHex?_eq_some_iff, List.mapM_map, hdigits]

/-! ### Texts -/

/-- What follows the name of a functional colour. -/
lemma afterName?_eq_some_iff {s rest : String} :
    ((s.after? "rgba(").orElse fun _ => s.after? "rgb(") = some rest ↔
      ∃ name, (name = "rgb(" ∨ name = "rgba(") ∧ s.toList = name.toList ++ rest.toList := by
  cases halpha : s.after? "rgba(" with
  | some tail =>
    rw [String.after?_eq_some_iff] at halpha
    rw [Option.orElse_some, Option.some.injEq]
    constructor
    · rintro rfl
      exact ⟨_, .inr rfl, halpha⟩
    · rintro ⟨name, rfl | rfl, hname⟩
      · simp [halpha] at hname
      · rw [halpha] at hname
        exact String.toList_inj.1 (List.append_cancel_left hname)
  | none =>
    rw [Option.orElse_none, String.after?_eq_some_iff]
    constructor
    · exact fun hname => ⟨_, .inl rfl, hname⟩
    · rintro ⟨name, rfl | rfl, hname⟩
      · exact hname
      · rw [String.after?_eq_some_iff.2 hname] at halpha
        cases halpha

/-- Numbers behind a name are read as the colour that they write. -/
lemma arguments?_bind_eq_some_iff {s : String} {c : Color} :
    (arguments? s).bind ofArguments? = some c ↔
      ∃ name inner ss, (name = "rgb(" ∨ name = "rgba(") ∧
        s.toList.map Char.toLower = name.toList ++ (inner ++ [')']) ∧
        Text.Listed isSeparator inner ss ∧ Arguments ss c := by
  have hclose : ")".toList = [')'] := rfl
  constructor
  · intro h
    obtain ⟨args, hargs, hc⟩ := Option.bind_eq_some_iff.1 h
    obtain ⟨rest, hrest, hargs⟩ := Option.bind_eq_some_iff.1 hargs
    obtain ⟨inner, hinner, hargs⟩ := Option.bind_eq_some_iff.1 hargs
    obtain ⟨name, hname, hs⟩ := afterName?_eq_some_iff.1 hrest
    obtain rfl := Option.some.inj hargs
    have harguments : Arguments (Text.pieces isSeparator inner.toList) c :=
      ofArguments?_eq_some_iff.1 hc
    rw [String.before?_eq_some_iff, hclose] at hinner
    rw [hinner, String.lowerAscii, String.toList_ofList] at hs
    exact ⟨name, inner.toList, _, hname, hs, Text.listed_pieces _ harguments.notFiller, harguments⟩
  · rintro ⟨name, inner, ss, hname, hs, hlisted, harguments⟩
    have hrest : ((s.lowerAscii.after? "rgba(").orElse fun _ => s.lowerAscii.after? "rgb(") =
        some (.ofList (inner ++ [')'])) :=
      afterName?_eq_some_iff.2 ⟨name, hname, by
        rw [String.lowerAscii, String.toList_ofList, String.toList_ofList, hs]⟩
    have hinner : (String.ofList (inner ++ [')'])).before? ")" = some (.ofList inner) :=
      String.before?_eq_some_iff.2 (by simp)
    have hargs : arguments? s = some (ss.map .ofList) := by
      rw [arguments?]
      simp only [hrest, hinner, Option.bind_eq_bind, Option.bind_some, String.toList_ofList]
      exact congrArg (fun ss => some (ss.map String.ofList)) hlisted.pieces_eq
    rw [hargs]
    exact ofArguments?_eq_some_iff.2 harguments

lemma spells_hash_iff {ds : List Char} {c : Color} : Spells ('#' :: ds) c ↔ Hex ds c := by
  constructor
  · intro h
    generalize hcs : '#' :: ds = cs at h
    cases h with
    | hex h =>
      obtain rfl := (List.cons.inj hcs).2
      exact h
    | call hname _ _ => rcases hname with rfl | rfl <;> simp at hcs
  · exact .hex

/-- A text without blanks at its ends is read as the colour that it spells in small letters. -/
lemma ofText?_eq_some_iff_spells {text : String} {c : Color} :
    ofText? text = some c ↔ Spells (text.trimmed.toList.map Char.toLower) c := by
  have hhash : "#".toList = ['#'] := rfl
  rw [ofText?]
  cases hhex : text.trimmed.after? "#" with
  | some digits =>
    rw [String.after?_eq_some_iff, hhash] at hhex
    have hsmall : (['#'] ++ digits.toList).map Char.toLower =
        '#' :: digits.toList.map Char.toLower := rfl
    rw [hhex, hsmall, spells_hash_iff, hex_toLower_iff]
    exact ofHex?_eq_some_iff
  | none =>
    refine arguments?_bind_eq_some_iff.trans ?_
    constructor
    · rintro ⟨name, inner, ss, hname, hs, hlisted, harguments⟩
      rw [hs]
      exact .call hname hlisted harguments
    · intro h
      generalize hcs : text.trimmed.toList.map Char.toLower = cs at h
      cases h with
      | hex h =>
        obtain ⟨x, ds, htext, hx, -⟩ := List.map_eq_cons_iff.1 hcs
        rw [toLower_eq_hash_iff] at hx
        subst hx
        have hsome : text.trimmed.after? "#" = some (.ofList ds) :=
          String.after?_eq_some_iff.2 (by simp [htext])
        rw [hsome] at hhex
        cases hhex
      | call hname hlisted harguments => exact ⟨_, _, _, hname, rfl, hlisted, harguments⟩

lemma isBlank_of_hexValue? {c : Char} {v : ℕ} (h : Text.hexValue? c = some v) :
    Text.isBlank c = false := by
  refine Text.isBlank_of_isAlphanum ?_
  simp only [Char.isAlphanum, Char.isAlpha, Bool.or_eq_true]
  rw [Text.hexValue?] at h
  split at h
  · next hdigit => exact .inr hdigit
  · split at h
    · next hsmall =>
      have hlower : c.isLower = true := by
        rw [Char.isLower, Bool.and_eq_true, decide_eq_true_eq, decide_eq_true_eq]
        exact ⟨hsmall.1, hsmall.2.trans (by decide : 'f' ≤ 'z')⟩
      exact .inl (.inr hlower)
    · split at h
      · next hcapital =>
        have hupper : c.isUpper = true :=
          decide_eq_true ⟨hcapital.1, hcapital.2.trans (by decide : 'F' ≤ 'Z')⟩
        exact .inl (.inl hupper)
      · cases h

lemma Digits.notBlank {d d' : Char} {n : UInt8} (h : Digits d d' n) : Text.isBlank d' = false := by
  obtain ⟨v, v', -, hd', -⟩ := h
  exact isBlank_of_hexValue? hd'

lemma Hex.last_notBlank {ds : List Char} {c : Color} (h : Hex ds c) :
    ∃ d, ds.getLast? = some d ∧ Text.isBlank d = false := by
  cases h with
  | three _ _ hb => exact ⟨_, rfl, hb.notBlank⟩
  | four _ _ _ ha => exact ⟨_, rfl, ha.notBlank⟩
  | six _ _ hb => exact ⟨_, rfl, hb.notBlank⟩
  | eight _ _ _ ha => exact ⟨_, rfl, ha.notBlank⟩

/-- No spelling begins or ends with a blank. -/
lemma Spells.ends {cs : List Char} {c : Color} (h : Spells cs c) :
    (∀ x ∈ cs.head?, Text.isBlank x = false) ∧ ∀ x ∈ cs.getLast?, Text.isBlank x = false := by
  cases h with
  | hex h =>
    obtain ⟨d, hlast, hd⟩ := h.last_notBlank
    rw [List.getLast?_cons, hlast]
    have hhash : Text.isBlank '#' = false := by decide
    exact ⟨by simpa using hhash, by simpa using hd⟩
  | call hname _ _ =>
    rw [← List.append_assoc, List.getLast?_concat]
    have hfirst : Text.isBlank 'r' = false := by decide
    have hclose : Text.isBlank ')' = false := by decide
    refine ⟨?_, by simpa using hclose⟩
    rcases hname with rfl | rfl <;> simpa using hfirst

lemma Spells.trim_eq {body : List Char} {c : Color} (h : Spells (body.map Char.toLower) c) :
    Text.trim body = body := by
  obtain ⟨hhead, hlast⟩ := h.ends
  rw [List.head?_map] at hhead
  rw [List.getLast?_map] at hlast
  refine Text.trim_of_ends (fun x hx => ?_) fun x hx => ?_
  · rw [← Text.isBlank_toLower]
    exact hhead _ (Option.mem_map_of_mem _ hx)
  · rw [← Text.isBlank_toLower]
    exact hlast _ (Option.mem_map_of_mem _ hx)

/-- **A text is read as the colour that it writes.** -/
theorem ofText?_eq_some_iff {text : String} {c : Color} :
    ofText? text = some c ↔ Written text c := by
  rw [ofText?_eq_some_iff_spells, String.trimmed, String.toList_ofList]
  constructor
  · intro h
    obtain ⟨front, back, hfront, hback, htext⟩ := Text.exists_trim text.toList
    exact ⟨front, _, back, htext, hfront, hback, h⟩
  · rintro ⟨front, body, back, htext, hfront, hback, h⟩
    rwa [htext, Text.trim_append_left hfront, Text.trim_append_right hback, h.trim_eq]

end VisualTemplate.Color
