import VisualTemplate.Proofs.Color.Channels
import VisualTemplate.Proofs.Fill.Chains
/-!
Derived tokens are never darker than what they derive from.

A channel that is lightened goes through seven rounded operations. Each of them keeps the order of
numbers, so a larger percentage never gives a smaller channel; nothing is added for a percentage of
zero, and all that is missing for a hundred. What holds of one step holds along a whole chain.
-/

namespace VisualTemplate

open Decimal Float32

namespace Color

/-! ### One channel -/

/-- What becomes of a channel for a share of the way to 255. -/
def lightened (c : ℕ) (x : ℚ) : ℕ :=
  nearestWhole (min (nearestWhole (rounded (c + rounded (rounded (255 - c) * x)))) 255)

variable {p : Float32} {x y : ℚ} {c : UInt8}

lemma is_100 : (100 : Float32).Is 100 :=
  is_of_unpack (100 * 2 ^ 17) (-17) (by norm_num) rfl (by norm_num)

lemma toNat_lightenChannel (hp : p.Is x) (hx : x ≤ 1) (c : UInt8) :
    (lightenChannel p c).toNat = lightened c.toNat x := by
  have hc : (c.toNat : ℚ) ≤ 255 := mod_cast Nat.le_of_lt_succ c.toNat_lt
  have hc' : (0 : ℚ) ≤ c.toNat := Nat.cast_nonneg _
  have hx' := Has.nonneg hp
  have hmissing : rounded (255 - c.toNat) ≤ 2 ^ 8 :=
    rounded_le_two_pow (by linarith) (by linarith)
  have hpart : rounded (rounded (255 - c.toNat) * x) ≤ 2 ^ 8 := by
    refine rounded_le_two_pow (mul_nonneg (rounded_nonneg _) hx') ?_
    exact (mul_le_of_le_one_right (rounded_nonneg _) hx).trans hmissing
  have hsum : rounded (c.toNat + rounded (rounded (255 - c.toNat) * x)) ≤ 2 ^ 9 :=
    rounded_le_two_pow (add_nonneg hc' (rounded_nonneg _)) (by linarith)
  have hfloat := Is.add (Is.byte c)
    (Is.mul (Is.sub is_255 (Is.byte c) hc (hmissing.trans_lt (by norm_num))) hp
      (hpart.trans_lt (by norm_num))) (hsum.trans_lt (by norm_num))
  have hword := toNat_nearestWord hfloat (hsum.trans_lt (by norm_num))
  set sum := rounded (c.toNat + rounded (rounded (255 - c.toNat) * x)) with hsumdef
  have hsmall : nearestWhole sum < 2 ^ 24 := by
    have hfloor : ⌊sum⌋₊ ≤ 2 ^ 9 := Nat.floor_le_of_le (mod_cast hsum)
    have hnear := nearestWhole_le sum
    omega
  have hexact := rounded_natCast hsmall
  have hback := Is.toFloat32 (c.toFloat32 + (255 - c.toFloat32) * p).nearestWord
  rw [hword, hexact] at hback
  exact toNat_channel (hback (mod_cast hsmall.trans (by norm_num)))

/-- A larger share never gives a smaller channel. -/
lemma lightened_mono (hx : 0 ≤ x) (h : x ≤ y) (c : ℕ) : lightened c x ≤ lightened c y := by
  have hproduct : rounded (rounded (255 - c) * x) ≤ rounded (rounded (255 - c) * y) :=
    rounded_mono (mul_nonneg (rounded_nonneg _) hx) (by gcongr; exact rounded_nonneg _)
  have hsum : rounded (c + rounded (rounded (255 - c) * x)) ≤
      rounded (c + rounded (rounded (255 - c) * y)) :=
    rounded_mono (add_nonneg (Nat.cast_nonneg _) (rounded_nonneg _)) (by gcongr)
  have hwhole := nearestWhole_mono (rounded_nonneg _) hsum
  refine nearestWhole_mono (le_min (Nat.cast_nonneg _) (by norm_num)) ?_
  gcongr

lemma lightened_zero {c : ℕ} (hc : c ≤ 255) : lightened c 0 = c := by
  have hc' : (c : ℚ) ≤ 255 := mod_cast hc
  rw [lightened, mul_zero, rounded_zero, add_zero, rounded_natCast (by omega),
    nearestWhole_natCast, min_eq_left hc', nearestWhole_natCast]

lemma lightened_one {c : ℕ} (hc : c ≤ 255) : lightened c 1 = 255 := by
  have hmissing : rounded (255 - c) = 255 - c := by
    have hexact := rounded_natCast (n := 255 - c) (by omega)
    rwa [Nat.cast_sub hc] at hexact
  have hall : rounded ((255 : ℕ) : ℚ) = (255 : ℕ) := rounded_natCast (by norm_num)
  have hwhole := nearestWhole_natCast 255
  rw [lightened, mul_one, hmissing, hmissing, add_sub_cancel]
  push_cast at hall hwhole
  rw [hall, hwhole]
  simpa using hwhole

/-! ### Colours -/

/-- No channel of the first colour is above that of the second, and the alphas are the same. -/
structure UpTo (c d : Color) : Prop where
  r : c.r ≤ d.r
  g : c.g ≤ d.g
  b : c.b ≤ d.b
  a : c.a = d.a

namespace UpTo

variable {c d e : Color}

@[refl] lemma refl (c : Color) : c.UpTo c :=
  ⟨UInt8.le_refl _, UInt8.le_refl _, UInt8.le_refl _, rfl⟩

lemma trans (h : c.UpTo d) (h' : d.UpTo e) : c.UpTo e :=
  ⟨UInt8.le_trans h.r h'.r, UInt8.le_trans h.g h'.g, UInt8.le_trans h.b h'.b, h.a.trans h'.a⟩

end UpTo

/-- The share of a percentage between 0 and 100. -/
lemma is_share {q : Float32} (hq : q.Is x) (hx : x ≤ 100) : (q / 100).Is (rounded (x / 100)) ∧
    rounded (x / 100) ≤ 1 := by
  have hone : rounded (x / 100) ≤ 2 ^ 0 :=
    rounded_le_two_pow (div_nonneg (Has.nonneg hq) (by norm_num)) (by linarith)
  exact ⟨hq.div is_100 (by norm_num) (hone.trans_lt (by norm_num)), by simpa using hone⟩

lemma lighten_upTo {low high : Float32} (hlow : (low.clamped 0 100).Is x)
    (hhigh : (high.clamped 0 100).Is y) (h : x ≤ y) (hy : y ≤ 100) (c : Color) :
    (c.lighten low).UpTo (c.lighten high) := by
  have hx := Has.nonneg hlow
  obtain ⟨hshare, hone⟩ := is_share hlow (h.trans hy)
  obtain ⟨hshare', hone'⟩ := is_share hhigh hy
  have hchannel (n : UInt8) : lightenChannel (low.clamped 0 100 / 100) n ≤
      lightenChannel (high.clamped 0 100 / 100) n := by
    rw [UInt8.le_iff_toNat_le, toNat_lightenChannel hshare hone, toNat_lightenChannel hshare' hone']
    exact lightened_mono (rounded_nonneg _) (rounded_mono (by positivity) (by gcongr)) _
  exact ⟨hchannel c.r, hchannel c.g, hchannel c.b, rfl⟩

/-- **Channels grow with the percentage.** -/
theorem lighten_mono (c : Color) {low high : Float32} (h : low ≤ high) :
    (c.lighten low).UpTo (c.lighten high) := by
  obtain ⟨x, y, hlow, hhigh, -, hxy, hy⟩ := clamped_mono is_zero is_100 (by norm_num) h
  exact lighten_upTo hlow hhigh hxy hy c

theorem lighten_zero (c : Color) : c.lighten 0 = c := by
  have hclamped := clamped_of_is is_zero is_100 (by norm_num) is_zero
  obtain ⟨hshare, hone⟩ := is_share hclamped (by norm_num)
  have hchannel (n : UInt8) : lightenChannel ((0 : Float32).clamped 0 100 / 100) n = n := by
    rw [← UInt8.toNat_inj, toNat_lightenChannel hshare hone]
    simpa using lightened_zero (Nat.le_of_lt_succ n.toNat_lt)
  simp only [lighten, hchannel]

theorem lighten_hundred (c : Color) : c.lighten 100 = { white with a := c.a } := by
  have hclamped := clamped_of_is is_zero is_100 (by norm_num) is_100
  obtain ⟨hshare, hone⟩ := is_share hclamped (by norm_num)
  have hrounded : rounded 1 = 1 := mod_cast rounded_natCast (n := 1) (by norm_num)
  have hchannel (n : UInt8) : lightenChannel ((100 : Float32).clamped 0 100 / 100) n = 255 := by
    rw [← UInt8.toNat_inj, toNat_lightenChannel hshare hone]
    norm_num [hrounded]
    exact lightened_one (Nat.le_of_lt_succ n.toNat_lt)
  simp only [lighten, hchannel, white]

/-- A colour is not darkened by any percentage that is a number at all. -/
lemma upTo_lighten (c : Color) {percent : Float32} (h : percent.isNaN = false) :
    c.UpTo (c.lighten percent) := by
  have hzero := clamped_of_is is_zero is_100 (by norm_num) is_zero
  obtain ⟨x, hpercent, hx, hle⟩ :=
    exists_clamped is_zero is_100 (by norm_num) (unpack_ne_of_isNaN h)
  have hupTo := lighten_upTo hzero hpercent (by simpa using hx) hle c
  rwa [lighten_zero] at hupTo

end Color

/-! ### Tokens -/

/-- The percentages of all derivations are numbers, be they negative, above 100 or infinite. -/
def Tokens.Measured (ts : Tokens) : Prop :=
  ∀ name t source percent, ts.get? name = some t →
    t.derivation = some (.lighten source percent) → percent.isNaN = false

variable {ts : Tokens} {overrides : Table String} {p : Palette}

/-- Nothing is darkened along a chain. -/
lemma Tokens.Chain.upTo_lightenAll {name stored : String} {percents : List Float32}
    (hmeasured : ts.Measured) (h : ts.Chain name percents stored) (c : Color) :
    c.UpTo (c.lightenAll percents) := by
  induction h with
  | stored _ _ => exact .refl c
  | derived ht hderived _ ih =>
    exact ih.trans (Color.upTo_lighten _ (hmeasured _ _ _ _ ht hderived))

namespace Palette

/-- A derived token next to the token it derives from. -/
lemma exists_upTo_source (hts : ts.firstFault? = none) (hmeasured : ts.Measured)
    (h : ofTokens ts overrides = .ok p) {name source : String} {t : Token} {percent : Float32}
    (ht : ts.get? name = some t) (hderived : t.derivation = some (.lighten source percent)) :
    ∃ c d, p.resolve source = .ok c ∧ p.resolve name = .ok d ∧ c.UpTo d := by
  have hsource : ts.contains source = true :=
    contains_source (p := ⟨ts, .empty⟩) ((Tokens.firstFault?_eq_none.1 hts).1 name t ht) hderived
  obtain ⟨percents, stored, hchain, -⟩ := exists_chain hts hsource
  obtain ⟨c, hc, hcolor⟩ := resolve_chain hts h hchain
  obtain ⟨c', hc', hcolor'⟩ := resolve_chain hts h (.derived ht hderived hchain)
  obtain rfl := Option.some.inj (hc.symm.trans hc')
  exact ⟨_, _, hcolor, hcolor', Color.upTo_lighten _ (hmeasured name t source percent ht hderived)⟩

/-- A declared token next to the stored token at the end of its chain. -/
lemma exists_upTo_stored (hts : ts.firstFault? = none) (hmeasured : ts.Measured)
    (h : ofTokens ts overrides = .ok p) {name : String} (hname : ts.contains name = true) :
    ∃ percents stored c d, ts.Chain name percents stored ∧ p.resolve stored = .ok c ∧
      p.resolve name = .ok d ∧ c.UpTo d := by
  obtain ⟨percents, stored, hchain, -⟩ := exists_chain hts hname
  obtain ⟨t, ht, hstored⟩ := hchain.exists_end
  obtain ⟨c, hc, hcolor⟩ := resolve_chain hts h (.stored ht hstored)
  obtain ⟨c', hc', hcolor'⟩ := resolve_chain hts h hchain
  obtain rfl := Option.some.inj (hc.symm.trans hc')
  exact ⟨percents, stored, c, _, hchain, hcolor, hcolor', hchain.upTo_lightenAll hmeasured c⟩

/-- **A derived token is never darker than what it derives from.** On the tokens of a valid schema,
whose percentages are any numbers, and with replacements that are allowed: no channel of a derived
token is below that of the token that it derives from, nor below that of the stored token at the end
of its chain, and its alpha is theirs. Channels grow with the percentage; a percentage of 0 changes
nothing, and one of 100 gives white with the same alpha. -/
theorem resolve_never_darker (hts : ts.firstFault? = none) (hmeasured : ts.Measured)
    (h : ofTokens ts overrides = .ok p) :
    (∀ name t source percent, ts.get? name = some t →
      t.derivation = some (.lighten source percent) →
      ∃ c d, p.resolve source = .ok c ∧ p.resolve name = .ok d ∧ c.UpTo d) ∧
    (∀ name, ts.contains name = true →
      ∃ percents stored c d, ts.Chain name percents stored ∧ p.resolve stored = .ok c ∧
        p.resolve name = .ok d ∧ c.UpTo d) ∧
    (∀ (c : Color) (low high : Float32), low ≤ high → (c.lighten low).UpTo (c.lighten high)) ∧
    (∀ c : Color, c.lighten 0 = c) ∧
    ∀ c : Color, c.lighten 100 = { Color.white with a := c.a } :=
  ⟨fun _ _ _ _ ht hderived => exists_upTo_source hts hmeasured h ht hderived,
    fun _ hname => exists_upTo_stored hts hmeasured h hname,
    fun c _ _ hle => c.lighten_mono hle, Color.lighten_zero, Color.lighten_hundred⟩

/-- A stored token, and tokens derived from it with percentages that are out of all bounds. -/
def strayTokens : Tokens := .ofList [("base", .ofEditable "#10203080"),
  ("below", .ofLighten "base" (-5)), ("beyond", .ofLighten "below" Decimal.singleInfinity)]

theorem resolve_never_darker_stray :
    ∃ p, strayTokens.firstFault? = none ∧ strayTokens.Measured ∧
      ofTokens strayTokens (.ofList [("base", "#445566")]) = .ok p ∧
      (∃ c d, p.resolve "below" = .ok c ∧ p.resolve "beyond" = .ok d ∧ c.UpTo d) ∧
      (∃ percents stored c d, strayTokens.Chain "beyond" percents stored ∧
        p.resolve stored = .ok c ∧ p.resolve "beyond" = .ok d ∧ c.UpTo d) ∧
      (Color.white.lighten (-5)).UpTo (Color.white.lighten 150) := by
  have hvalid : strayTokens.firstFault? = none := by decide +kernel
  have hmeasured : strayTokens.Measured := by
    intro name t source percent ht hderived
    have hmem := Table.mem_entries_iff.2 ht
    have hentries : strayTokens.entries = [("base", .ofEditable "#10203080"),
        ("below", .ofLighten "base" (-5)),
        ("beyond", .ofLighten "below" Decimal.singleInfinity)] := rfl
    rw [hentries] at hmem
    simp only [List.mem_cons, Prod.mk.injEq, List.not_mem_nil, or_false] at hmem
    rcases hmem with ⟨-, rfl⟩ | ⟨-, rfl⟩ | ⟨-, rfl⟩
    · cases hderived
    · cases hderived
      rfl
    · cases hderived
      rfl
  obtain ⟨p, hp⟩ : ∃ p, ofTokens strayTokens (.ofList [("base", "#445566")]) = .ok p :=
    failure?_eq_none.1 (by decide +kernel)
  obtain ⟨hstep, hchain, hgrows, -, -⟩ := resolve_never_darker hvalid hmeasured hp
  exact ⟨p, hvalid, hmeasured, hp, hstep "beyond" _ "below" _ rfl rfl,
    hchain "beyond" (by decide +kernel), hgrows Color.white (-5) 150 (by decide +kernel)⟩

end Palette

end VisualTemplate
