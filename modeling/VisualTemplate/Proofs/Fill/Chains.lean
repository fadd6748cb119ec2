import VisualTemplate.Proofs.Fill.Agreement
/-!
The colour of a token along its chain of derivations.

On tokens that passed the gate every declared token has just one chain, and it ends at a stored
token. The colour of a token is that of the end of its chain, lightened by the percentages of the
steps, the last step first; so only a replacement of the end can change it, and counting steps never
cuts a chain off.
-/

namespace VisualTemplate

/-- A colour lightened by the percentages of a chain, the last step first. -/
def Color.lightenAll (c : Color) (percents : List Float32) : Color :=
  percents.foldr (fun percent c => c.lighten percent) c

namespace Tokens

/-- Following derivations from a token ends at a stored one; the percentages of the steps stand in
the order of the steps. -/
inductive Chain (ts : Tokens) : String → List Float32 → String → Prop
  | stored {name : String} {t : Token} : ts.get? name = some t → t.derivation = none →
    Chain ts name [] name
  | derived {name source stored : String} {t : Token} {percent : Float32}
    {percents : List Float32} : ts.get? name = some t →
    t.derivation = some (.lighten source percent) → Chain ts source percents stored →
    Chain ts name (percent :: percents) stored

/-- The editable tokens with a default, each with its own. -/
def ownDefaults (ts : Tokens) : Table String where
  entries := ts.entries.filterMap fun (name, t) =>
    if t.editable then t.default_.map (name, ·) else none
  sorted := by
    refine ts.sorted.filterMap _ ?_
    rintro ⟨name, t⟩ ⟨name', t'⟩ hlt e he e' he'
    simp only [Option.ite_none_right_eq_some, Option.map_eq_some_iff] at he he'
    obtain ⟨-, value, -, rfl⟩ := he
    obtain ⟨-, value', -, rfl⟩ := he'
    exact hlt

variable {ts : Tokens} {name stored : String} {percents : List Float32}

lemma get?_ownDefaults {value : String} : ts.ownDefaults.get? name = some value ↔
    ∃ t, ts.get? name = some t ∧ t.editable = true ∧ t.default_ = some value := by
  rw [← Table.mem_entries_iff, ownDefaults]
  simp only [List.mem_filterMap, Option.ite_none_right_eq_some, Option.map_eq_some_iff,
    Prod.mk.injEq, Prod.exists, Table.mem_entries_iff]
  constructor
  · rintro ⟨_, t, ht, hedit, _, hvalue, rfl, rfl⟩
    exact ⟨t, ht, hedit, hvalue⟩
  · rintro ⟨t, ht, hedit, hvalue⟩
    exact ⟨name, t, ht, hedit, value, hvalue, rfl, rfl⟩

namespace Chain

/-- A token has one chain at most. -/
lemma unique {stored' : String} {percents' : List Float32} (h : ts.Chain name percents stored)
    (h' : ts.Chain name percents' stored') : percents = percents' ∧ stored = stored' := by
  induction h generalizing percents' with
  | stored ht hstored =>
    cases h' with
    | stored _ _ => exact ⟨rfl, rfl⟩
    | derived ht' hderived _ =>
      rw [ht, Option.some.injEq] at ht'
      rw [← ht', hstored] at hderived
      cases hderived
  | derived ht hderived _ ih =>
    cases h' with
    | stored ht' hstored =>
      rw [ht, Option.some.injEq] at ht'
      rw [← ht', hderived] at hstored
      cases hstored
    | derived ht' hderived' hrest =>
      rw [ht, Option.some.injEq] at ht'
      rw [← ht', hderived, Option.some.injEq, Derivation.lighten.injEq] at hderived'
      obtain ⟨rfl, rfl⟩ := hderived'
      obtain ⟨rfl, rfl⟩ := ih hrest
      exact ⟨rfl, rfl⟩

/-- What a chain begins with is declared. -/
lemma contains (h : ts.Chain name percents stored) : ts.contains name = true := by
  cases h with
  | stored ht _ => exact Table.contains_iff.2 ⟨_, ht⟩
  | derived ht _ _ => exact Table.contains_iff.2 ⟨_, ht⟩

/-- What a chain ends with is stored. -/
lemma exists_end (h : ts.Chain name percents stored) :
    ∃ t, ts.get? stored = some t ∧ t.derivation = none := by
  induction h with
  | stored ht hstored => exact ⟨_, ht, hstored⟩
  | derived _ _ _ ih => exact ih

/-- Where following derivations ends within some steps, there is a chain of no more steps. -/
lemma exists_of_ends (hvalid : ∀ name t, ts.get? name = some t → t.Valid ts) {n : ℕ}
    (hends : ts.ends n name = true) (hname : ts.contains name = true) :
    ∃ percents stored, ts.Chain name percents stored ∧ percents.length ≤ n := by
  induction n generalizing name with
  | zero =>
    obtain ⟨t, ht⟩ := Table.contains_iff.1 hname
    have hstored : t.derivation = none := by simpa [ends, sourceOf?, ht] using hends
    exact ⟨[], name, .stored ht hstored, le_rfl⟩
  | succ n ih =>
    obtain ⟨t, ht⟩ := Table.contains_iff.1 hname
    cases hd : t.derivation with
    | none => exact ⟨[], name, .stored ht hd, Nat.zero_le _⟩
    | some d =>
      obtain ⟨source, percent⟩ := d
      have hrest : ts.ends n source = true := by
        simpa [ends, sourceOf?, ht, hd, Derivation.source] using hends
      have hsource : ts.contains source = true :=
        Palette.contains_source (p := ⟨ts, .empty⟩) (hvalid name t ht) hd
      obtain ⟨percents, stored, hchain, hlength⟩ := ih hrest hsource
      exact ⟨percent :: percents, stored, .derived ht hd hchain, Nat.succ_le_succ hlength⟩

end Chain

end Tokens

namespace Palette

variable {ts : Tokens} {overrides overrides' : Table String} {p p' : Palette}
  {name stored : String} {percents : List Float32}

/-- The end of a chain has a colour. -/
lemma exists_colorUnder (hvalid : ∀ name t, ts.get? name = some t → t.Valid ts)
    (h : ofTokens ts overrides = .ok p) (hchain : ts.Chain name percents stored) :
    ∃ c, ts.colorUnder? overrides stored = some c := by
  obtain ⟨t, ht, hstored⟩ := hchain.exists_end
  have htokens := tokens_of_ofTokens h
  obtain ⟨c, hc⟩ := exists_resolveWithin_stored (p := p) (htokens ▸ ht) (htokens ▸ hvalid stored t ht)
    hstored 0
  rw [resolveWithin_stored h ht hstored] at hc
  cases hcolor : ts.colorUnder? overrides stored with
  | some c => exact ⟨c, rfl⟩
  | none =>
    simp only [hcolor] at hc
    split at hc <;> cases hc

/-- The colour of a token is that of the end of its chain, lightened step by step. -/
lemma resolveWithin_chain (h : ofTokens ts overrides = .ok p)
    (hchain : ts.Chain name percents stored) {c : Color}
    (hc : ts.colorUnder? overrides stored = some c) {n : ℕ} (hn : percents.length < n) :
    p.resolveWithin n name = .ok (c.lightenAll percents) := by
  induction hchain generalizing n with
  | stored ht hstored =>
    obtain ⟨n, rfl⟩ := Nat.exists_eq_succ_of_ne_zero (Nat.ne_of_gt hn)
    rw [resolveWithin_stored h ht hstored, hc]
    rfl
  | derived ht hderived _ ih =>
    obtain ⟨n, rfl⟩ := Nat.exists_eq_succ_of_ne_zero (Nat.ne_of_gt (Nat.zero_lt_of_lt hn))
    have hrest := ih hc (Nat.lt_of_succ_lt_succ hn)
    simp only [resolveWithin, tokens_of_ofTokens h, ht, hderived, hrest]
    rfl

section

variable (hts : ts.firstFault? = none) (h : ofTokens ts overrides = .ok p)

include hts in
/-- Every declared token has a chain, with no more steps than there are tokens. -/
lemma exists_chain (hname : ts.contains name = true) :
    ∃ percents stored, ts.Chain name percents stored ∧ percents.length ≤ ts.size := by
  obtain ⟨hvalid, hacyclic⟩ := Tokens.firstFault?_eq_none.1 hts
  exact Tokens.Chain.exists_of_ends hvalid (Tokens.ends_of_acyclic hacyclic name) hname

include hts h

/-- A token is found just if it is declared. -/
lemma failure?_resolve (name : String) :
    failure? (p.resolve name) = if ts.contains name then none else some (.unknownToken name) := by
  obtain ⟨hvalid, hacyclic⟩ := Tokens.firstFault?_eq_none.1 hts
  obtain rfl := tokens_of_ofTokens h
  exact failure?_resolveWithin hvalid (Tokens.ends_of_acyclic hacyclic name)

lemma resolve_chain (hchain : ts.Chain name percents stored) :
    ∃ c, ts.colorUnder? overrides stored = some c ∧
      p.resolve name = .ok (c.lightenAll percents) := by
  obtain ⟨c, hc⟩ := exists_colorUnder (Tokens.firstFault?_eq_none.1 hts).1 h hchain
  obtain ⟨percents', stored', hchain', hlength⟩ := exists_chain hts hchain.contains
  obtain ⟨rfl, rfl⟩ := hchain.unique hchain'
  rw [resolve, tokens_of_ofTokens h]
  exact ⟨c, hc, resolveWithin_chain h hchain hc (Nat.lt_succ_of_le hlength)⟩

/-- Colours are the same if the ends of the chains have the same colours. -/
lemma resolve_congr (h' : ofTokens ts overrides' = .ok p')
    (hends : ∀ percents stored, ts.Chain name percents stored →
      ts.colorUnder? overrides' stored = ts.colorUnder? overrides stored) :
    p'.resolve name = p.resolve name := by
  cases hname : ts.contains name with
  | true =>
    obtain ⟨percents, stored, hchain, -⟩ := exists_chain hts hname
    obtain ⟨c, hc, hresolve⟩ := resolve_chain hts h hchain
    obtain ⟨c', hc', hresolve'⟩ := resolve_chain hts h' hchain
    rw [hends percents stored hchain, hc, Option.some.injEq] at hc'
    rw [hresolve, hresolve', hc']
  | false =>
    have hfail := failure?_resolve hts h name
    have hfail' := failure?_resolve hts h' name
    rw [hname, if_neg Bool.false_ne_true, failure?_eq_some] at hfail hfail'
    rw [hfail, hfail']

end

/-- The defaults of the editable tokens are allowed as replacements. -/
lemma exists_ofTokens_ownDefaults (hts : ts.firstFault? = none) :
    ∃ p, ofTokens ts ts.ownDefaults = .ok p := by
  rw [← failure?_eq_none, failure?_ofTokens, List.findSome?_eq_none_iff]
  rintro ⟨name, value⟩ hmem
  rw [failure?_eq_none, replacement_eq_ok]
  obtain ⟨t, ht, hedit, hvalue⟩ := Tokens.get?_ownDefaults.1 (Table.mem_entries_iff.1 hmem)
  obtain ⟨value', hvalue', hstored, hcolor⟩ | ⟨d, hnone, -, -⟩ :=
    (Tokens.firstFault?_eq_none.1 hts).1 name t ht
  · obtain rfl : value = value' := Option.some.inj (hvalue.symm.trans hvalue')
    exact ⟨t, ht, hedit, hstored, hcolor⟩
  · rw [hvalue] at hnone
    cases hnone

lemma colorUnder?_ownDefaults (name : String) :
    ts.colorUnder? ts.ownDefaults name = ts.colorUnder? .empty name := by
  rw [Tokens.colorUnder?, Tokens.colorUnder?, Table.get?_empty, Option.none_or]
  cases hown : ts.ownDefaults.get? name with
  | none => rfl
  | some value =>
    obtain ⟨t, ht, -, hvalue⟩ := Tokens.get?_ownDefaults.1 hown
    rw [ht, Option.bind_some, hvalue]
    rfl

/-- **A token has the colour of its chain.** On the tokens of a valid schema, with replacements that
are allowed, just the declared tokens are found, and no token is ever said to run in a circle. Each
declared token has one chain of derivations; its colour is that of the stored token at the end, that
is of its replacement or else of its default, lightened by the percentages of the chain from the end
on. A replacement changes only tokens whose chain ends at the replaced one, and replacing all
editable tokens by their own defaults changes nothing. -/
theorem resolve_follows_chain (hts : ts.firstFault? = none) (h : ofTokens ts overrides = .ok p) :
    (∀ name, (∃ c, p.resolve name = .ok c) ↔ ts.contains name = true) ∧
    (∀ name fault, p.resolve name ≠ .error (.structural fault)) ∧
    (∀ name, ts.contains name = true →
      ∃! chain : List Float32 × String, ts.Chain name chain.1 chain.2) ∧
    (∀ name percents stored, ts.Chain name percents stored →
      ∃ c, ts.colorUnder? overrides stored = some c ∧
        p.resolve name = .ok (c.lightenAll percents)) ∧
    (∀ changed overrides' p', ofTokens ts overrides' = .ok p' →
      (∀ other ≠ changed, overrides'.get? other = overrides.get? other) →
      ∀ name, (∀ percents, ¬ ts.Chain name percents changed) →
        p'.resolve name = p.resolve name) ∧
    (∃ p₀ p', ofTokens ts .empty = .ok p₀ ∧ ofTokens ts ts.ownDefaults = .ok p' ∧
      ∀ name, p'.resolve name = p₀.resolve name) := by
  have hfailure := failure?_resolve hts h
  refine ⟨fun name => ?declared, fun name fault hfault => ?guard, fun name hname => ?chain,
    fun name percents stored hchain => resolve_chain hts h hchain,
    fun changed overrides' p' h' hsame name hends => ?replaced, ?defaults⟩
  case declared =>
    rw [← failure?_eq_none, hfailure]
    split <;> simp_all
  case guard =>
    have hname := hfailure name
    rw [hfault, failure?_error] at hname
    split at hname <;> cases hname
  case chain =>
    obtain ⟨percents, stored, hchain, -⟩ := exists_chain hts hname
    refine ⟨(percents, stored), hchain, fun chain hother => ?_⟩
    obtain ⟨rfl, rfl⟩ := hchain.unique hother
    rfl
  case replaced =>
    refine resolve_congr hts h h' fun percents stored hchain => ?_
    have hne : stored ≠ changed := by
      rintro rfl
      exact hends percents hchain
    rw [Tokens.colorUnder?, Tokens.colorUnder?, hsame stored hne]
  case defaults =>
    obtain ⟨p', h'⟩ := exists_ofTokens_ownDefaults hts
    have h₀ : ofTokens ts .empty = .ok ⟨ts, .ofList []⟩ := rfl
    exact ⟨_, p', h₀, h', fun name =>
      resolve_congr hts h₀ h' fun _ stored _ => colorUnder?_ownDefaults stored⟩

/-- A primary colour, two tokens derived from it in a row, and an accent colour. -/
def tintedTokens : Tokens := .ofList [("accent", .ofEditable "#445566"),
  ("lighter", .ofLighten "light" 20), ("light", .ofLighten "primary" 10),
  ("primary", .ofEditable "#102030")]

theorem resolve_follows_chain_tinted :
    ∃ p, tintedTokens.firstFault? = none ∧
      ofTokens tintedTokens (.ofList [("primary", "#402030")]) = .ok p ∧
      tintedTokens.Chain "lighter" [20, 10] "primary" ∧
      p.resolve "lighter" = .ok ⟨117, 94, 106, 255⟩ ∧
      (∀ name fault, p.resolve name ≠ .error (.structural fault)) := by
  have hvalid : tintedTokens.firstFault? = none := by decide +kernel
  obtain ⟨p, hp⟩ : ∃ p, ofTokens tintedTokens (.ofList [("primary", "#402030")]) = .ok p :=
    failure?_eq_none.1 (by decide +kernel)
  have hchain : tintedTokens.Chain "lighter" [20, 10] "primary" :=
    .derived rfl rfl (.derived rfl rfl (.stored rfl rfl))
  have hreplaced : tintedTokens.colorUnder? (.ofList [("primary", "#402030")]) "primary" =
      some ⟨64, 32, 48, 255⟩ := by decide +kernel
  have hlightened : Color.lightenAll ⟨64, 32, 48, 255⟩ [20, 10] = ⟨117, 94, 106, 255⟩ := by
    decide +kernel
  obtain ⟨-, hguard, -, hcolors, -⟩ := resolve_follows_chain hvalid hp
  obtain ⟨c, hc, hresolve⟩ := hcolors "lighter" [20, 10] "primary" hchain
  obtain rfl := Option.some.inj (hreplaced.symm.trans hc)
  exact ⟨p, hvalid, hp, hchain, hlightened ▸ hresolve, hguard⟩

end Palette

end VisualTemplate
