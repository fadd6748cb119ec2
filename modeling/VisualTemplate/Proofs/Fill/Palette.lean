import VisualTemplate.Fill.Palette
import VisualTemplate.Proofs.Schema.Gate
/-!
When the colours of a fill are found.

On the tokens of a schema that passed the gate, following derivations always ends at a stored
colour, so a reference fails only if its token is not declared. A replacement fails only for its own
token or text.
-/

namespace VisualTemplate

/-- The error of a computation that failed. -/
def failure? {ε α : Type} : Except ε α → Option ε
  | .ok _ => none
  | .error e => some e

section

variable {ε α β : Type} {x : Except ε α} {e : ε}

@[simp] lemma failure?_ok (a : α) : failure? (.ok a : Except ε α) = none := rfl
@[simp] lemma failure?_pure (a : α) : failure? (pure a : Except ε α) = none := rfl
@[simp] lemma failure?_error (e : ε) : failure? (.error e : Except ε α) = some e := rfl

lemma failure?_eq_none : failure? x = none ↔ ∃ a, x = .ok a := by
  cases x <;> simp

lemma failure?_eq_some : failure? x = some e ↔ x = .error e := by
  cases x <;> simp

/-- What comes second fails only if what comes first does not. -/
lemma failure?_bind {f : α → Except ε β} {r : Option ε}
    (h : ∀ a, x = .ok a → failure? (f a) = r) : failure? (x >>= f) = (failure? x).or r := by
  cases x with
  | ok a => exact h a rfl
  | error e => rfl

@[simp] lemma failure?_map (f : α → β) : failure? (x.map f) = failure? x := by
  cases x <;> rfl

end

/-! ### Tokens of a valid schema -/

/-- The name of a token that a paint refers to and that is not declared. -/
def Paint.undeclared? (ts : Tokens) : Paint → Option String
  | .literal _ => none
  | .token name => if ts.contains name then none else some name

namespace Palette

variable {p : Palette} {name text : String}

lemma exists_ofText (h : (Color.ofText? text).isSome) : ∃ c, Color.ofText text = .ok c := by
  obtain ⟨c, hc⟩ := Option.isSome_iff_exists.1 h
  exact ⟨c, by rw [Color.ofText, hc]⟩

/-- A stored token has its replacement or its default for a colour. -/
lemma exists_resolveWithin_stored {t : Token} (ht : p.tokens.get? name = some t)
    (hvalid : t.Valid p.tokens) (hstored : t.derivation = none) (n : ℕ) :
    ∃ c, p.resolveWithin (n + 1) name = .ok c := by
  obtain ⟨value, hdefault, -, hcolor⟩ | ⟨d, -, hderived, -⟩ := hvalid
  · simp only [resolveWithin, ht, hstored, hdefault]
    cases p.replaced.get? name with
    | some c => exact ⟨c, rfl⟩
    | none => exact exists_ofText hcolor
  · rw [hstored] at hderived
    cases hderived

/-- What a token is derived from is declared. -/
lemma contains_source {t : Token} {d : Derivation} (hvalid : t.Valid p.tokens)
    (hd : t.derivation = some d) : p.tokens.contains d.source = true := by
  obtain ⟨value, -, hstored, -⟩ | ⟨d', -, hderived, u, hu⟩ := hvalid
  · rw [hd] at hstored
    cases hstored
  · rw [hd, Option.some.injEq] at hderived
    rw [← hderived] at hu
    exact Table.contains_iff.2 ⟨u, hu⟩

/-- A reference fails only at a token that is not declared: where a chain of derivations ends, all
behind its first token is declared. -/
lemma failure?_resolveWithin (hvalid : ∀ name t, p.tokens.get? name = some t → t.Valid p.tokens)
    {n : ℕ} (hends : p.tokens.ends n name = true) :
    failure? (p.resolveWithin (n + 1) name) =
      if p.tokens.contains name then none else some (.unknownToken name) := by
  induction n generalizing name with
  | zero =>
    cases ht : p.tokens.get? name with
    | none => simp [resolveWithin, Table.contains, ht]
    | some t =>
      have hstored : t.derivation = none := by simpa [Tokens.ends, Tokens.sourceOf?, ht] using hends
      obtain ⟨c, hc⟩ := exists_resolveWithin_stored ht (hvalid name t ht) hstored 0
      simp [hc, Table.contains, ht]
  | succ n ih =>
    cases ht : p.tokens.get? name with
    | none => simp [resolveWithin, Table.contains, ht]
    | some t =>
      rw [if_pos (by simp [Table.contains, ht])]
      cases hd : t.derivation with
      | none =>
        obtain ⟨c, hc⟩ := exists_resolveWithin_stored ht (hvalid name t ht) hd (n + 1)
        rw [hc, failure?_ok]
      | some d =>
        -- the source is declared, so by induction it has a colour, which is lightened
        obtain ⟨source, percent⟩ := d
        have hsource : p.tokens.contains source = true := contains_source (hvalid name t ht) hd
        have hrest : p.tokens.ends n source = true := by
          simpa [Tokens.ends, Tokens.sourceOf?, ht, hd, Derivation.source] using hends
        have hfound := ih hrest
        rw [if_pos hsource] at hfound
        rw [resolveWithin]
        simp only [ht, hd]
        rw [failure?_bind fun c _ => failure?_ok _, hfound]
        rfl

/-- The colour of a paint is missing only if the paint refers to a token that is not declared. -/
lemma failure?_css (hvalid : ∀ name t, p.tokens.get? name = some t → t.Valid p.tokens)
    (hacyclic : p.tokens.Acyclic) (paint : Paint) :
    failure? (p.css paint) = (paint.undeclared? p.tokens).map .unknownToken := by
  cases paint with
  | literal text => rfl
  | token name =>
    rw [css, failure?_map, resolve,
      failure?_resolveWithin hvalid (Tokens.ends_of_acyclic hacyclic name), Paint.undeclared?]
    split <;> rfl

/-! ### Replacements -/

/-- A request may replace the colour of a token by the colour of a text. -/
def Replaceable (ts : Tokens) (name text : String) : Prop :=
  ∃ t, ts.get? name = some t ∧ t.editable = true ∧ t.derivation = none ∧
    (Color.ofText? text).isSome

variable {ts : Tokens}

lemma replacement_eq_ok : (∃ c, replacement ts name text = .ok c) ↔ Replaceable ts name text := by
  unfold replacement Replaceable Color.ofText
  cases ts.get? name with
  | none => simp
  | some t =>
    cases hd : t.derivation <;> cases he : t.editable <;> cases Color.ofText? text <;> simp [hd, he]

/-- Why a replacement fails. -/
lemma replacement_eq_error {e : Error} (h : replacement ts name text = .error e) :
    (ts.get? name = none ∧ e = .unknownToken name) ∨
    (∃ t, ts.get? name = some t ∧ (t.editable = false ∨ t.derivation.isSome) ∧
      e = .tokenNotEditable name) ∨
    (Color.ofText? text = none ∧ e = .invalidColor text.trimmed) := by
  unfold replacement at h
  cases ht : ts.get? name with
  | none =>
    simp only [ht, Except.error.injEq] at h
    exact .inl ⟨rfl, h.symm⟩
  | some t =>
    simp only [ht] at h
    split at h
    · next hfixed =>
      refine .inr (.inl ⟨t, rfl, ?_, (Except.error.inj h).symm⟩)
      simpa [or_comm] using hfixed
    · unfold Color.ofText at h
      split at h
      · cases h
      · next hcolor => exact .inr (.inr ⟨hcolor, (Except.error.inj h).symm⟩)

lemma failure?_replacements (overrides : List (String × String)) :
    failure? (replacements ts overrides) =
      overrides.findSome? fun o => failure? (replacement ts o.1 o.2) := by
  induction overrides with
  | nil => rfl
  | cons o overrides ih =>
    rw [replacements, failure?_bind fun c _ => failure?_bind fun cs _ => failure?_ok _, ih,
      Option.or_none, List.findSome?_cons]
    cases failure? (replacement ts o.1 o.2) <;> rfl

/-- The colours of a request fail with the first replacement that does. -/
lemma failure?_ofTokens (overrides : Table String) :
    failure? (ofTokens ts overrides) =
      overrides.entries.findSome? fun o => failure? (replacement ts o.1 o.2) := by
  rw [ofTokens, failure?_bind fun _ _ => failure?_ok _, failure?_replacements, Option.or_none]

lemma tokens_of_ofTokens {overrides : Table String} (h : ofTokens ts overrides = .ok p) :
    p.tokens = ts := by
  obtain ⟨cs, -, h⟩ := Except.bind_eq_ok_iff.1 h
  rw [← Except.ok.inj h]

end Palette

end VisualTemplate
