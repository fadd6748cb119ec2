import Mathlib.Data.List.Perm.Subperm
import Mathlib.Logic.Relation
import Mathlib.Tactic.Common
import VisualTemplate.Schema
/-!
Derivations of tokens that run in a circle.

A chain of derivations from a token either ends or comes back to a token it has met. All tokens of
a chain with another behind them are declared; so a chain with more steps than there are tokens
meets one twice, and counting steps finds just the circles.
-/

namespace VisualTemplate

namespace Tokens

variable (ts : Tokens)

/-- A token is derived from another. -/
def DerivesFrom (name source : String) : Prop := ts.sourceOf? name = some source

/-- Following derivations never comes back to a token that was met before. -/
def Acyclic : Prop := ∀ name, ¬ Relation.TransGen ts.DerivesFrom name name

variable {ts} {name source : String}

lemma DerivesFrom.mem_names (h : ts.DerivesFrom name source) : name ∈ ts.names := by
  rw [DerivesFrom, sourceOf?, Option.bind_eq_some_iff] at h
  obtain ⟨t, ht, -⟩ := h
  exact Table.mem_names_iff.2 ⟨t, ht⟩

/-! ### Circles are found -/

/-- The source of a token on a circle is on it too. -/
lemma exists_source_of_circle (h : Relation.TransGen ts.DerivesFrom name name) :
    ∃ source, ts.DerivesFrom name source ∧ Relation.TransGen ts.DerivesFrom source source := by
  obtain ⟨source, hstep, hback⟩ := Relation.TransGen.head'_iff.1 h
  exact ⟨source, hstep, Relation.TransGen.tail' hback hstep⟩

lemma ends_of_circle (n : ℕ) (h : Relation.TransGen ts.DerivesFrom name name) :
    ts.ends n name = false := by
  induction n generalizing name with
  | zero =>
    obtain ⟨source, hstep, -⟩ := exists_source_of_circle h
    rw [DerivesFrom] at hstep
    simp [ends, hstep]
  | succ n ih =>
    obtain ⟨source, hstep, hback⟩ := exists_source_of_circle h
    rw [DerivesFrom] at hstep
    simp only [ends, hstep]
    exact ih hback

/-! ### Nothing else is found -/

variable (ts) in
/-- The tokens of a chain that have so many steps behind them. -/
def met : ℕ → String → List String
  | 0, name => [name]
  | n + 1, name =>
    match ts.sourceOf? name with
    | none => [name]
    | some source => name :: met n source

lemma length_met {n : ℕ} (h : ts.ends n name = false) : (ts.met n name).length = n + 1 := by
  induction n generalizing name with
  | zero => rfl
  | succ n ih =>
    rw [ends] at h
    cases hs : ts.sourceOf? name with
    | none => simp [hs] at h
    | some source =>
      simp only [hs] at h
      simp only [met, hs, List.length_cons, ih h]

lemma met_subset_names {n : ℕ} (h : ts.ends n name = false) : ts.met n name ⊆ ts.names := by
  induction n generalizing name with
  | zero =>
    obtain ⟨source, hs⟩ : ∃ source, ts.sourceOf? name = some source := by
      rwa [ends, Option.isNone_eq_false_iff, Option.isSome_iff_exists] at h
    intro x hx
    rw [List.mem_singleton.1 hx]
    exact DerivesFrom.mem_names hs
  | succ n ih =>
    rw [ends] at h
    cases hs : ts.sourceOf? name with
    | none => simp [hs] at h
    | some source =>
      simp only [hs] at h
      simp only [met, hs]
      exact List.cons_subset.2 ⟨DerivesFrom.mem_names hs, ih h⟩

lemma reaches_of_mem_met {n : ℕ} {x : String} (h : x ∈ ts.met n name) :
    Relation.ReflTransGen ts.DerivesFrom name x := by
  induction n generalizing name with
  | zero =>
    rw [List.mem_singleton.1 h]
  | succ n ih =>
    cases hs : ts.sourceOf? name with
    | none =>
      simp only [met, hs, List.mem_singleton] at h
      rw [h]
    | some source =>
      simp only [met, hs, List.mem_cons] at h
      rcases h with rfl | h
      · exact .refl
      · exact .head hs (ih h)

/-- Without circles a chain meets no token twice. -/
lemma nodup_met (hts : ts.Acyclic) (n : ℕ) (name : String) : (ts.met n name).Nodup := by
  induction n generalizing name with
  | zero => simp [met]
  | succ n ih =>
    cases hs : ts.sourceOf? name with
    | none => simp [met, hs]
    | some source =>
      simp only [met, hs, List.nodup_cons]
      refine ⟨fun hmem => ?_, ih source⟩
      exact hts name (Relation.TransGen.head' hs (reaches_of_mem_met hmem))

/-- A chain that has not ended after as many steps as there are tokens met one more than there
are. -/
lemma ends_of_acyclic (hts : ts.Acyclic) (name : String) : ts.ends ts.size name = true := by
  by_contra hends
  rw [Bool.not_eq_true] at hends
  have hsub : (ts.met ts.size name).length ≤ ts.names.length :=
    ((nodup_met hts _ _).subperm (met_subset_names hends)).length_le
  rw [length_met hends, Table.length_names] at hsub
  omega

/-- **Counting steps finds the circles.** All chains end within as many steps as there are tokens
just when no chain comes back to a token it has met. -/
theorem ends_iff_acyclic : (∀ name ∈ ts.names, ts.ends ts.size name = true) ↔ ts.Acyclic := by
  constructor
  · intro h name hcircle
    obtain ⟨source, hstep, -⟩ := exists_source_of_circle hcircle
    have hends := h name hstep.mem_names
    rw [ends_of_circle ts.size hcircle] at hends
    exact absurd hends (by simp)
  · intro h name _
    exact ends_of_acyclic h name

end Tokens

end VisualTemplate
