import Mathlib.Tactic.Common
import VisualTemplate.Proofs.Text.Cut
import VisualTemplate.Proofs.Text.Trim
/-!
The pieces of a list that has blanks in it.

Separators keep the pieces of a list apart, and blanks may stand at the ends of a piece but not
within it. Cut at the separators, trimmed and without what is empty, a text gives just the pieces
that it holds.
-/

namespace VisualTemplate.Text

/-- What may stand around pieces. -/
def isFiller (p : Char → Bool) (c : Char) : Bool := p c || isBlank c

/-- The text holds these pieces, none of them empty, with separators and blanks before, between and
behind them. Blanks alone do not keep two pieces apart. -/
inductive Listed (p : Char → Bool) : List Char → List (List Char) → Prop where
  | done : Listed p [] []
  | filler {c : Char} {cs : List Char} {ws : List (List Char)} :
      isFiller p c = true → Listed p cs ws → Listed p (c :: cs) ws
  | last {w gap : List Char} : w ≠ [] → (∀ c ∈ w, isFiller p c = false) →
      (∀ c ∈ gap, isFiller p c = true) → Listed p (w ++ gap) [w]
  | piece {w gap rest : List Char} {c : Char} {ws : List (List Char)} : w ≠ [] →
      (∀ c ∈ w, isFiller p c = false) → (∀ c ∈ gap, isFiller p c = true) → p c = true →
        Listed p rest ws → Listed p (w ++ (gap ++ c :: rest)) (w :: ws)

/-- What stands between separators, without blanks at its ends, apart from what is empty. -/
def pieces (p : Char → Bool) (cs : List Char) : List (List Char) :=
  ((cs.splitOnP p).map trim).filter (!·.isEmpty)

variable {p : Char → Bool} {cs w gap rest : List Char} {ws : List (List Char)} {c : Char}

lemma notSeparator_of_isFiller (h : ∀ c ∈ w, isFiller p c = false) : ∀ c ∈ w, p c = false :=
  fun c hc => (Bool.or_eq_false_iff.1 (h c hc)).1

lemma notBlank_of_isFiller (h : ∀ c ∈ w, isFiller p c = false) : ∀ c ∈ w, isBlank c = false :=
  fun c hc => (Bool.or_eq_false_iff.1 (h c hc)).2

lemma isFiller_of_isBlank (h : ∀ c ∈ gap, isBlank c = true) : ∀ c ∈ gap, isFiller p c = true :=
  fun c hc => by rw [isFiller, h c hc, Bool.or_true]

lemma isBlank_of_isFiller (h : isFiller p c = true) (hc : p c = false) : isBlank c = true := by
  rwa [isFiller, hc, Bool.false_or] at h

/-! ### Cutting a list -/

lemma pieces_append (front : List Char) (h : p c = true) (rest : List Char) :
    pieces p (front ++ c :: rest) = pieces p front ++ pieces p rest := by
  rw [pieces, List.splitOnP_append_cons _ _ h, List.map_append, List.filter_append]
  rfl

lemma pieces_of_notSeparator (h : ∀ c ∈ w, p c = false) :
    pieces p w = if trim w = [] then [] else [trim w] := by
  rw [pieces, List.splitOnP_eq_singleton h]
  by_cases hw : trim w = [] <;> simp [hw]

/-- Neither a separator nor a blank begins a piece. -/
lemma pieces_cons (h : isFiller p c = true) (cs : List Char) :
    pieces p (c :: cs) = pieces p cs := by
  cases hc : p c with
  | true => exact pieces_append [] hc cs
  | false =>
    obtain ⟨w, ws, hsplit⟩ := List.exists_cons_of_ne_nil (List.splitOnP_ne_nil p cs)
    have hblank : ∀ x ∈ [c], isBlank x = true := by simpa using isBlank_of_isFiller h hc
    have htrim : trim (c :: w) = trim w := trim_append_left hblank w
    rw [pieces, pieces, List.splitOnP_cons_eq_if_modifyHead, if_neg (by simp [hc]), hsplit]
    simp only [List.modifyHead_cons, List.map_cons, htrim]

lemma pieces_gap (h : ∀ c ∈ gap, isFiller p c = true) : pieces p gap = [] := by
  induction gap with
  | nil => rfl
  | cons c gap ih =>
    rw [List.forall_mem_cons] at h
    rw [pieces_cons h.1, ih h.2]

/-- A piece goes on up to a gap: the blanks in front of the first separator are trimmed. -/
lemma pieces_trim (hw : ∀ c ∈ w, p c = false) (hne : trim w ≠ [])
    (hgap : ∀ c ∈ gap, isFiller p c = true) : pieces p (w ++ gap) = [trim w] := by
  induction gap generalizing w with
  | nil => rw [List.append_nil, pieces_of_notSeparator hw, if_neg hne]
  | cons c gap ih =>
    rw [List.forall_mem_cons] at hgap
    cases hc : p c with
    | true =>
      rw [pieces_append w hc gap, pieces_gap hgap.2, List.append_nil, pieces_of_notSeparator hw,
        if_neg hne]
    | false =>
      have htrim : trim (w ++ [c]) = trim w :=
        trim_append_right (by simpa using isBlank_of_isFiller hgap.1 hc) w
      have hlonger : ∀ x ∈ w ++ [c], p x = false :=
        List.forall_mem_append.2 ⟨hw, by simpa using hc⟩
      have hpieces := ih hlonger (by rwa [htrim]) hgap.2
      rwa [List.append_assoc, htrim] at hpieces

lemma pieces_piece (hne : w ≠ []) (hw : ∀ c ∈ w, isFiller p c = false)
    (hgap : ∀ c ∈ gap, isFiller p c = true) : pieces p (w ++ gap) = [w] := by
  have htrim : trim w = w := trim_of_notBlank (notBlank_of_isFiller hw)
  have hpieces := pieces_trim (notSeparator_of_isFiller hw) (by rwa [htrim]) hgap
  rwa [htrim] at hpieces

lemma Listed.pieces_eq (h : Listed p cs ws) : pieces p cs = ws := by
  induction h with
  | done => rfl
  | filler hc _ ih => rw [pieces_cons hc, ih]
  | last hne hw hgap => exact pieces_piece hne hw hgap
  | piece hne hw hgap hc _ ih =>
    rw [← List.append_assoc, pieces_append _ hc, pieces_piece hne hw hgap, ih]
    rfl

/-! ### Pieces without blanks -/

lemma Listed.append_gap (h : ∀ c ∈ gap, isFiller p c = true) (hcs : Listed p cs ws) :
    Listed p (gap ++ cs) ws := by
  induction gap with
  | nil => exact hcs
  | cons c gap ih =>
    rw [List.forall_mem_cons] at h
    exact .filler h.1 (ih h.2)

/-- Up to a separator there are blanks, or a piece and blanks around it. -/
lemma gap_or_piece (hw : ∀ c ∈ w, p c = false)
    (h : ∀ x ∈ pieces p w, ∀ c ∈ x, isFiller p c = false) :
    (pieces p w = [] ∧ ∀ c ∈ w, isFiller p c = true) ∨
      ∃ front x back, w = front ++ (x ++ back) ∧ pieces p w = [x] ∧ x ≠ [] ∧
        (∀ c ∈ x, isFiller p c = false) ∧ (∀ c ∈ front, isFiller p c = true) ∧
        ∀ c ∈ back, isFiller p c = true := by
  rw [pieces_of_notSeparator hw] at h ⊢
  by_cases hempty : trim w = []
  · rw [if_pos hempty]
    exact .inl ⟨rfl, isFiller_of_isBlank (forall_isBlank_of_trim hempty)⟩
  · rw [if_neg hempty] at h ⊢
    rw [List.forall_mem_singleton] at h
    obtain ⟨front, back, hfront, hback, hwhole⟩ := exists_trim w
    exact .inr ⟨front, _, back, hwhole, rfl, hempty, h, isFiller_of_isBlank hfront,
      isFiller_of_isBlank hback⟩

/-- A text is a list of its pieces if these have no blanks in them. -/
lemma listed_pieces (cs : List Char) (h : ∀ w ∈ pieces p cs, ∀ c ∈ w, isFiller p c = false) :
    Listed p cs (pieces p cs) := by
  cases hcut : cutAt p cs with
  | none =>
    rcases gap_or_piece (eq_false_of_cutAt hcut) h with
      ⟨hnone, hgap⟩ | ⟨front, x, back, hwhole, hone, hne, hx, hfront, hback⟩
    · rw [hnone, ← List.append_nil cs]
      exact Listed.done.append_gap hgap
    · rw [hone, hwhole]
      exact (Listed.last hne hx hback).append_gap hfront
  | some cut =>
    obtain ⟨w, rest⟩ := cut
    obtain ⟨hw, c, hc, rfl⟩ := append_of_cutAt hcut
    rw [pieces_append w hc rest] at h ⊢
    rw [List.forall_mem_append] at h
    have hrest := listed_pieces rest h.2
    rcases gap_or_piece hw h.1 with
      ⟨hnone, hgap⟩ | ⟨front, x, back, rfl, hone, hne, hx, hfront, hback⟩
    · rw [hnone]
      exact (hrest.filler (by rw [isFiller, hc, Bool.true_or])).append_gap hgap
    · rw [hone, List.append_assoc, List.append_assoc]
      exact (Listed.piece hne hx hback hc hrest).append_gap hfront
termination_by cs.length
decreasing_by
  subst_vars
  rw [List.length_append, List.length_cons]
  omega

end VisualTemplate.Text
