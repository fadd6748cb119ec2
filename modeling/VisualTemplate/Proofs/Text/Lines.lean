import Mathlib.Tactic.Common
import VisualTemplate.Text.Cut
/-!
The lines of a text.

A text is some lines with a line feed behind each, and a rest without one. Joined by line feeds, its
lines are the text with each return and line feed read as a line feed, less a last line feed.
-/

namespace VisualTemplate.Text

/-- A text with a line feed in place of each return with a line feed. -/
def unifyReturns : List Char → List Char
  | '\r' :: '\n' :: cs => '\n' :: unifyReturns cs
  | c :: cs => c :: unifyReturns cs
  | [] => []

/-- A text without a last line feed. -/
def dropLineFeed (cs : List Char) : List Char := (before? ['\n'] cs).getD cs

/-! ### Line by line -/

/-- What holds of texts of one line, and goes over to one more line in front, holds of every
text. -/
lemma line_induction {P : List Char → Prop} (last : ∀ l, '\n' ∉ l → P l)
    (line : ∀ l rest, '\n' ∉ l → P rest → P (l ++ '\n' :: rest)) (cs : List Char) : P cs := by
  by_cases hmem : '\n' ∈ cs
  · obtain ⟨l, rest, hcs, hl⟩ := List.eq_append_cons_of_mem hmem
    have hshorter : rest.length < cs.length := by
      rw [hcs, List.length_append, List.length_cons]
      omega
    exact hcs ▸ line l rest hl (line_induction last line rest)
  · exact last cs hmem
termination_by cs.length

variable {l : List Char}

lemma dropReturn_cons_cons (c d : Char) (cs : List Char) :
    dropReturn (c :: d :: cs) = c :: dropReturn (d :: cs) := by
  obtain ⟨front, last, hlast⟩ := (List.eq_nil_or_concat (d :: cs)).resolve_left (by simp)
  rw [hlast]
  by_cases h : '\r' = last
  · subst h
    rw [dropReturn, dropReturn, List.concat_eq_append, before?_append, ← List.cons_append,
      before?_append]
    rfl
  · simp [dropReturn, before?, after?, h]

lemma lines_of_notMem (h : '\n' ∉ l) : lines l = if l.isEmpty then [] else [l] := by
  rw [lines, List.splitOn_eq_singleton h]
  rfl

/-- The first line ends at the first line feed. -/
lemma lines_append (h : '\n' ∉ l) (rest : List Char) :
    lines (l ++ '\n' :: rest) = dropReturn l :: lines rest := by
  have hsplit : (l ++ '\n' :: rest).splitOn '\n' = l :: rest.splitOn '\n' := by
    rw [List.splitOn_eq_splitOnP, List.splitOn_eq_splitOnP,
      List.splitOnP_append_cons_of_forall_mem (fun c hc => ?_) _ rfl]
    exact beq_eq_false_iff_ne.2 fun heq => h (heq ▸ hc)
  obtain ⟨front, last, hlast⟩ :=
    (List.eq_nil_or_concat (rest.splitOn '\n')).resolve_left (List.splitOn_ne_nil _ _)
  rw [lines, lines, hsplit, hlast]
  cases hempty : last.isEmpty <;> simp [hempty]

lemma lines_eq_nil_iff {cs : List Char} : lines cs = [] ↔ cs = [] := by
  induction cs using line_induction with
  | last l hl => rw [lines_of_notMem hl]; cases l <;> simp
  | line l rest hl ih => simp [lines_append hl]

/-! ### Returns -/

lemma unifyReturns_of_notMem (h : '\n' ∉ l) : unifyReturns l = l := by
  fun_induction unifyReturns l with
  | case1 cs ih => simp at h
  | case2 c cs hreturn ih => rw [ih fun hc => h (List.mem_cons_of_mem _ hc)]
  | case3 => rfl

/-- A line loses the return in front of its line feed. -/
lemma unifyReturns_append (h : '\n' ∉ l) (rest : List Char) :
    unifyReturns (l ++ '\n' :: rest) = dropReturn l ++ '\n' :: unifyReturns rest := by
  have hfeed (cs : List Char) : unifyReturns ('\n' :: cs) = '\n' :: unifyReturns cs := by
    rw [unifyReturns]
    simp
  induction l with
  | nil => exact hfeed rest
  | cons c l ih =>
    rw [List.mem_cons, not_or] at h
    cases l with
    | nil =>
      by_cases hc : c = '\r'
      · subst hc
        rfl
      · have hkept : dropReturn [c] = [c] := by simp [dropReturn, before?, after?, Ne.symm hc]
        rw [hkept, List.singleton_append, unifyReturns, hfeed]
        · rfl
        · exact fun _ heq => absurd heq hc
    | cons d l =>
      -- behind the first character there is no line feed yet
      have hd : d ≠ '\n' := fun heq => h.2 (heq ▸ List.mem_cons_self)
      have hkept (cs : List Char) : unifyReturns (c :: d :: cs) = c :: unifyReturns (d :: cs) := by
        rw [unifyReturns]
        exact fun _ _ heq => absurd (List.cons.inj heq).1 hd
      rw [dropReturn_cons_cons, List.cons_append, List.cons_append, hkept, List.cons_append,
        ← ih h.2, List.cons_append]

lemma unifyReturns_eq_nil_iff {cs : List Char} : unifyReturns cs = [] ↔ cs = [] := by
  fun_cases unifyReturns cs <;> simp

/-! ### The last line feed -/

lemma dropLineFeed_concat (cs : List Char) (c : Char) :
    dropLineFeed (cs ++ [c]) = if c = '\n' then cs else cs ++ [c] := by
  by_cases h : c = '\n'
  · rw [h, dropLineFeed, before?_append]
    rfl
  · simp [dropLineFeed, before?, after?, h, Ne.symm h]

lemma dropLineFeed_append {back : List Char} (h : back ≠ []) (front : List Char) :
    dropLineFeed (front ++ back) = front ++ dropLineFeed back := by
  obtain ⟨cs, c, rfl⟩ := (List.eq_nil_or_concat back).resolve_left h
  rw [List.concat_eq_append, ← List.append_assoc, dropLineFeed_concat, dropLineFeed_concat]
  split
  · rfl
  · rw [List.append_assoc]

lemma dropLineFeed_of_notMem (h : '\n' ∉ l) : dropLineFeed l = l := by
  rcases List.eq_nil_or_concat l with rfl | ⟨cs, c, rfl⟩
  · rfl
  · rw [List.concat_eq_append] at h ⊢
    rw [dropLineFeed_concat, if_neg]
    rintro rfl
    simp at h

/-- **Joined lines are the text with plain line ends.** -/
theorem intercalate_lines (cs : List Char) :
    ['\n'].intercalate (lines cs) = dropLineFeed (unifyReturns cs) := by
  induction cs using line_induction with
  | last l hl =>
    rw [lines_of_notMem hl, unifyReturns_of_notMem hl, dropLineFeed_of_notMem hl]
    cases l <;> simp
  | line l rest hl ih =>
    rw [lines_append hl, unifyReturns_append hl]
    cases hlines : lines rest with
    | nil =>
      rw [lines_eq_nil_iff.1 hlines, unifyReturns, dropLineFeed_concat, if_pos rfl,
        List.intercalate_singleton]
    | cons l' ls =>
      have hrest : unifyReturns rest ≠ [] := fun hnil => by
        rw [unifyReturns_eq_nil_iff.1 hnil] at hlines
        cases hlines
      rw [List.intercalate_cons_cons, ← hlines, ih, ← dropLineFeed_append hrest, List.append_assoc]
      rfl

end VisualTemplate.Text
