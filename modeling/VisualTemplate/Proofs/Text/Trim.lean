import Mathlib.Data.List.TakeWhile
import Mathlib.Tactic.Common
import VisualTemplate.Text.Blank
/-!
Texts without blanks at their ends.

Trimming leaves a text as it is just when neither end is blank, and what it gives has such ends. It
takes away nothing but blanks.
-/

namespace VisualTemplate.Text

variable {cs : List Char}

lemma dropWhile_of_head {p : Char → Bool} (h : ∀ c ∈ cs.head?, p c = false) :
    cs.dropWhile p = cs := by
  cases cs with
  | nil => rfl
  | cons c cs => rw [List.dropWhile_cons_of_neg (by simp [h c rfl])]

lemma head_dropWhile (p : Char → Bool) (cs : List Char) :
    ∀ c ∈ (cs.dropWhile p).head?, p c = false := by
  intro c hc
  have hhead := List.head?_dropWhile_not p cs
  rw [Option.mem_def.1 hc] at hhead
  exact hhead

lemma trim_of_ends (hhead : ∀ c ∈ cs.head?, isBlank c = false)
    (hlast : ∀ c ∈ cs.getLast?, isBlank c = false) : trim cs = cs := by
  rw [trim, strip, dropEndWhile, dropWhile_of_head hhead,
    dropWhile_of_head (by rwa [List.head?_reverse]), List.reverse_reverse]

lemma trim_of_notBlank (h : ∀ c ∈ cs, isBlank c = false) : trim cs = cs :=
  trim_of_ends (fun c hc => h c (List.mem_of_head? hc)) fun c hc => h c (List.mem_of_getLast? hc)

lemma head_trim (cs : List Char) : ∀ c ∈ (trim cs).head?, isBlank c = false := by
  intro c hc
  -- what is taken away at the end leaves the first character
  have hfront : trim cs <+: cs.dropWhile isBlank := by
    rw [← List.reverse_suffix, trim, strip, dropEndWhile, List.reverse_reverse]
    exact List.dropWhile_suffix _
  obtain ⟨rest, hrest⟩ := hfront
  refine head_dropWhile isBlank cs c ?_
  rw [← hrest, List.head?_append, Option.mem_def.1 hc]
  rfl

lemma last_trim (cs : List Char) : ∀ c ∈ (trim cs).getLast?, isBlank c = false := by
  rw [trim, strip, dropEndWhile, List.getLast?_reverse]
  exact head_dropWhile isBlank _

@[simp] lemma trim_trim (cs : List Char) : trim (trim cs) = trim cs :=
  trim_of_ends (head_trim cs) (last_trim cs)

lemma trim_dropWhile (cs : List Char) : trim (cs.dropWhile isBlank) = trim cs := by
  rw [trim, strip, dropWhile_of_head (head_dropWhile isBlank cs)]
  rfl

lemma length_trim_le (cs : List Char) : (trim cs).length ≤ cs.length := by
  have hback := (List.dropWhile_suffix (l := (cs.dropWhile isBlank).reverse) isBlank).length_le
  have hfront := (List.dropWhile_suffix (l := cs) isBlank).length_le
  rw [List.length_reverse] at hback
  rw [trim, strip, dropEndWhile, List.length_reverse]
  exact Nat.le_trans hback hfront

lemma trim_append_left {front : List Char} (h : ∀ c ∈ front, isBlank c = true) (cs : List Char) :
    trim (front ++ cs) = trim cs := by
  rw [trim, strip, List.dropWhile_append_of_pos h]
  rfl

lemma trim_append_right {back : List Char} (h : ∀ c ∈ back, isBlank c = true) (cs : List Char) :
    trim (cs ++ back) = trim cs := by
  have hback : back.dropWhile isBlank = [] := List.dropWhile_eq_nil_iff.2 h
  rw [trim, strip, List.dropWhile_append, hback]
  split
  · next hall => rw [trim, strip, List.isEmpty_iff.1 hall]
  · rw [dropEndWhile, List.reverse_append, List.dropWhile_append_of_pos (by simpa using h)]
    rfl

/-- A text is what trimming leaves of it, with blanks around. -/
lemma exists_trim (cs : List Char) : ∃ front back, (∀ c ∈ front, isBlank c = true) ∧
    (∀ c ∈ back, isBlank c = true) ∧ cs = front ++ (trim cs ++ back) := by
  refine ⟨cs.takeWhile isBlank, ((cs.dropWhile isBlank).reverse.takeWhile isBlank).reverse,
    fun c hc => List.mem_takeWhile_imp hc,
    fun c hc => List.mem_takeWhile_imp (List.mem_reverse.1 hc), ?_⟩
  rw [trim, strip, dropEndWhile, ← List.reverse_append, List.takeWhile_append_dropWhile,
    List.reverse_reverse, List.takeWhile_append_dropWhile]

lemma forall_isBlank_of_trim (h : trim cs = []) : ∀ c ∈ cs, isBlank c = true := by
  obtain ⟨front, back, hfront, hback, hcs⟩ := exists_trim cs
  rw [h, List.nil_append] at hcs
  rw [hcs]
  exact List.forall_mem_append.2 ⟨hfront, hback⟩

end VisualTemplate.Text
