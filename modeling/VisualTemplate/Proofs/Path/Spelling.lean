import Mathlib.Tactic.IntervalCases
import VisualTemplate.FieldPath
import VisualTemplate.Proofs.Decimal.Layout
import VisualTemplate.Proofs.Fill.Numbering
import VisualTemplate.Proofs.Text.Cut
/-!
The grammar of field paths, and their normal form.

A path is spelled as parts with dots between them, a part as a key and brackets, a bracket as
nothing or as digits with a plus sign at most. A text is read just if it is a spelling, and then as
the segments that are spelled. The text of a path is its one spelling without plus signs and
superfluous zeros, so it is read back as that path.
-/

namespace VisualTemplate

/-- The number of an index fits a machine word. -/
def Segment.Fits : Segment → Prop
  | .index n => n < 2 ^ 64
  | _ => True

namespace FieldPath

/-! ### Spellings -/

/-- A bracket behind a key: an open slot, or an index as it is written. -/
inductive Bracket where
  | slot
  | index (plus : Bool) (digits : List Char)

namespace Bracket

def inner : Bracket → List Char
  | slot => []
  | index plus digits => (if plus then ['+'] else []) ++ digits

def chars (b : Bracket) : List Char := '[' :: (b.inner ++ [']'])

def segment : Bracket → Segment
  | slot => .slot
  | index _ digits => .index (Nat.ofDigitChars 10 digits 0)

/-- An index has at least one digit. -/
def Valid : Bracket → Prop
  | slot => True
  | index _ digits => digits ≠ [] ∧ ∀ c ∈ digits, '0' ≤ c ∧ c ≤ '9'

/-- An index has no plus sign and no superfluous zero. -/
def Plain : Bracket → Prop
  | slot => True
  | index plus digits => plus = false ∧ (digits.head? = some '0' → digits = ['0'])

end Bracket

/-- A letter of ASCII or an underscore, then letters, digits, underscores and hyphens. -/
def IsIdentifier (key : List Char) : Prop :=
  ∃ c cs, key = c :: cs ∧ (c.isAlpha = true ∨ c = '_') ∧
    ∀ x ∈ cs, x.isAlphanum = true ∨ x = '_' ∨ x = '-'

/-- A key with its brackets. -/
structure Part where
  key : List Char
  brackets : List Bracket

namespace Part

def chars (w : Part) : List Char := w.key ++ w.brackets.flatMap Bracket.chars

def segments (w : Part) : List Segment := .key (.ofList w.key) :: w.brackets.map Bracket.segment

def Valid (w : Part) : Prop := IsIdentifier w.key ∧ ∀ b ∈ w.brackets, b.Valid

end Part

/-- The parts of a path as they are written. -/
structure Spelling where
  parts : List Part

namespace Spelling

def chars (w : Spelling) : List Char := ['.'].intercalate (w.parts.map Part.chars)

def segments (w : Spelling) : List Segment := w.parts.flatMap Part.segments

def Valid (w : Spelling) : Prop := w.parts ≠ [] ∧ ∀ x ∈ w.parts, x.Valid

def Plain (w : Spelling) : Prop := ∀ x ∈ w.parts, ∀ b ∈ x.brackets, b.Plain

end Spelling

/-! ### Reading brackets -/

lemma isDigit_iff {c : Char} : c.isDigit = true ↔ '0' ≤ c ∧ c ≤ '9' := by
  simp [Char.isDigit, Char.le_def]

/-- A run of digits that may have a plus sign before it. -/
lemma index?_inner {plus : Bool} {digits : List Char}
    (h : plus = false → digits.head? ≠ some '+') :
    index? (Bracket.index plus digits).inner =
      if digits.isEmpty || !digits.all Char.isDigit then none
      else if Decimal.wholeOf digits < 2 ^ 64 then some (Decimal.wholeOf digits) else none := by
  cases plus with
  | true => rfl
  | false =>
    unfold index?
    simp only [Bracket.inner, Bool.false_eq_true, if_false, List.nil_append]
    split
    · next ds => exact absurd rfl (h rfl)
    · rfl

lemma index?_eq_some {cs : List Char} {n : ℕ} : index? cs = some n ↔
    ∃ plus digits, (Bracket.index plus digits).Valid ∧ (Bracket.index plus digits).inner = cs ∧
      Nat.ofDigitChars 10 digits 0 = n ∧ n < 2 ^ 64 := by
  have hrun {plus : Bool} {digits : List Char} (h : plus = false → digits.head? ≠ some '+') :
      index? (Bracket.index plus digits).inner = some n ↔
        (Bracket.index plus digits).Valid ∧ Nat.ofDigitChars 10 digits 0 = n ∧ n < 2 ^ 64 := by
    rw [index?_inner h, Bracket.Valid, ← Decimal.wholeOf_eq_ofDigitChars]
    simp only [← isDigit_iff]
    by_cases hne : digits = [] <;> by_cases hall : ∀ c ∈ digits, c.isDigit = true <;>
      by_cases hlt : Decimal.wholeOf digits < 2 ^ 64 <;> simp_all <;> omega
  constructor
  · intro h
    obtain ⟨plus, digits, hhead, rfl⟩ : ∃ plus digits,
        (plus = false → List.head? digits ≠ some '+') ∧ (Bracket.index plus digits).inner = cs := by
      by_cases hplus : cs.head? = some '+'
      · obtain ⟨digits, rfl⟩ := List.head?_eq_some_iff.1 hplus
        exact ⟨true, digits, by simp, rfl⟩
      · exact ⟨false, cs, fun _ => hplus, rfl⟩
    obtain ⟨hvalid, hn⟩ := (hrun hhead).1 h
    exact ⟨plus, digits, hvalid, rfl, hn⟩
  · rintro ⟨plus, digits, hvalid, rfl, hn⟩
    refine (hrun fun _ hhead => ?_).2 ⟨hvalid, hn⟩
    have hplus := hvalid.2 '+' (List.mem_of_mem_head? hhead)
    exact absurd hplus (by decide)

/-- What stands between brackets is read as the bracket that it spells. -/
lemma bracket?_eq_some {cs : List Char} {s : Segment} : bracket? cs = some s ↔
    ∃ b : Bracket, b.Valid ∧ b.inner = cs ∧ b.segment = s ∧ s.Fits := by
  unfold bracket?
  constructor
  · intro h
    split at h
    · next hempty =>
      obtain rfl := Option.some.inj h
      exact ⟨.slot, trivial, (List.isEmpty_iff.1 hempty).symm, rfl, trivial⟩
    · obtain ⟨n, hn, rfl⟩ := Option.map_eq_some_iff.1 h
      obtain ⟨plus, digits, hvalid, hinner, rfl, hlt⟩ := index?_eq_some.1 hn
      exact ⟨.index plus digits, hvalid, hinner, rfl, hlt⟩
  · rintro ⟨b, hvalid, rfl, rfl, hfits⟩
    cases b with
    | slot => rfl
    | index plus digits =>
      have hne : (Bracket.index plus digits).inner.isEmpty = false := by
        simp [Bracket.inner, hvalid.1]
      rw [hne, if_neg Bool.false_ne_true, index?_eq_some.2 ⟨plus, digits, hvalid, rfl, rfl, hfits⟩]
      rfl

/-- No bracket holds a closing bracket. -/
lemma Bracket.Valid.notMem_inner {b : Bracket} (h : b.Valid) {c : Char} (hc : ¬ c.isDigit = true)
    (hplus : c ≠ '+') : c ∉ b.inner := by
  cases b with
  | slot => exact List.not_mem_nil
  | index plus digits =>
    intro hmem
    rcases List.mem_append.1 hmem with hmem | hmem
    · cases plus with
      | true => exact hplus (List.mem_singleton.1 hmem)
      | false => exact List.not_mem_nil hmem
    · exact hc (isDigit_iff.2 (h.2 c hmem))

/-- What stands behind a key is read as the brackets that it spells. -/
lemma brackets?_eq_some {cs : List Char} {ss : List Segment} : brackets? cs = some ss ↔
    ∃ bs : List Bracket, (∀ b ∈ bs, b.Valid) ∧ bs.flatMap Bracket.chars = cs ∧
      bs.map Bracket.segment = ss ∧ ∀ s ∈ ss, s.Fits := by
  constructor
  · intro h
    fun_induction brackets? cs generalizing ss with
    | case1 =>
      obtain rfl := Option.some.inj h
      exact ⟨[], by simp, rfl, rfl, by simp⟩
    | case2 => cases h
    | case3 cs inner rest hcut ih =>
      obtain ⟨s, hs, h⟩ := Option.bind_eq_some_iff.1 h
      obtain ⟨ss', hss, h⟩ := Option.bind_eq_some_iff.1 h
      obtain rfl := Option.some.inj h
      obtain ⟨b, hb, rfl, rfl, hfit⟩ := bracket?_eq_some.1 hs
      obtain ⟨bs, hbs, rfl, rfl, hfits⟩ := ih hss
      obtain ⟨-, c, hc, rfl⟩ := Text.append_of_cutAt hcut
      obtain rfl : c = ']' := by simpa using hc
      refine ⟨b :: bs, List.forall_mem_cons.2 ⟨hb, hbs⟩, ?_, rfl,
        List.forall_mem_cons.2 ⟨hfit, hfits⟩⟩
      simp [Bracket.chars]
    | case4 => cases h
  · rintro ⟨bs, hbs, rfl, rfl, hfits⟩
    induction bs with
    | nil => simp [brackets?]
    | cons b bs ih =>
      rw [List.forall_mem_cons] at hbs
      rw [List.map_cons, List.forall_mem_cons] at hfits
      have hcut : Text.cutAt (· == ']') (b.inner ++ ']' :: bs.flatMap Bracket.chars) =
          some (b.inner, bs.flatMap Bracket.chars) := by
        refine Text.cutAt_append (fun x hx => ?_) rfl _
        rw [beq_eq_false_iff_ne]
        rintro rfl
        exact hbs.1.notMem_inner (by decide) (by decide) hx
      have hchars : (b :: bs).flatMap Bracket.chars =
          '[' :: (b.inner ++ ']' :: bs.flatMap Bracket.chars) := by
        simp [Bracket.chars]
      rw [hchars, brackets?, if_pos rfl]
      split
      · next hnone => rw [hcut] at hnone; cases hnone
      · next inner rest hsome =>
        rw [hcut, Option.some.injEq, Prod.mk.injEq] at hsome
        obtain ⟨rfl, rfl⟩ := hsome
        rw [bracket?_eq_some.2 ⟨b, hbs.1, rfl, rfl, hfits.1⟩, ih hbs.2 hfits.2]
        rfl

/-! ### Reading parts -/

lemma isKey_iff {cs : List Char} : isKey cs = true ↔ IsIdentifier cs := by
  cases cs with
  | nil => simp [isKey, IsIdentifier]
  | cons c cs => simp [isKey, IsIdentifier, isKeyStart, isKeyChar, or_assoc]

lemma IsIdentifier.notMem {key : List Char} (h : IsIdentifier key) {c : Char}
    (hc : isKeyChar c = false) : c ∉ key := by
  obtain ⟨x, cs, rfl, hx, hcs⟩ := h
  intro hmem
  have hkey : isKeyChar c = true := by
    rcases List.mem_cons.1 hmem with rfl | hmem
    · rcases hx with hx | rfl
      · simp [isKeyChar, Char.isAlphanum, hx]
      · rfl
    · rcases hcs c hmem with hx | rfl | rfl
      · simp [isKeyChar, hx]
      · rfl
      · rfl
  rw [hkey] at hc
  cases hc

/-- A part is a key up to its first bracket, and then brackets. -/
lemma Part.Valid.span_chars {w : Part} (h : w.Valid) :
    w.chars.span (· != '[') = (w.key, w.brackets.flatMap Bracket.chars) := by
  have hstop : ∀ c ∈ w.key, (c != '[') = true := by
    intro c hc
    rw [bne_iff_ne]
    rintro rfl
    exact h.1.notMem rfl hc
  rw [List.span_eq_takeWhile_dropWhile, Part.chars, List.takeWhile_append_of_pos hstop,
    List.dropWhile_append_of_pos hstop]
  cases w.brackets <;> simp [Bracket.chars]

lemma part?_eq_some {cs : List Char} {ss : List Segment} : part? cs = some ss ↔
    ∃ w : Part, w.Valid ∧ w.chars = cs ∧ w.segments = ss ∧ ∀ s ∈ ss, s.Fits := by
  unfold part?
  constructor
  · intro h
    rw [List.span_eq_takeWhile_dropWhile] at h
    dsimp only at h
    split at h
    · next hkey =>
      obtain ⟨ss, hss, rfl⟩ := Option.map_eq_some_iff.1 h
      obtain ⟨bs, hbs, hchars, rfl, hfits⟩ := brackets?_eq_some.1 hss
      refine ⟨⟨_, bs⟩, ⟨isKey_iff.1 hkey, hbs⟩, ?_, rfl,
        List.forall_mem_cons.2 ⟨trivial, hfits⟩⟩
      rw [Part.chars, hchars, List.takeWhile_append_dropWhile]
    · cases h
  · rintro ⟨w, hw, rfl, rfl, hfits⟩
    rw [hw.span_chars]
    dsimp only
    rw [if_pos (isKey_iff.2 hw.1),
      brackets?_eq_some.2 ⟨w.brackets, hw.2, rfl, rfl, (List.forall_mem_cons.1 hfits).2⟩]
    rfl

lemma Bracket.Valid.dot_notMem {b : Bracket} (h : b.Valid) : '.' ∉ b.chars := by
  have hinner := h.notMem_inner (c := '.') (by decide) (by decide)
  simp [Bracket.chars, hinner]

lemma Part.Valid.dot_notMem {w : Part} (h : w.Valid) : '.' ∉ w.chars := by
  rw [Part.chars, List.mem_append, List.mem_flatMap, not_or, not_exists]
  exact ⟨h.1.notMem rfl, fun b hb => (h.2 b hb.1).dot_notMem hb.2⟩

/-- The parts of a spelling are what stands between its dots. -/
lemma Spelling.Valid.splitOn_chars {w : Spelling} (h : w.Valid) :
    w.chars.splitOn '.' = w.parts.map Part.chars := by
  rw [Spelling.chars, List.splitOn_intercalate]
  · simpa using fun x hx => (h.2 x hx).dot_notMem
  · simpa using h.1

lemma mapM_part?_eq_some {xs : List (List Char)} {sss : List (List Segment)} :
    xs.mapM part? = some sss ↔ ∃ ws : List Part, (∀ w ∈ ws, w.Valid) ∧ ws.map Part.chars = xs ∧
      ws.map Part.segments = sss ∧ ∀ s ∈ sss.flatten, s.Fits := by
  induction xs generalizing sss with
  | nil =>
    constructor
    · intro h
      obtain rfl := Option.some.inj h
      exact ⟨[], by simp⟩
    · rintro ⟨ws, -, hnil, rfl, -⟩
      rw [List.map_eq_nil_iff.1 hnil]
      rfl
  | cons x xs ih =>
    simp only [List.mapM_cons, Option.bind_eq_bind, Option.bind_eq_some_iff, part?_eq_some, ih]
    constructor
    · rintro ⟨_, ⟨w, hw, rfl, rfl, hfit⟩, _, ⟨ws, hws, rfl, rfl, hfits⟩, h⟩
      obtain rfl := Option.some.inj h
      exact ⟨w :: ws, List.forall_mem_cons.2 ⟨hw, hws⟩, rfl, rfl,
        List.forall_mem_append.2 ⟨hfit, hfits⟩⟩
    · rintro ⟨ws, hws, hchars, rfl, hfits⟩
      obtain ⟨w, ws, rfl, rfl, rfl⟩ := List.map_eq_cons_iff.1 hchars
      rw [List.forall_mem_cons] at hws
      rw [List.map_cons, List.flatten_cons, List.forall_mem_append] at hfits
      exact ⟨_, ⟨w, hws.1, rfl, rfl, hfits.1⟩, _, ⟨ws, hws.2, rfl, rfl, hfits.2⟩, rfl⟩

/-- **A text is read just if it is a spelling whose numbers fit, and then as what it spells.** -/
theorem ofText?_eq_some {s : String} {p : FieldPath} : ofText? s = some p ↔
    ∃ w : Spelling, w.Valid ∧ w.chars = s.toList ∧ w.segments = p.segments ∧
      ∀ x ∈ p.segments, x.Fits := by
  constructor
  · intro h
    obtain ⟨sss, hsss, rfl⟩ := Option.map_eq_some_iff.1 h
    obtain ⟨ws, hws, hchars, rfl, hfits⟩ := mapM_part?_eq_some.1 hsss
    refine ⟨⟨ws⟩, ⟨?_, hws⟩, ?_, List.flatMap_def, hfits⟩
    · rintro rfl
      exact List.splitOn_ne_nil _ _ hchars.symm
    · rw [Spelling.chars, hchars, List.intercalate_splitOn]
  · rintro ⟨w, hw, hchars, hsegments, hfits⟩
    rw [← hsegments, Spelling.segments, List.flatMap_def] at hfits
    rw [ofText?, ← hchars, hw.splitOn_chars,
      mapM_part?_eq_some.2 ⟨w.parts, hw.2, rfl, rfl, hfits⟩, Option.map_some, ← List.flatMap_def]
    exact congrArg (fun ss => some (FieldPath.mk ss)) hsegments

/-! ### A text has one spelling -/

lemma Bracket.Valid.inner_inj {b b' : Bracket} (h : b.Valid) (h' : b'.Valid)
    (heq : b.inner = b'.inner) : b = b' := by
  have hplus {digits digits' : List Char} (h : (Bracket.index false digits').Valid)
      (heq : '+' :: digits = digits') : False :=
    absurd (h.2 '+' (heq ▸ List.mem_cons_self)) (by decide)
  match b, b' with
  | .slot, .slot => rfl
  | .slot, .index plus digits => exact absurd heq.symm (by simp [inner, h'.1])
  | .index plus digits, .slot => exact absurd heq (by simp [inner, h.1])
  | .index true digits, .index true digits' => exact congrArg _ (List.cons.inj heq).2
  | .index false digits, .index false digits' => exact congrArg _ heq
  | .index true digits, .index false digits' => exact (hplus h' heq).elim
  | .index false digits, .index true digits' => exact (hplus h heq.symm).elim

lemma brackets_inj {bs bs' : List Bracket} (h : ∀ b ∈ bs, b.Valid) (h' : ∀ b ∈ bs', b.Valid)
    (heq : bs.flatMap Bracket.chars = bs'.flatMap Bracket.chars) : bs = bs' := by
  induction bs generalizing bs' with
  | nil => cases bs' <;> simp_all [Bracket.chars]
  | cons b bs ih =>
    cases bs' with
    | nil => simp [Bracket.chars] at heq
    | cons b' bs' =>
      rw [List.forall_mem_cons] at h h'
      have hclose {b : Bracket} (hb : b.Valid) : ']' ∉ b.inner :=
        hb.notMem_inner (by decide) (by decide)
      simp only [List.flatMap_cons, Bracket.chars, List.cons_append, List.append_assoc,
        List.nil_append, List.cons.injEq, true_and] at heq
      -- no bracket holds a closing one, so the first closing one ends both
      have hcut := Text.cutAt_append (p := (· == ']')) (c := ']')
        (fun x hx => beq_false_of_ne (ne_of_mem_of_not_mem hx (hclose h.1))) rfl
        (bs.flatMap Bracket.chars)
      have hcut' := Text.cutAt_append (p := (· == ']')) (c := ']')
        (fun x hx => beq_false_of_ne (ne_of_mem_of_not_mem hx (hclose h'.1))) rfl
        (bs'.flatMap Bracket.chars)
      rw [heq, hcut', Option.some.injEq, Prod.mk.injEq] at hcut
      rw [h.1.inner_inj h'.1 hcut.1.symm, ih h.2 h'.2 hcut.2.symm]

lemma Part.Valid.chars_inj {w w' : Part} (h : w.Valid) (h' : w'.Valid)
    (heq : w.chars = w'.chars) : w = w' := by
  have hspan := h.span_chars
  rw [heq, h'.span_chars, Prod.mk.injEq] at hspan
  obtain ⟨key, bs⟩ := w
  rw [Part.mk.injEq]
  exact ⟨hspan.1.symm, brackets_inj h.2 h'.2 hspan.2.symm⟩

lemma parts_inj {ws ws' : List Part} (h : ∀ w ∈ ws, w.Valid) (h' : ∀ w ∈ ws', w.Valid)
    (heq : ws.map Part.chars = ws'.map Part.chars) : ws = ws' := by
  induction ws generalizing ws' with
  | nil => exact (List.map_eq_nil_iff.1 heq.symm).symm
  | cons w ws ih =>
    obtain ⟨w', ws', rfl, hw, hws⟩ := List.map_eq_cons_iff.1 heq.symm
    rw [List.forall_mem_cons] at h h'
    rw [h.1.chars_inj h'.1 hw.symm, ih h.2 h'.2 hws.symm]

/-- Different spellings are different texts. -/
theorem Spelling.Valid.chars_inj {w w' : Spelling} (h : w.Valid) (h' : w'.Valid)
    (heq : w.chars = w'.chars) : w = w' := by
  have hparts : w.parts.map Part.chars = w'.parts.map Part.chars := by
    rw [← h.splitOn_chars, heq, h'.splitOn_chars]
  rw [Spelling.mk.injEq]
  exact parts_inj h.2 h'.2 hparts

/-! ### Runs of digits -/

/-- A number is not written with a superfluous zero. -/
lemma digitsOf_eq_of_head {n : ℕ} (h : (Decimal.digitsOf n).head? = some '0') :
    Decimal.digitsOf n = ['0'] := by
  rw [Decimal.digitsOf, Nat.toList_repr] at h ⊢
  induction n using Nat.strong_induction_on with
  | h n ih =>
    rcases Nat.lt_or_ge n 10 with hlt | hge
    · rw [Nat.toDigits_of_lt_base hlt] at h ⊢
      rw [List.head?_cons, Option.some.injEq] at h
      rw [h]
    · -- the digits before the last are those of a smaller number, which is not zero
      rw [Nat.toDigits_of_base_le (by norm_num) hge,
        List.head?_append_of_ne_nil _ Nat.toDigits_ne_nil] at h
      have hzero := congrArg (Nat.ofDigitChars 10 · 0) (ih (n / 10) (by omega) h)
      simp only [Nat.ofDigitChars_ten_toDigits] at hzero
      exact absurd hzero (by simp [Nat.ofDigitChars]; omega)

lemma digitChar_of_isDigit {c : Char} (h : c.isDigit = true) :
    c.toNat - '0'.toNat < 10 ∧ Nat.digitChar (c.toNat - '0'.toNat) = c := by
  rw [isDigit_iff, Char.le_def, Char.le_def, UInt32.le_iff_toNat_le, UInt32.le_iff_toNat_le] at h
  change 48 ≤ c.toNat ∧ c.toNat ≤ 57 at h
  obtain ⟨k, hk⟩ := Nat.exists_eq_add_of_le h.1
  have hlt : k < 10 := by omega
  have hc : c = Char.ofNat (48 + k) := by rw [← hk, Char.ofNat_toNat]
  subst hc
  interval_cases k <;> exact ⟨by decide, by decide⟩

/-- A run of digits without a superfluous zero is how its number is written. -/
lemma digitsOf_ofDigitChars {ds : List Char} (hne : ds ≠ []) (hds : ∀ c ∈ ds, c.isDigit = true)
    (hzero : ds.head? = some '0' → ds = ['0']) :
    Decimal.digitsOf (Nat.ofDigitChars 10 ds 0) = ds := by
  rw [Decimal.digitsOf, Nat.toList_repr]
  induction ds using List.reverseRecOn with
  | nil => exact absurd rfl hne
  | append_singleton ds d ih =>
    obtain ⟨hd, hdigit⟩ := digitChar_of_isDigit (hds d (by simp))
    have hvalue : Nat.ofDigitChars 10 (ds ++ [d]) 0 =
        10 * Nat.ofDigitChars 10 ds 0 + (d.toNat - '0'.toNat) := by
      rw [Nat.ofDigitChars_append, Nat.ofDigitChars_cons, Nat.ofDigitChars_nil]
    have hlast : Nat.toDigits 10 (d.toNat - '0'.toNat) = [d] := by
      rw [Nat.toDigits_of_lt_base hd, hdigit]
    rw [hvalue]
    by_cases hds' : ds = []
    · rw [hds', Nat.ofDigitChars_nil, Nat.mul_zero, Nat.zero_add, hlast, List.nil_append]
    · have hhead : (ds ++ [d]).head? = ds.head? := List.head?_append_of_ne_nil _ hds'
      have hnot : ds.head? ≠ some '0' := by
        intro h
        have hsingle := congrArg List.length (hzero (hhead.trans h))
        exact hds' (List.eq_nil_of_length_eq_zero (by simpa using hsingle))
      have hinit := ih hds' (fun c hc => hds c (by simp [hc])) fun h => absurd h hnot
      have hpos : 0 < Nat.ofDigitChars 10 ds 0 := by
        rw [Nat.pos_iff_ne_zero]
        intro hz
        rw [hz, Nat.toDigits_zero] at hinit
        exact hnot (hinit ▸ rfl)
      rw [← Nat.toDigits_append_toDigits (by norm_num) hpos hd, hinit, hlast]

/-! ### The text of a path -/

/-- A path begins with a key, and its keys are identifiers. -/
structure Proper (p : FieldPath) : Prop where
  head : ∃ name rest, p.segments = .key name :: rest
  keys : ∀ name, .key name ∈ p.segments → IsIdentifier name.toList

lemma Bracket.segment_ne_key (b : Bracket) (name : String) : b.segment ≠ .key name := by
  cases b <;> simp [segment]

lemma Spelling.Valid.proper {w : Spelling} {p : FieldPath} (h : w.Valid)
    (hsegments : w.segments = p.segments) : p.Proper := by
  obtain ⟨x, ws, hparts⟩ := List.exists_cons_of_ne_nil h.1
  refine ⟨⟨.ofList x.key, x.brackets.map Bracket.segment ++ ws.flatMap Part.segments, ?_⟩, ?_⟩
  · simp [← hsegments, Spelling.segments, hparts, Part.segments]
  · intro name hname
    rw [← hsegments, Spelling.segments, List.mem_flatMap] at hname
    obtain ⟨x, hx, hname⟩ := hname
    rcases List.mem_cons.1 hname with hname | hname
    · obtain rfl := Segment.key.inj hname
      simpa using (h.2 x hx).1
    · obtain ⟨b, -, hb⟩ := List.mem_map.1 hname
      exact absurd hb (b.segment_ne_key name)

/-- Segments are spelled plainly, the brackets before the first key by themselves. -/
lemma exists_plain {ss : List Segment}
    (h : ∀ name, .key name ∈ ss → IsIdentifier name.toList) :
    ∃ (bs : List Bracket) (ws : List Part), (∀ b ∈ bs, b.Valid ∧ b.Plain) ∧
      (∀ w ∈ ws, w.Valid ∧ ∀ b ∈ w.brackets, b.Plain) ∧
      bs.map Bracket.segment ++ ws.flatMap Part.segments = ss := by
  induction ss with
  | nil => exact ⟨[], [], by simp⟩
  | cons s ss ih =>
    obtain ⟨bs, ws, hbs, hws, rfl⟩ := ih fun name hname => h name (List.mem_cons_of_mem _ hname)
    cases s with
    | key name =>
      refine ⟨[], ⟨name.toList, bs⟩ :: ws, by simp, List.forall_mem_cons.2 ⟨⟨⟨?_, ?_⟩, ?_⟩, hws⟩,
        by simp [Part.segments]⟩
      · exact h name List.mem_cons_self
      · exact fun b hb => (hbs b hb).1
      · exact fun b hb => (hbs b hb).2
    | index n =>
      refine ⟨.index false (Decimal.digitsOf n) :: bs, ws,
        List.forall_mem_cons.2 ⟨⟨⟨Decimal.digitsOf_ne_nil n, ?_⟩, rfl, digitsOf_eq_of_head⟩, hbs⟩,
        hws, ?_⟩
      · exact fun c hc => isDigit_iff.1 (Decimal.isDigit_of_mem_digitsOf hc)
      · simp [Bracket.segment, ← Decimal.wholeOf_eq_ofDigitChars]
    | slot =>
      exact ⟨.slot :: bs, ws, List.forall_mem_cons.2 ⟨⟨trivial, trivial⟩, hbs⟩, hws, rfl⟩

lemma Proper.exists_plain {p : FieldPath} (h : p.Proper) :
    ∃ w : Spelling, w.Valid ∧ w.Plain ∧ w.segments = p.segments := by
  obtain ⟨bs, ws, -, hws, hsegments⟩ := FieldPath.exists_plain h.keys
  obtain ⟨name, rest, hhead⟩ := h.head
  rw [hhead] at hsegments
  -- the path begins with a key, so no bracket stands before the first key
  obtain rfl : bs = [] := by
    cases bs with
    | nil => rfl
    | cons b bs => exact absurd (List.cons.inj hsegments).1 (b.segment_ne_key name)
  refine ⟨⟨ws⟩, ⟨?_, fun x hx => (hws x hx).1⟩, fun x hx => (hws x hx).2,
    hsegments.trans hhead.symm⟩
  rintro rfl
  cases hsegments

lemma toList_text {name : String} {rest : List Segment} :
    (text ⟨.key name :: rest⟩).toList =
      name.toList ++ rest.flatMap fun s => (Segment.text s).toList := by
  simp [text, List.flatMap_map]

lemma Bracket.Valid.toList_text {b : Bracket} (h : b.Valid) (hplain : b.Plain) :
    (Segment.text b.segment).toList = b.chars := by
  cases b with
  | slot => rfl
  | index plus digits =>
    obtain ⟨rfl, hzero⟩ := hplain
    have hdigits := digitsOf_ofDigitChars h.1 (fun c hc => isDigit_iff.2 (h.2 c hc)) hzero
    rw [Decimal.digitsOf] at hdigits
    simp [segment, Segment.text, chars, inner, hdigits]

lemma toList_text_brackets {bs : List Bracket} (h : ∀ b ∈ bs, b.Valid)
    (hplain : ∀ b ∈ bs, b.Plain) :
    (bs.map Bracket.segment).flatMap (fun s => (Segment.text s).toList) =
      bs.flatMap Bracket.chars := by
  rw [List.flatMap_map]
  exact List.flatMap_congr fun b hb => (h b hb).toList_text (hplain b hb)

lemma toList_text_parts {ws : List Part} (h : ∀ w ∈ ws, w.Valid)
    (hplain : ∀ w ∈ ws, ∀ b ∈ w.brackets, b.Plain) :
    (ws.flatMap Part.segments).flatMap (fun s => (Segment.text s).toList) =
      ws.flatMap fun w => '.' :: w.chars := by
  rw [List.flatMap_assoc]
  refine List.flatMap_congr fun w hw => ?_
  rw [Part.segments, List.flatMap_cons, toList_text_brackets (h w hw).2 (hplain w hw)]
  simp [Segment.text, Part.chars]

/-- A plain spelling is the text of the path that it spells. -/
lemma Spelling.Valid.toList_text {w : Spelling} (h : w.Valid) (hplain : w.Plain) :
    (text ⟨w.segments⟩).toList = w.chars := by
  obtain ⟨ws⟩ := w
  obtain ⟨x, ws, rfl⟩ := List.exists_cons_of_ne_nil h.1
  obtain ⟨hx, hws⟩ := List.forall_mem_cons.1 h.2
  obtain ⟨hxplain, hplain⟩ := List.forall_mem_cons.1 hplain
  have hdots (x : Part) (ws : List Part) : ['.'].intercalate ((x :: ws).map Part.chars) =
      x.chars ++ ws.flatMap fun w => '.' :: w.chars := by
    induction ws generalizing x with
    | nil => simp
    | cons y ws ih =>
      rw [List.map_cons, List.map_cons, List.intercalate_cons_cons, ← List.map_cons, ih]
      simp
  rw [Spelling.chars, hdots, Part.chars, Spelling.segments, List.flatMap_cons, Part.segments,
    List.cons_append, FieldPath.toList_text, List.flatMap_append,
    toList_text_brackets hx.2 hxplain, toList_text_parts hws hplain, String.toList_ofList,
    List.append_assoc]

/-- **The text of a path is read as that path.** -/
theorem ofText?_text {p : FieldPath} (h : p.Proper) (hfits : ∀ x ∈ p.segments, x.Fits) :
    ofText? p.text = some p := by
  obtain ⟨w, hw, hplain, hsegments⟩ := h.exists_plain
  refine ofText?_eq_some.2 ⟨w, hw, ?_, hsegments, hfits⟩
  rw [← hw.toList_text hplain, hsegments]

/-- Different paths have different texts. -/
theorem Proper.text_inj {p q : FieldPath} (hp : p.Proper) (hq : q.Proper)
    (h : p.text = q.text) : p = q := by
  obtain ⟨w, hw, hplain, hsegments⟩ := hp.exists_plain
  obtain ⟨w', hw', hplain', hsegments'⟩ := hq.exists_plain
  have hchars : w.chars = w'.chars := by
    rw [← hw.toList_text hplain, ← hw'.toList_text hplain', hsegments, hsegments']
    exact congrArg String.toList h
  obtain rfl := hw.chars_inj hw' hchars
  exact congrArg FieldPath.mk (hsegments.symm.trans hsegments')

/-- A path whose text is an identifier is one key. -/
lemma Proper.eq_of_isIdentifier {p : FieldPath} (hp : p.Proper)
    (h : IsIdentifier p.text.toList) : p = ⟨[.key p.text]⟩ := by
  have hkey : Proper ⟨[.key p.text]⟩ := by
    refine ⟨⟨_, _, rfl⟩, fun name hname => ?_⟩
    obtain rfl := Segment.key.inj (List.mem_singleton.1 hname)
    exact h
  refine hp.text_inj hkey ?_
  simp [text]

/-- The text of a path is its plain spelling and no other. -/
lemma Spelling.Valid.text_eq_iff {w : Spelling} {p : FieldPath} {s : String} (h : w.Valid)
    (hchars : w.chars = s.toList) (hsegments : w.segments = p.segments) :
    p.text = s ↔ w.Plain := by
  constructor
  · rintro rfl
    obtain ⟨w', hw', hplain, hsegments'⟩ := (h.proper hsegments).exists_plain
    have heq : w.chars = w'.chars := by
      rw [hchars, ← hw'.toList_text hplain, hsegments']
    rwa [h.chars_inj hw' heq]
  · intro hplain
    rw [← String.toList_inj, ← hchars, ← h.toList_text hplain, hsegments]

/-! ### A filled slot -/

lemma Fills.proper {p q : FieldPath} {k : ℕ} (h : Fills k p q) (hp : p.Proper) : q.Proper := by
  rcases h with ⟨-, rfl⟩ | ⟨front, back, -, hsegments, hsegments'⟩
  · exact hp
  · obtain ⟨name, rest, hhead⟩ := hp.head
    refine ⟨?_, fun name hname => hp.keys name ?_⟩
    · cases front with
      | nil => rw [hsegments] at hhead; cases hhead
      | cons s front =>
        rw [hsegments, List.cons_append, List.cons.injEq] at hhead
        exact ⟨name, front ++ .index k :: back, by rw [hsegments', hhead.1, List.cons_append]⟩
    · rw [hsegments', List.mem_append, List.mem_cons] at hname
      rw [hsegments, List.mem_append, List.mem_cons]
      exact hname.imp_right fun h => .inr (h.resolve_left (by simp))

lemma Fills.fits {p q : FieldPath} {k : ℕ} (h : Fills k p q) (hk : k < 2 ^ 64)
    (hp : ∀ s ∈ p.segments, s.Fits) : ∀ s ∈ q.segments, s.Fits := by
  rcases h with ⟨-, rfl⟩ | ⟨front, back, -, hsegments, hsegments'⟩
  · exact hp
  · rw [hsegments, List.forall_mem_append, List.forall_mem_cons] at hp
    rw [hsegments', List.forall_mem_append, List.forall_mem_cons]
    exact ⟨hp.1, hk, hp.2.2⟩

/-- Filling takes one slot away, if there is one. -/
lemma Fills.count_slot {p q : FieldPath} {k : ℕ} (h : Fills k p q) :
    q.segments.count .slot = p.segments.count .slot - 1 := by
  rcases h with ⟨hnone, rfl⟩ | ⟨front, back, -, hsegments, hsegments'⟩
  · rw [List.count_eq_zero_of_not_mem hnone]
  · rw [hsegments, hsegments', List.count_append, List.count_append, List.count_cons_self,
      List.count_cons_of_ne (by simp), ← Nat.add_assoc, Nat.add_sub_cancel]

end FieldPath

end VisualTemplate
