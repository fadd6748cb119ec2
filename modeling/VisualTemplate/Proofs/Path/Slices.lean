import VisualTemplate.Proofs.Path.Spelling
/-!
Field paths read by slices of bytes.

A reader may look for the brackets of a text and take the pieces between them by their places in
bytes, the closing bracket being looked for before the opening one is checked. A slice that ends
beyond the text or within a character is a fault of its own. No text has this fault: the places are
those of brackets that were found, so such a reader reads every text as the grammar says.
-/

namespace VisualTemplate

/-! ### Slices -/

namespace Text

def byteLength (cs : List Char) : ℕ := (cs.map Char.utf8Size).sum

/-- How many bytes stand before the first occurrence of a character. -/
def offsetOf? (c : Char) : List Char → Option ℕ
  | [] => none
  | x :: cs => if x == c then some 0 else (offsetOf? c cs).map (x.utf8Size + ·)

/-- What stands before a byte, unless the byte is beyond the end or within a character. -/
def upTo? : List Char → ℕ → Option (List Char)
  | _, 0 => some []
  | [], _ + 1 => none
  | c :: cs, i + 1 =>
    if c.utf8Size ≤ i + 1 then (upTo? cs (i + 1 - c.utf8Size)).map (c :: ·) else none

/-- What stands from a byte on, unless the byte is beyond the end or within a character. -/
def from? : List Char → ℕ → Option (List Char)
  | cs, 0 => some cs
  | [], _ + 1 => none
  | c :: cs, i + 1 => if c.utf8Size ≤ i + 1 then from? cs (i + 1 - c.utf8Size) else none

/-- What stands from one byte on and before another. -/
def slice? (cs : List Char) (i j : ℕ) : Option (List Char) := (upTo? cs j).bind (from? · i)

@[simp] lemma byteLength_cons (c : Char) (cs : List Char) :
    byteLength (c :: cs) = c.utf8Size + byteLength cs := by
  simp [byteLength]

lemma byteLength_append (cs ds : List Char) :
    byteLength (cs ++ ds) = byteLength cs + byteLength ds := by
  simp [byteLength]

/-- A character takes a byte at least, and behind it the rest is as long as before. -/
lemma exists_byteLength_cons (c : Char) (cs : List Char) : ∃ i, byteLength (c :: cs) = i + 1 ∧
    c.utf8Size ≤ i + 1 ∧ i + 1 - c.utf8Size = byteLength cs := by
  have hpos := c.utf8Size_pos
  refine ⟨byteLength (c :: cs) - 1, ?_, ?_, ?_⟩ <;> rw [byteLength_cons] <;> omega

lemma offsetOf?_eq (c : Char) (cs : List Char) :
    offsetOf? c cs = (cutAt (· == c) cs).map fun (front, _) => byteLength front := by
  induction cs with
  | nil => rfl
  | cons x cs ih =>
    rw [offsetOf?, cutAt, ih]
    split
    · rfl
    · cases cutAt (· == c) cs <;> simp

lemma upTo?_append (front back : List Char) :
    upTo? (front ++ back) (byteLength front) = some front := by
  induction front with
  | nil => rw [byteLength]; cases back <;> rfl
  | cons c front ih =>
    obtain ⟨i, hi, hfits, hrest⟩ := exists_byteLength_cons c front
    rw [hi, List.cons_append, upTo?, if_pos hfits, hrest, ih]
    rfl

lemma from?_append (front back : List Char) :
    from? (front ++ back) (byteLength front) = some back := by
  induction front with
  | nil => rw [byteLength]; cases back <;> rfl
  | cons c front ih =>
    obtain ⟨i, hi, hfits, hrest⟩ := exists_byteLength_cons c front
    rw [hi, List.cons_append, from?, if_pos hfits, hrest, ih]

lemma slice?_append (front middle back : List Char) :
    slice? (front ++ (middle ++ back)) (byteLength front) (byteLength (front ++ middle)) =
      some middle := by
  rw [slice?, ← List.append_assoc, upTo?_append, Option.bind_some, from?_append]

lemma length_from?_le {cs rest : List Char} {i : ℕ} (h : from? cs i = some rest) :
    rest.length ≤ cs.length := by
  fun_induction from? cs i with
  | case1 => rw [Option.some.inj h]
  | case2 => cases h
  | case3 c cs i _ ih => exact (ih h).trans (Nat.le_succ _)
  | case4 => cases h

/-- From a later byte on there is less. -/
lemma length_from?_lt {cs rest : List Char} {i : ℕ} (h : from? cs (i + 1) = some rest) :
    rest.length < cs.length := by
  cases cs with
  | nil => cases h
  | cons c cs =>
    rw [from?] at h
    split at h
    · exact Nat.lt_succ_of_le (length_from?_le h)
    · cases h

end Text

/-! ### The reader -/

namespace FieldPath

inductive SliceFault where
  /-- A slice ends beyond the text or within a character. -/
  | outOfRange
  | malformed
  deriving DecidableEq

/-- The brackets behind a key: up to the next closing bracket, if an opening one is first. -/
def bracketsBySlices (rest : List Char) : Except SliceFault (List Segment) :=
  if rest.isEmpty then .ok []
  else match Text.offsetOf? ']' rest with
    | none => .error .malformed
    | some close =>
      if rest.head? != some '[' then .error .malformed
      else match Text.slice? rest 1 close with
        | none => .error .outOfRange
        | some inner =>
          match bracket? inner with
          | none => .error .malformed
          | some s =>
            match _h : Text.from? rest (close + 1) with
            | none => .error .outOfRange
            | some rest => (bracketsBySlices rest).map (s :: ·)
termination_by rest.length
decreasing_by exact Text.length_from?_lt _h

/-- A key up to the first opening bracket, and brackets. -/
def partBySlices (cs : List Char) : Except SliceFault (List Segment) :=
  match Text.offsetOf? '[' cs with
  | none => if isKey cs then .ok [.key (.ofList cs)] else .error .malformed
  | some start =>
    match Text.upTo? cs start, Text.from? cs start with
    | some key, some rest =>
      if isKey key then (bracketsBySlices rest).map (.key (.ofList key) :: ·)
      else .error .malformed
    | _, _ => .error .outOfRange

def ofTextBySlices (s : String) : Except SliceFault FieldPath :=
  if s.isBlank then .error .malformed
  else ((s.toList.splitOn '.').mapM partBySlices).map fun parts => ⟨parts.flatten⟩

/-! ### No slice is out of range -/

/-- A reading without a fault of slices. -/
def orMalformed {α : Type} (o : Option α) : Except SliceFault α := o.elim (.error .malformed) .ok

lemma map_orMalformed {α β : Type} (f : α → β) (o : Option α) :
    (orMalformed o).map f = orMalformed (o.map f) := by
  cases o <;> rfl

lemma bracketsBySlices_eq (cs : List Char) : bracketsBySlices cs = orMalformed (brackets? cs) := by
  fun_induction brackets? cs with
  | case1 => simp [bracketsBySlices, orMalformed]
  | case2 cs hcut =>
    have hnone : Text.offsetOf? ']' ('[' :: cs) = none := by
      rw [Text.offsetOf?, if_neg (by decide), Text.offsetOf?_eq, hcut]
      rfl
    rw [bracketsBySlices, hnone]
    rfl
  | case3 cs inner rest hcut ih =>
    obtain ⟨-, c, hc, hcs⟩ := Text.append_of_cutAt hcut
    obtain rfl : c = ']' := by simpa using hc
    have hoffset : Text.offsetOf? ']' ('[' :: cs) = some (Text.byteLength ('[' :: inner)) := by
      rw [Text.offsetOf?, if_neg (by decide), Text.offsetOf?_eq, hcut]
      simp
    have hslice : Text.slice? ('[' :: cs) 1 (Text.byteLength ('[' :: inner)) = some inner := by
      rw [hcs]
      exact Text.slice?_append ['['] inner (']' :: rest)
    have hfrom : Text.from? ('[' :: cs) (Text.byteLength ('[' :: inner) + 1) = some rest := by
      have hfront : Text.byteLength ('[' :: inner) + 1 =
          Text.byteLength ('[' :: (inner ++ [']'])) := by
        rw [← List.cons_append, Text.byteLength_append]
        rfl
      rw [hfront, hcs]
      simpa using Text.from?_append ('[' :: (inner ++ [']'])) rest
    rw [bracketsBySlices, hoffset]
    simp only [List.isEmpty_cons, Bool.false_eq_true, if_false, List.head?_cons, bne_self_eq_false,
      hslice]
    cases bracket? inner with
    | none => rfl
    | some s =>
      dsimp only
      split
      · next hnone => rw [hfrom] at hnone; cases hnone
      · next rest' hsome =>
        rw [hfrom, Option.some.injEq] at hsome
        subst hsome
        rw [ih, map_orMalformed]
        cases brackets? rest <;> rfl
  | case4 c cs hc =>
    have hhead : ((c :: cs).head? != some '[') = true := by simpa using hc
    rw [bracketsBySlices]
    simp only [List.isEmpty_cons, Bool.false_eq_true, if_false, hhead, if_true]
    cases Text.offsetOf? ']' (c :: cs) <;> rfl

lemma partBySlices_eq (cs : List Char) : partBySlices cs = orMalformed (part? cs) := by
  rw [partBySlices, Text.offsetOf?_eq, part?, List.span_eq_takeWhile_dropWhile]
  dsimp only
  cases hcut : Text.cutAt (· == '[') cs with
  | none =>
    have hcs : ∀ c ∈ cs, (c != '[') = true := fun c hc => by
      rw [bne, Text.eq_false_of_cutAt hcut c hc, Bool.not_false]
    have htake : (cs ++ []).takeWhile (· != '[') = cs ++ [] := List.takeWhile_append_of_pos hcs
    have hdrop : (cs ++ []).dropWhile (· != '[') = [] := List.dropWhile_append_of_pos hcs
    rw [List.append_nil] at htake hdrop
    rw [htake, hdrop, brackets?]
    cases isKey cs <;> rfl
  | some cut =>
    obtain ⟨key, rest⟩ := cut
    obtain ⟨hkey, c, hc, rfl⟩ := Text.append_of_cutAt hcut
    have hkey' : ∀ c ∈ key, (c != '[') = true := fun c hc => by
      rw [bne, hkey c hc, Bool.not_false]
    obtain rfl : c = '[' := by simpa using hc
    have htake : (key ++ '[' :: rest).takeWhile (· != '[') = key := by
      rw [List.takeWhile_append_of_pos hkey', List.takeWhile_cons_of_neg (by decide),
        List.append_nil]
    have hdrop : (key ++ '[' :: rest).dropWhile (· != '[') = '[' :: rest := by
      rw [List.dropWhile_append_of_pos hkey', List.dropWhile_cons_of_neg (by decide)]
    rw [htake, hdrop, Option.map_some]
    simp only [Text.upTo?_append, Text.from?_append, bracketsBySlices_eq, map_orMalformed]
    cases isKey key <;> rfl

lemma mapM_orMalformed {α β : Type} (f : α → Option β) (xs : List α) :
    xs.mapM (fun x => orMalformed (f x)) = orMalformed (xs.mapM f) := by
  induction xs with
  | nil => rfl
  | cons x xs ih =>
    rw [List.mapM_cons, List.mapM_cons, ih]
    cases f x with
    | none => rfl
    | some y => cases xs.mapM f <;> rfl

lemma exists_notBlank_of_isIdentifier {key : List Char} (h : IsIdentifier key) :
    ∃ c ∈ key, Text.isBlank c = false := by
  obtain ⟨c, cs, rfl, hc, -⟩ := h
  refine ⟨c, List.mem_cons_self, ?_⟩
  rcases hc with hc | rfl
  · have hcode : (65 ≤ c.toNat ∧ c.toNat ≤ 90) ∨ (97 ≤ c.toNat ∧ c.toNat ≤ 122) := by
      rcases Bool.or_eq_true_iff.1 hc with hc | hc
      · have hupper : 'A'.val ≤ c.val ∧ c.val ≤ 'Z'.val := of_decide_eq_true hc
        exact .inl hupper
      · have hlower : 'a'.val ≤ c.val ∧ c.val ≤ 'z'.val :=
          (Bool.and_eq_true_iff.1 hc).imp of_decide_eq_true of_decide_eq_true
        exact .inr hlower
    rw [← Bool.not_eq_true]
    simp only [Text.isBlank, Bool.or_eq_true, Bool.and_eq_true, decide_eq_true_eq, beq_iff_eq]
    omega
  · decide

/-- A path is not blank: it begins with a key. -/
lemma not_isBlank_of_ofText? {s : String} {p : FieldPath} (h : ofText? s = some p) :
    s.isBlank = false := by
  obtain ⟨w, hw, hchars, -, -⟩ := ofText?_eq_some.1 h
  obtain ⟨x, ws, hparts⟩ := List.exists_cons_of_ne_nil hw.1
  obtain ⟨c, hc, hblank⟩ := exists_notBlank_of_isIdentifier (hw.2 x (by simp [hparts])).1
  have hmem : c ∈ s.toList := by
    rw [← hchars, Spelling.chars, hparts, List.map_cons]
    cases ws <;> simp [Part.chars, hc]
  rw [String.isBlank, List.all_eq_false]
  exact ⟨c, hmem, by simp [hblank]⟩

/-- **A reader by slices reads what the grammar reads, and no slice of it is out of range.** -/
theorem ofTextBySlices_eq (s : String) : ofTextBySlices s = orMalformed (ofText? s) := by
  have hparts : partBySlices = fun cs => orMalformed (part? cs) := funext partBySlices_eq
  rw [ofTextBySlices, hparts, mapM_orMalformed, map_orMalformed]
  cases hblank : s.isBlank with
  | false => rfl
  | true =>
    cases h : ofText? s with
    | none => rfl
    | some p => rw [not_isBlank_of_ofText? h] at hblank; cases hblank

/-- **The grammar of paths is read and no other text, and the text of a path is read back.** -/
theorem reads_grammar (s : String) :
    ofTextBySlices s = (ofText? s).elim (.error .malformed) .ok ∧
    (∀ p, ofText? s = some p ↔ ∃ w : Spelling, w.Valid ∧ w.chars = s.toList ∧
      w.segments = p.segments ∧ ∀ x ∈ p.segments, x.Fits) ∧
    ∀ p, ofText? s = some p →
      ofText? p.text = some p ∧
      (∀ w : Spelling, w.Valid → w.chars = s.toList → (p.text = s ↔ w.Plain)) ∧
      (∀ s' q, ofText? s' = some q → p.text = q.text → p = q) ∧
      ∀ i < 2 ^ 64, ofText? (p.fillSlot i).text = some (p.fillSlot i) ∧ Fills i p (p.fillSlot i) ∧
        (p.fillSlot i).segments.count .slot = p.segments.count .slot - 1 := by
  refine ⟨ofTextBySlices_eq s, fun p => ofText?_eq_some, fun p hp => ?_⟩
  obtain ⟨w, hw, hchars, hsegments, hfits⟩ := ofText?_eq_some.1 hp
  have hproper := hw.proper hsegments
  refine ⟨ofText?_text hproper hfits, fun w' hw' hchars' => ?_, fun s' q hq htext => ?_,
    fun i hi => ?_⟩
  · rw [hw'.chars_inj hw (hchars'.trans hchars.symm)]
    exact hw.text_eq_iff hchars hsegments
  · obtain ⟨w', hw', -, hsegments', -⟩ := ofText?_eq_some.1 hq
    exact hproper.text_inj (hw'.proper hsegments') htext
  · have hfills := fills_fillSlot i p
    exact ⟨ofText?_text (hfills.proper hproper) (hfills.fits hi hfits), hfills, hfills.count_slot⟩

/-- A path with a plus sign, a superfluous zero and an open slot. -/
theorem reads_grammar_people : ∃ p, ofText? "people[+03].role[]" = some p ∧
    ofText? "people[3].role[]" = some p ∧ ofText? "people[3].role[7]" = some (p.fillSlot 7) := by
  have hp : ofText? "people[+03].role[]" =
      some ⟨[.key "people", .index 3, .key "role", .slot]⟩ := by decide +kernel
  obtain ⟨htext, -, -, hfill⟩ := (reads_grammar "people[+03].role[]").2.2 _ hp
  exact ⟨_, hp, htext, (hfill 7 (by norm_num)).1⟩

end FieldPath

end VisualTemplate
