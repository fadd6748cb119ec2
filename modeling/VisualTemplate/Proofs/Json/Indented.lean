import VisualTemplate.Json.Decode
import VisualTemplate.Proofs.Json.Compact
import VisualTemplate.Proofs.Json.Reread
/-!
Indented texts read back.

Each part of an indented text stands on a line of its own, so behind a value nothing goes on. A
value is therefore read up to its end wherever it stands, and its parts one after another, as long
as the containers around it leave room for those inside it.
-/

namespace VisualTemplate.Json

open Decimal

mutual

/-- What the text of a value is read as. -/
def Value.source : Value → Source
  | .null => .null
  | .bool b => .bool b
  | .number n => (Source.ofText n.text).1
  | .string s => .string s
  | .array items => .array false (itemSources items)
  | .object fields => .object false (fieldSources fields)

def itemSources : List Value → List Source
  | [] => []
  | v :: vs => v.source :: itemSources vs

def fieldSources : List (String × Value) → List (Option String × Source)
  | [] => []
  | (k, v) :: fs => (some k, v.source) :: fieldSources fs

end

mutual

/-- How deep containers are nested in a value. -/
def Value.nesting : Value → ℕ
  | .array items => itemsNesting items + 1
  | .object fields => fieldsNesting fields + 1
  | _ => 0

def itemsNesting : List Value → ℕ
  | [] => 0
  | v :: vs => max v.nesting (itemsNesting vs)

def fieldsNesting : List (String × Value) → ℕ
  | [] => 0
  | (_, v) :: fs => max v.nesting (fieldsNesting fs)

end

mutual

/-- What the text of a value is read as inside so many containers. -/
def Value.sourceAt (depth : ℕ) : Value → Source
  | .array items => .array (depthLimit ≤ depth) (itemSourcesAt (depth + 1) items)
  | .object fields => .object (depthLimit ≤ depth) (fieldSourcesAt (depth + 1) fields)
  | v => v.source

def itemSourcesAt (depth : ℕ) : List Value → List Source
  | [] => []
  | v :: vs => v.sourceAt depth :: itemSourcesAt depth vs

def fieldSourcesAt (depth : ℕ) : List (String × Value) → List (Option String × Source)
  | [] => []
  | (k, v) :: fs => (some k, v.sourceAt depth) :: fieldSourcesAt depth fs

end

/-- All numbers in a value are read back. -/
inductive Value.Rereads : Value → Prop
  | null : Rereads .null
  | bool (b : Bool) : Rereads (.bool b)
  | number {n : Number} : n.Rereads → Rereads (.number n)
  | string (s : String) : Rereads (.string s)
  | array {items : List Value} : (∀ v ∈ items, v.Rereads) → Rereads (.array items)
  | object {fields : List (String × Value)} : (∀ f ∈ fields, f.2.Rereads) → Rereads (.object fields)

/-- All numbers in a value are read back, or are written as if there were none. -/
inductive Value.Legible : Value → Prop
  | null : Legible .null
  | bool (b : Bool) : Legible (.bool b)
  | number {n : Number} : n.Rereads → Legible (.number n)
  | lost {n : Number} : n.text = "null" → Legible (.number n)
  | string (s : String) : Legible (.string s)
  | array {items : List Value} : (∀ v ∈ items, v.Legible) → Legible (.array items)
  | object {fields : List (String × Value)} : (∀ f ∈ fields, f.2.Legible) → Legible (.object fields)

lemma Value.Rereads.legible {v : Value} (h : v.Rereads) : v.Legible := by
  induction h with
  | null => exact .null
  | bool b => exact .bool b
  | number hn => exact .number hn
  | string s => exact .string s
  | array _ ih => exact .array ih
  | object _ ih => exact .object ih

lemma source_of_lost {n : Number} (h : n.text = "null") : (Value.number n).source = .null := by
  rw [Value.source, h]
  rfl

lemma itemSources_eq (items : List Value) : itemSources items = items.map Value.source := by
  induction items with
  | nil => rfl
  | cons v vs ih => rw [itemSources, ih, List.map_cons]

lemma fieldSources_eq (fields : List (String × Value)) :
    fieldSources fields = fields.map fun f => (some f.1, f.2.source) := by
  induction fields with
  | nil => rfl
  | cons f fs ih => rw [fieldSources, ih, List.map_cons]

lemma itemSourcesAt_eq (depth : ℕ) (items : List Value) :
    itemSourcesAt depth items = items.map (Value.sourceAt depth) := by
  induction items with
  | nil => rfl
  | cons v vs ih => rw [itemSourcesAt, ih, List.map_cons]

lemma fieldSourcesAt_eq (depth : ℕ) (fields : List (String × Value)) :
    fieldSourcesAt depth fields = fields.map fun f => (some f.1, f.2.sourceAt depth) := by
  induction fields with
  | nil => rfl
  | cons f fs ih => rw [fieldSourcesAt, ih, List.map_cons]

lemma nesting_le_items {v : Value} {items : List Value} (h : v ∈ items) :
    v.nesting ≤ itemsNesting items := by
  induction items with
  | nil => exact absurd h List.not_mem_nil
  | cons w ws ih =>
    rw [itemsNesting]
    rcases List.mem_cons.1 h with rfl | h
    · exact le_max_left _ _
    · exact (ih h).trans (le_max_right _ _)

lemma nesting_le_fields {f : String × Value} {fields : List (String × Value)} (h : f ∈ fields) :
    f.2.nesting ≤ fieldsNesting fields := by
  induction fields with
  | nil => exact absurd h List.not_mem_nil
  | cons g gs ih =>
    rw [fieldsNesting]
    rcases List.mem_cons.1 h with rfl | h
    · exact le_max_left _ _
    · exact (ih h).trans (le_max_right _ _)

lemma itemsNesting_le {items : List Value} {n : ℕ} (h : ∀ v ∈ items, v.nesting ≤ n) :
    itemsNesting items ≤ n := by
  induction items with
  | nil => exact Nat.zero_le n
  | cons v vs ih =>
    rw [List.forall_mem_cons] at h
    exact max_le h.1 (ih h.2)

lemma fieldsNesting_le {fields : List (String × Value)} {n : ℕ}
    (h : ∀ f ∈ fields, f.2.nesting ≤ n) : fieldsNesting fields ≤ n := by
  induction fields with
  | nil => exact Nat.zero_le n
  | cons f fs ih =>
    rw [List.forall_mem_cons] at h
    exact max_le h.1 (ih h.2)

/-! ### Lines -/

/-- The blanks before a line. -/
def blanks (depth : ℕ) : List Char := List.replicate (2 * depth) ' '

/-- The line of an item, with the break before it. -/
def itemLine (depth : ℕ) (v : Value) : List Char :=
  '\n' :: (blanks (depth + 1) ++ (v.indented (depth + 1)).toList)

/-- The line of a field, with the break before it. -/
def fieldLine (depth : ℕ) (f : String × Value) : List Char :=
  '\n' :: (blanks (depth + 1) ++
    ((quote f.1).toList ++ ':' :: ' ' :: (f.2.indented (depth + 1)).toList))

lemma toList_block (depth : ℕ) (opening closing : String) {ps : List String} (h : ps ≠ []) :
    (block depth opening closing ps).toList = opening.toList ++
      ([','].intercalate (ps.map fun p => '\n' :: (blanks (depth + 1) ++ p.toList)) ++
        '\n' :: (blanks depth ++ closing.toList)) := by
  have hjoin (sep : List Char) {ls : List (List Char)} (h : ls ≠ []) :
      sep ++ (',' :: sep).intercalate ls = [','].intercalate (ls.map (sep ++ ·)) := by
    induction ls with
    | nil => exact absurd rfl h
    | cons l ls ih =>
      cases ls with
      | nil => simp
      | cons m ms =>
        have htail := ih (by simp)
        rw [List.map_cons] at htail
        rw [List.map_cons, List.map_cons, List.intercalate_cons_cons, List.intercalate_cons_cons,
          ← htail]
        simp
  have hlines : [','].intercalate (ps.map fun p => '\n' :: (blanks (depth + 1) ++ p.toList)) =
      '\n' :: (blanks (depth + 1) ++
        (',' :: '\n' :: blanks (depth + 1)).intercalate (ps.map String.toList)) := by
    have hps : ps.map String.toList ≠ [] := by simpa using h
    have hmap := hjoin ('\n' :: blanks (depth + 1)) hps
    rw [List.map_map] at hmap
    exact hmap.symm
  rw [block, if_neg (by simpa using h), hlines]
  simp [indent, blanks]

lemma indentedItems_eq (depth : ℕ) (items : List Value) :
    indentedItems depth items = items.map fun v => v.indented (depth + 1) := by
  induction items with
  | nil => rfl
  | cons v vs ih => rw [indentedItems, ih, List.map_cons]

lemma indentedFields_eq (depth : ℕ) (fields : List (String × Value)) :
    indentedFields depth fields =
      fields.map fun f => quote f.1 ++ ": " ++ f.2.indented (depth + 1) := by
  induction fields with
  | nil => rfl
  | cons f fs ih => rw [indentedFields, ih, List.map_cons]

lemma indented_array_nil (depth : ℕ) : (Value.array []).indented depth = "[]" := by
  rw [Value.indented, indentedItems]
  rfl

lemma indented_object_nil (depth : ℕ) : (Value.object []).indented depth = "\x7b\x7d" := by
  rw [Value.indented, indentedFields]
  rfl

lemma toList_array (depth : ℕ) {items : List Value} (h : items ≠ []) (rest : List Char) :
    ((Value.array items).indented depth).toList ++ rest =
      '[' :: parts (itemLine depth) '\n' items (blanks depth ++ ']' :: rest) := by
  have hblock : (Value.array items).indented depth =
      block depth "[" "]" (items.map fun v => v.indented (depth + 1)) := by
    rw [Value.indented, indentedItems_eq]
  rw [hblock, toList_block depth "[" "]" (by simpa using h), List.map_map,
    ← parts_eq_intercalate (itemLine depth)]
  simp [Function.comp_def]
  rfl

lemma toList_object (depth : ℕ) {fields : List (String × Value)} (h : fields ≠ [])
    (rest : List Char) :
    ((Value.object fields).indented depth).toList ++ rest =
      '\x7b' :: parts (fieldLine depth) '\n' fields (blanks depth ++ '\x7d' :: rest) := by
  have hblock : (Value.object fields).indented depth = block depth "\x7b" "\x7d"
      (fields.map fun f => quote f.1 ++ ": " ++ f.2.indented (depth + 1)) := by
    rw [Value.indented, indentedFields_eq]
  rw [hblock, toList_block depth "\x7b" "\x7d" (by simpa using h), List.map_map,
    ← parts_eq_intercalate (fieldLine depth)]
  simp [Function.comp_def]
  rfl

/-! ### Beginnings -/

/-- A text that is neither at an end of a list nor before its next part. -/
def Opens (cs : List Char) : Prop :=
  ∃ c rest, cs = c :: rest ∧ Source.isSpace c = false ∧ c ≠ ']' ∧ c ≠ '\x7d' ∧ c ≠ ','

lemma opens_quote (s : String) (rest : List Char) : Opens ((quote s).toList ++ rest) :=
  ⟨'"', _, by rw [toList_quote]; rfl, by decide, by decide, by decide, by decide⟩

lemma opens_indented {v : Value} (h : v.Legible) (depth : ℕ) (rest : List Char) :
    Opens ((v.indented depth).toList ++ rest) := by
  cases h with
  | null =>
    rw [Value.indented]
    exact ⟨'n', _, rfl, by decide, by decide, by decide, by decide⟩
  | bool b =>
    rw [Value.indented]
    cases b with
    | true => exact ⟨'t', _, rfl, by decide, by decide, by decide, by decide⟩
    | false => exact ⟨'f', _, rfl, by decide, by decide, by decide, by decide⟩
  | number hn =>
    obtain ⟨hne, hchars⟩ := hn.chars
    obtain ⟨c, cs, hcs⟩ := List.exists_cons_of_ne_nil hne
    have hc : isNumberChar c = true := hchars c (by simp [hcs])
    have hnot {d : Char} (hd : isNumberChar d = false) : c ≠ d := by
      rintro rfl
      rw [hc] at hd
      exact absurd hd (by simp)
    refine ⟨c, cs ++ rest, ?_, Source.isSpace_of_isNumberChar hc, hnot rfl, hnot rfl, hnot rfl⟩
    rw [Value.indented, hcs, List.cons_append]
  | lost hn =>
    rw [Value.indented, hn]
    exact ⟨'n', _, rfl, by decide, by decide, by decide, by decide⟩
  | string s =>
    rw [Value.indented]
    exact opens_quote s rest
  | @array items _ =>
    cases items with
    | nil =>
      rw [indented_array_nil]
      exact ⟨'[', _, rfl, by decide, by decide, by decide, by decide⟩
    | cons v vs =>
      rw [toList_array depth (by simp)]
      exact ⟨'[', _, rfl, by decide, by decide, by decide, by decide⟩
  | @object fields _ =>
    cases fields with
    | nil =>
      rw [indented_object_nil]
      exact ⟨'\x7b', _, rfl, by decide, by decide, by decide, by decide⟩
    | cons f fs =>
      rw [toList_object depth (by simp)]
      exact ⟨'\x7b', _, rfl, by decide, by decide, by decide, by decide⟩

/-! ### Reading lists of parts -/

/-- What stands between a part and the text before it. -/
def lead (first : Bool) : List Char := if first then [] else [',']

namespace Source

lemma skip_line (depth : ℕ) (cs : List Char) : skip ('\n' :: (blanks depth ++ cs)) = skip cs := by
  have hblanks : ∀ c ∈ blanks depth, isSpace c = true := by
    intro c hc
    rw [List.eq_of_mem_replicate hc]
    rfl
  rw [skip, List.dropWhile_cons_of_pos rfl, List.dropWhile_append_of_pos hblanks]
  rfl

lemma skip_opens {cs : List Char} (h : Opens cs) : skip cs = cs := by
  obtain ⟨c, rest, rfl, hc, -⟩ := h
  exact skip_of_isSpace_false hc rest

variable {fuel depth : ℕ} {cs rest : List Char}

lemma readValue_blank (cs : List Char) :
    readValue fuel depth (' ' :: cs) = readValue fuel depth cs := by
  cases fuel with
  | zero => rfl
  | succ fuel => rfl

lemma readValue_bracket (cs : List Char) : readValue (fuel + 1) depth ('[' :: cs) =
    (.array (depthLimit ≤ depth) (readItems fuel (depth + 1) true cs).1,
      (readItems fuel (depth + 1) true cs).2) := rfl

lemma readValue_brace (cs : List Char) : readValue (fuel + 1) depth ('\x7b' :: cs) =
    (.object (depthLimit ≤ depth) (readFields fuel (depth + 1) true cs).1,
      (readFields fuel (depth + 1) true cs).2) := rfl

lemma readItems_close (indentation : ℕ) (first : Bool) (rest : List Char) :
    readItems (fuel + 1) depth first ('\n' :: (blanks indentation ++ ']' :: rest)) =
      ([], some rest) := by
  have hskip : skip ('\n' :: (blanks indentation ++ ']' :: rest)) = ']' :: rest := skip_line _ _
  rw [readItems, hskip]
  rfl

lemma readItems_item (indentation : ℕ) (first : Bool) {s : Source} (hcs : Opens cs)
    (hs : readValue fuel depth cs = (s, some rest)) :
    readItems (fuel + 1) depth first (lead first ++ '\n' :: (blanks indentation ++ cs)) =
      (s :: (readItems fuel depth false rest).1, (readItems fuel depth false rest).2) := by
  have hskip : skip ('\n' :: (blanks indentation ++ cs)) = cs := by
    rw [skip_line, skip_opens hcs]
  obtain ⟨c, cs, rfl, -, hbracket, -, hcomma⟩ := hcs
  cases first with
  | true =>
    rw [readItems, lead, if_pos rfl, List.nil_append, hskip]
    split
    · next heq => exact absurd (List.cons.inj heq).1 hbracket
    · next heq => exact absurd (List.cons.inj heq).1 hcomma
    · simp [hs]
  | false =>
    have hlead : skip (lead false ++ '\n' :: (blanks indentation ++ c :: cs)) =
        ',' :: '\n' :: (blanks indentation ++ c :: cs) := skip_of_isSpace_false (by decide) _
    rw [readItems, hlead]
    simp only [Bool.false_eq_true, if_false, hskip]
    split
    · next heq => exact absurd (List.cons.inj heq).1 hbracket
    · simp [hs]

lemma readFields_close (indentation : ℕ) (first : Bool) (rest : List Char) :
    readFields (fuel + 1) depth first ('\n' :: (blanks indentation ++ '\x7d' :: rest)) =
      ([], some rest) := by
  have hskip : skip ('\n' :: (blanks indentation ++ '\x7d' :: rest)) = '\x7d' :: rest :=
    skip_line _ _
  rw [readFields, hskip]
  rfl

lemma readFields_field (indentation : ℕ) (first : Bool) (name : String) {s : Source}
    (hs : readValue fuel depth cs = (s, some rest)) :
    readFields (fuel + 1) depth first
        (lead first ++ '\n' :: (blanks indentation ++ ((quote name).toList ++ ':' :: cs))) =
      ((some name, s) :: (readFields fuel depth false rest).1,
        (readFields fuel depth false rest).2) := by
  have hskip : skip ('\n' :: (blanks indentation ++ ((quote name).toList ++ ':' :: cs))) =
      '"' :: (name.toList.flatMap escapeChar ++ '"' :: ':' :: cs) := by
    rw [skip_line, skip_opens (opens_quote name _), toList_quote]
    simp
  have hname : literal {} (name.toList.flatMap escapeChar ++ '"' :: ':' :: cs) =
      some (some name, ':' :: cs) := literal_quote name _
  have hcolon : skip (':' :: cs) = ':' :: cs := skip_of_isSpace_false (by decide) _
  cases first with
  | true =>
    rw [readFields, lead, if_pos rfl, List.nil_append, hskip]
    simp [hname, hcolon, hs]
  | false =>
    have hlead : skip (lead false ++ '\n' :: (blanks indentation ++ ((quote name).toList ++
        ':' :: cs))) = ',' :: '\n' :: (blanks indentation ++ ((quote name).toList ++ ':' :: cs)) :=
      skip_of_isSpace_false (by decide) _
    rw [readFields, hlead]
    simp [hskip, hname, hcolon, hs]

end Source

lemma stops_partsAfter {α : Type} (chars : α → List Char) (as : List α) (rest : List Char) :
    Source.Stops (partsAfter chars '\n' as rest) := by
  cases as with
  | nil => exact Source.stops_cons (.inr rfl) _
  | cons a as => exact Source.stops_cons (.inl rfl) _

/-- A reader of parts that come on lines of their own reads them one after another. -/
lemma read_parts {α β : Type} (line : α → List Char) (out : α → β)
    (read : ℕ → Bool → List Char → List β × Option (List Char)) (stop : List Char)
    (hclose : ∀ fuel first rest, read (fuel + 1) first ('\n' :: (stop ++ rest)) = ([], some rest))
    (hline : ∀ a, 0 < (line a).length) {as : List α}
    (hpart : ∀ a ∈ as, ∀ fuel first rest, (line a).length ≤ fuel →
      Source.Stops rest → read (fuel + 1) first (lead first ++ (line a ++ rest)) =
        (out a :: (read fuel false rest).1, (read fuel false rest).2))
    {fuel : ℕ} (hfuel : (parts line '\n' as stop).length ≤ fuel) (rest : List Char) :
    read fuel true (parts line '\n' as (stop ++ rest)) = (as.map out, some rest) := by
  have hafter : ∀ (as' : List α), as' ⊆ as → ∀ fuel,
      (partsAfter line '\n' as' stop).length ≤ fuel →
      read fuel false (partsAfter line '\n' as' (stop ++ rest)) = (as'.map out, some rest) := by
    intro as' hsub
    induction as' with
    | nil =>
      intro fuel hfuel
      rw [partsAfter, List.length_cons] at hfuel
      obtain ⟨fuel, rfl⟩ := Nat.exists_eq_succ_of_ne_zero (n := fuel) (by omega)
      exact hclose fuel false rest
    | cons a as' ih =>
      intro fuel hfuel
      rw [partsAfter, List.length_cons, List.length_append] at hfuel
      obtain ⟨fuel, rfl⟩ := Nat.exists_eq_succ_of_ne_zero (n := fuel) (by omega)
      have ha := hpart a (hsub List.mem_cons_self) fuel false
        (partsAfter line '\n' as' (stop ++ rest)) (by omega) (stops_partsAfter line as' _)
      rw [ih (fun b hb => hsub (List.mem_cons_of_mem _ hb)) fuel (by omega)] at ha
      exact ha
  cases as with
  | nil =>
    rw [parts, List.length_cons] at hfuel
    obtain ⟨fuel, rfl⟩ := Nat.exists_eq_succ_of_ne_zero (n := fuel) (by omega)
    exact hclose fuel true rest
  | cons a as =>
    rw [parts, List.length_append] at hfuel
    have hpos : 0 < (partsAfter line '\n' as stop).length := by cases as <;> simp [partsAfter]
    obtain ⟨fuel, rfl⟩ := Nat.exists_eq_succ_of_ne_zero (n := fuel) (by omega)
    have ha := hpart a List.mem_cons_self fuel true
      (partsAfter line '\n' as (stop ++ rest)) (by omega) (stops_partsAfter line as _)
    have hlead := hline a
    rw [hafter as (List.subset_cons_self _ _) fuel (by omega)] at ha
    exact ha

/-! ### Reading values -/

/-- Inside so many containers the value is read back from its indented text, wherever nothing goes
on behind it. -/
def Scans (depth indentation : ℕ) (v : Value) : Prop :=
  ∀ fuel rest, (v.indented indentation).toList.length ≤ fuel → Source.Stops rest →
    Source.readValue fuel depth ((v.indented indentation).toList ++ rest) =
      (v.sourceAt depth, some rest)

lemma exists_fuel {v : Value} (h : v.Legible) {indentation fuel : ℕ}
    (hfuel : (v.indented indentation).toList.length ≤ fuel) : ∃ n, fuel = n + 1 := by
  obtain ⟨c, cs, hcs, -⟩ := opens_indented h indentation []
  rw [List.append_nil] at hcs
  rw [hcs, List.length_cons] at hfuel
  exact Nat.exists_eq_succ_of_ne_zero (by omega)

section

variable {depth : ℕ} (indentation : ℕ)

lemma scans_string (s : String) : Scans depth indentation (.string s) := by
  intro fuel rest hfuel _
  obtain ⟨fuel, rfl⟩ := exists_fuel (.string s) hfuel
  have hquote : (quote s).toList ++ rest = '"' :: (s.toList.flatMap escapeChar ++ '"' :: rest) := by
    rw [toList_quote]
    simp
  have hskip : Source.skip ('"' :: (s.toList.flatMap escapeChar ++ '"' :: rest)) =
      '"' :: (s.toList.flatMap escapeChar ++ '"' :: rest) :=
    Source.skip_of_isSpace_false (by decide) _
  rw [Value.indented, hquote, Source.readValue, hskip]
  simp [Source.literal_quote, Value.sourceAt, Value.source]

lemma scans_array {items : List Value} (hitems : ∀ v ∈ items, v.Legible)
    (hscans : ∀ v ∈ items, Scans (depth + 1) (indentation + 1) v) :
    Scans depth indentation (.array items) := by
  intro fuel rest hfuel _
  obtain ⟨fuel, rfl⟩ := exists_fuel (.array hitems) hfuel
  by_cases hne : items = []
  · subst hne
    rw [indented_array_nil] at hfuel ⊢
    have hlength : 2 ≤ fuel + 1 := hfuel
    obtain ⟨fuel, rfl⟩ := Nat.exists_eq_succ_of_ne_zero (n := fuel) (by omega)
    rw [Value.sourceAt, itemSourcesAt]
    rfl
  have hparts : (parts (itemLine indentation) '\n' items (blanks indentation ++ [']'])).length ≤
      fuel := by
    have htext := toList_array indentation hne []
    rw [List.append_nil] at htext
    rw [htext, List.length_cons] at hfuel
    omega
  have hread := read_parts (itemLine indentation) (Value.sourceAt (depth + 1))
    (fun fuel first => Source.readItems fuel (depth + 1) first) (blanks indentation ++ [']'])
    (fun fuel first rest => by
      rw [List.append_assoc]
      exact Source.readItems_close indentation first rest)
    (fun v => by simp [itemLine])
    (fun v hv fuel first rest hfuel hrest => by
      have hopens := opens_indented (hitems v hv) (indentation + 1) rest
      have hlength : (v.indented (indentation + 1)).toList.length ≤ fuel := by
        simp only [itemLine, List.length_cons, List.length_append] at hfuel
        omega
      have hitem := Source.readItems_item (indentation + 1) first hopens
        (hscans v hv fuel rest hlength hrest)
      rw [← List.append_assoc] at hitem
      exact hitem)
    hparts rest
  rw [List.append_assoc, List.singleton_append, ← itemSourcesAt_eq] at hread
  rw [toList_array indentation hne, Source.readValue_bracket, hread, Value.sourceAt]

lemma scans_object {fields : List (String × Value)} (hfields : ∀ f ∈ fields, f.2.Legible)
    (hscans : ∀ f ∈ fields, Scans (depth + 1) (indentation + 1) f.2) :
    Scans depth indentation (.object fields) := by
  intro fuel rest hfuel _
  obtain ⟨fuel, rfl⟩ := exists_fuel (.object hfields) hfuel
  by_cases hne : fields = []
  · subst hne
    rw [indented_object_nil] at hfuel ⊢
    have hlength : 2 ≤ fuel + 1 := hfuel
    obtain ⟨fuel, rfl⟩ := Nat.exists_eq_succ_of_ne_zero (n := fuel) (by omega)
    rw [Value.sourceAt, fieldSourcesAt]
    rfl
  have hparts : (parts (fieldLine indentation) '\n' fields
      (blanks indentation ++ ['\x7d'])).length ≤ fuel := by
    have htext := toList_object indentation hne []
    rw [List.append_nil] at htext
    rw [htext, List.length_cons] at hfuel
    omega
  have hread := read_parts (fieldLine indentation) 
    (fun f => (some f.1, f.2.sourceAt (depth + 1)))
    (fun fuel first => Source.readFields fuel (depth + 1) first) (blanks indentation ++ ['\x7d'])
    (fun fuel first rest => by
      rw [List.append_assoc]
      exact Source.readFields_close indentation first rest)
    (fun f => by simp [fieldLine])
    (fun f hf fuel first rest hfuel hrest => by
      have hlength : (f.2.indented (indentation + 1)).toList.length ≤ fuel := by
        simp only [fieldLine, List.length_cons, List.length_append] at hfuel
        omega
      have hvalue : Source.readValue fuel (depth + 1)
          (' ' :: ((f.2.indented (indentation + 1)).toList ++ rest)) =
          (f.2.sourceAt (depth + 1), some rest) := by
        rw [Source.readValue_blank]
        exact hscans f hf fuel rest hlength hrest
      have hfield := Source.readFields_field (indentation + 1) first f.1 hvalue
      simp only [fieldLine, List.cons_append, List.append_assoc] at hfield ⊢
      exact hfield)
    hparts rest
  rw [List.append_assoc, List.singleton_append, ← fieldSourcesAt_eq] at hread
  rw [toList_object indentation hne, Source.readValue_brace, hread, Value.sourceAt]

end

/-- A value is read up to its end. Where its containers are nested too deep, they are marked. -/
theorem scans_of_legible {v : Value} (h : v.Legible) (depth indentation : ℕ) :
    Scans depth indentation v := by
  induction h generalizing depth indentation with
  | null =>
    intro fuel rest hfuel _
    obtain ⟨fuel, rfl⟩ := exists_fuel .null hfuel
    rw [Value.indented]
    rfl
  | bool b =>
    intro fuel rest hfuel _
    obtain ⟨fuel, rfl⟩ := exists_fuel (.bool b) hfuel
    rw [Value.indented]
    cases b <;> rfl
  | @number n hn =>
    intro fuel rest hfuel hrest
    obtain ⟨fuel, rfl⟩ := exists_fuel (.number hn) hfuel
    obtain ⟨k, hk⟩ := hn
    have hsource : (Value.number n).sourceAt depth = .number k := by
      show (Source.ofText n.text).1 = _
      rw [hk]
    rw [Value.indented, hsource]
    exact Number.readValue_text hk (Nat.succ_pos fuel) depth hrest
  | @lost n hn =>
    intro fuel rest hfuel _
    obtain ⟨fuel, rfl⟩ := exists_fuel (.lost hn) hfuel
    rw [Value.indented, hn]
    show _ = ((Value.number n).source, some rest)
    rw [source_of_lost hn]
    rfl
  | string s => exact scans_string indentation s
  | @array items hitems ih =>
    exact scans_array indentation hitems fun v hv => ih v hv (depth + 1) (indentation + 1)
  | @object fields hfields ih =>
    exact scans_object indentation hfields fun f hf => ih f hf (depth + 1) (indentation + 1)

/-- The indented text of a value is read up to its end, wherever its numbers can be read. -/
lemma ofText_pretty_eq {v : Value} (h : v.Legible) :
    Source.ofText v.pretty = (v.sourceAt 0, true) := by
  have hlength : (v.indented 0).toList.length ≤ 2 * (v.indented 0).toList.length + 2 := by omega
  have hscan := scans_of_legible h 0 0 _ [] hlength Source.stops_nil
  rw [List.append_nil] at hscan
  rw [Source.ofText, Value.pretty, hscan]
  rfl

/-! ### Containers nested too deep -/

/-- Where there is room for the containers in a value, none of them is marked. -/
lemma sourceAt_eq_source {v : Value} (h : v.Legible) {depth : ℕ}
    (hdepth : depth + v.nesting ≤ depthLimit) : v.sourceAt depth = v.source := by
  induction h generalizing depth with
  | @array items _ ih =>
    rw [Value.nesting] at hdepth
    have hroom : decide (depthLimit ≤ depth) = false := by
      rw [decide_eq_false_iff_not]
      omega
    rw [Value.sourceAt, Value.source, itemSourcesAt_eq, itemSources_eq, hroom]
    refine congrArg _ (List.map_congr_left fun v hv => ih v hv ?_)
    have hle := nesting_le_items hv
    omega
  | @object fields _ ih =>
    rw [Value.nesting] at hdepth
    have hroom : decide (depthLimit ≤ depth) = false := by
      rw [decide_eq_false_iff_not]
      omega
    rw [Value.sourceAt, Value.source, fieldSourcesAt_eq, fieldSources_eq, hroom]
    refine congrArg _ (List.map_congr_left fun f hf => ?_)
    have hle := nesting_le_fields hf
    rw [ih f hf (by omega)]
  | _ => rfl

lemma sound_of_itemsSound {ss : List Source} (h : itemsSound ss = true) :
    ∀ s ∈ ss, s.sound = true := by
  induction ss with
  | nil => exact fun s hs => absurd hs List.not_mem_nil
  | cons s ss ih =>
    rw [itemsSound, Bool.and_eq_true] at h
    exact List.forall_mem_cons.2 ⟨h.1, ih h.2⟩

lemma sound_of_fieldsSound {fs : List (Option String × Source)} (h : fieldsSound fs = true) :
    ∀ f ∈ fs, f.2.sound = true := by
  induction fs with
  | nil => exact fun f hf => absurd hf List.not_mem_nil
  | cons f fs ih =>
    rw [fieldsSound, Bool.and_eq_true, Bool.and_eq_true] at h
    exact List.forall_mem_cons.2 ⟨h.1.2, ih h.2⟩

/-- A value that can be taken whole has room for its containers. -/
lemma nesting_le_of_sound {v : Value} (h : v.Legible) {depth : ℕ}
    (hsound : (v.sourceAt depth).sound = true) : v.nesting ≤ depthLimit - depth := by
  induction h generalizing depth with
  | @array items _ ih =>
    rw [Value.sourceAt, Source.sound, Bool.and_eq_true, itemSourcesAt_eq] at hsound
    obtain ⟨hroom, hitems⟩ := hsound
    have hlt : depth < depthLimit := by simpa using hroom
    have hle : itemsNesting items ≤ depthLimit - (depth + 1) :=
      itemsNesting_le fun v hv => ih v hv (sound_of_itemsSound hitems _ (List.mem_map_of_mem hv))
    rw [Value.nesting]
    omega
  | @object fields _ ih =>
    rw [Value.sourceAt, Source.sound, Bool.and_eq_true, fieldSourcesAt_eq] at hsound
    obtain ⟨hroom, hfields⟩ := hsound
    have hlt : depth < depthLimit := by simpa using hroom
    have hle : fieldsNesting fields ≤ depthLimit - (depth + 1) :=
      fieldsNesting_le fun f hf => ih f hf (sound_of_fieldsSound hfields _ (List.mem_map_of_mem hf))
    rw [Value.nesting]
    omega
  | _ => exact Nat.zero_le _

/-- **The indented text of a value is read back**, if its numbers are and its containers are not
nested too deep. -/
theorem ofText_pretty {v : Value} (h : v.Rereads) (hnesting : v.nesting ≤ depthLimit) :
    Source.ofText v.pretty = (v.source, true) := by
  rw [ofText_pretty_eq h.legible, sourceAt_eq_source h.legible (by omega)]

end VisualTemplate.Json
