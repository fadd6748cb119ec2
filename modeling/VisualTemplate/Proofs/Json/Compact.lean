import VisualTemplate.Proofs.Json.NumberText
import VisualTemplate.Proofs.Json.Quoted
/-!
Values told apart by their compact text.

A compact text shows where it ends: by its quotes or brackets, or, for a number, by the first
character that no number has. So the texts of two values agree only if the values do, whatever
follows them.
-/

namespace VisualTemplate.Json

open Decimal

mutual

/-- All numbers in a value are those of documents. -/
def Value.OfDocument : Value → Prop
  | .number n => n.OfDocument
  | .array items => itemsOfDocument items
  | .object fields => fieldsOfDocument fields
  | _ => True

def itemsOfDocument : List Value → Prop
  | [] => True
  | v :: vs => v.OfDocument ∧ itemsOfDocument vs

def fieldsOfDocument : List (String × Value) → Prop
  | [] => True
  | (_, v) :: fs => v.OfDocument ∧ fieldsOfDocument fs

end

/-- The text of a value as characters. -/
def Value.chars (v : Value) : List Char := v.compact.toList

def fieldChars (f : String × Value) : List Char := (quote f.1).toList ++ ':' :: f.2.chars

/-- Parts behind a first one, up to a closing bracket. -/
def partsAfter {α : Type} (chars : α → List Char) (close : Char) : List α → List Char → List Char
  | [], rest => close :: rest
  | a :: as, rest => ',' :: (chars a ++ partsAfter chars close as rest)

/-- Parts behind an opening bracket, up to the closing one. -/
def parts {α : Type} (chars : α → List Char) (close : Char) : List α → List Char → List Char
  | [], rest => close :: rest
  | a :: as, rest => chars a ++ partsAfter chars close as rest

section

variable {α : Type} (chars : α → List Char) (close : Char)

lemma parts_eq_intercalate (as : List α) (rest : List Char) :
    [','].intercalate (as.map chars) ++ close :: rest = parts chars close as rest := by
  have hafter (a : α) (as : List α) : [','].intercalate ((a :: as).map chars) ++ close :: rest =
      chars a ++ partsAfter chars close as rest := by
    induction as generalizing a with
    | nil => simp [partsAfter]
    | cons b bs ih =>
      rw [List.map_cons, List.map_cons, List.intercalate_cons_cons, List.append_assoc,
        List.append_assoc, ← List.map_cons, ih b]
      rfl
  cases as with
  | nil => rfl
  | cons a as => exact hafter a as

end

lemma compactItems_eq (items : List Value) : compactItems items = items.map Value.compact := by
  induction items with
  | nil => rfl
  | cons v vs ih => rw [compactItems, ih, List.map_cons]

lemma compactFields_eq (fields : List (String × Value)) :
    (compactFields fields).map String.toList = fields.map fieldChars := by
  induction fields with
  | nil => rfl
  | cons f fs ih =>
    rw [compactFields, List.map_cons, ih, List.map_cons]
    simp [fieldChars, Value.chars]

lemma chars_array (items : List Value) (rest : List Char) :
    (Value.array items).chars ++ rest = '[' :: parts Value.chars ']' items rest := by
  have hmap : items.map Value.chars = (compactItems items).map String.toList := by
    rw [compactItems_eq, List.map_map]
    rfl
  rw [← parts_eq_intercalate, hmap]
  simp [Value.chars, Value.compact]

lemma chars_object (fields : List (String × Value)) (rest : List Char) :
    (Value.object fields).chars ++ rest = '\x7b' :: parts fieldChars '\x7d' fields rest := by
  rw [← parts_eq_intercalate]
  simp [Value.chars, Value.compact, compactFields_eq]

/-! ### The first character -/

/-- What the first character of a value shows. -/
inductive Kind where
  | null
  | bool (b : Bool)
  | number
  | string
  | array
  | object

def Value.kind : Value → Kind
  | .null => .null
  | .bool b => .bool b
  | .number _ => .number
  | .string _ => .string
  | .array _ => .array
  | .object _ => .object

def kindOf? (c : Char) : Option Kind :=
  if isNumberChar c then some .number
  else match c with
    | 'n' => some .null
    | 't' => some (.bool true)
    | 'f' => some (.bool false)
    | '"' => some .string
    | '[' => some .array
    | '\x7b' => some .object
    | _ => none

lemma chars_eq_cons {v : Value} (hv : v.OfDocument) :
    ∃ c cs, v.chars = c :: cs ∧ kindOf? c = some v.kind := by
  cases v with
  | null => exact ⟨'n', _, rfl, rfl⟩
  | bool b => cases b <;> exact ⟨_, _, rfl, rfl⟩
  | number n =>
    obtain ⟨hne, hall⟩ := Number.text_chars (by simpa [Value.OfDocument] using hv)
    obtain ⟨c, cs, hcs⟩ := List.exists_cons_of_ne_nil hne
    have hc : isNumberChar c = true := hall c (by simp [hcs])
    exact ⟨c, cs, by rw [Value.chars, Value.compact, hcs], by simp [kindOf?, hc, Value.kind]⟩
  | string s => exact ⟨'"', _, by rw [Value.chars, Value.compact, toList_quote], rfl⟩
  | array items => exact ⟨'[', _, by rw [← List.append_nil (Value.chars _), chars_array], rfl⟩
  | object fields =>
    exact ⟨'\x7b', _, by rw [← List.append_nil (Value.chars _), chars_object], rfl⟩

/-- Values whose texts begin alike are of one kind. -/
lemma kind_eq_of_chars {v w : Value} (hv : v.OfDocument) (hw : w.OfDocument) {r r' : List Char}
    (h : v.chars ++ r = w.chars ++ r') : v.kind = w.kind := by
  obtain ⟨c, cs, hc, hvc⟩ := chars_eq_cons hv
  obtain ⟨d, ds, hd, hwd⟩ := chars_eq_cons hw
  rw [hc, hd] at h
  rw [(List.cons.inj h).1, hwd] at hvc
  exact (Option.some.inj hvc).symm

/-! ### Texts with something behind them -/

/-- No number goes on here. -/
def Ends (rest : List Char) : Prop := ∀ c ∈ rest.head?, isNumberChar c = false

lemma ends_partsAfter {α : Type} (chars : α → List Char) {close : Char}
    (hclose : isNumberChar close = false) (as : List α) (rest : List Char) :
    Ends (partsAfter chars close as rest) := by
  cases as with
  | nil => simpa [Ends, partsAfter] using hclose
  | cons a as =>
    have hcomma : isNumberChar ',' = false := by decide
    simpa [Ends, partsAfter] using hcomma

/-- Numbers with something behind them are told apart. -/
lemma number_append_inj {n k : Number} (hn : n.OfDocument) (hk : k.OfDocument)
    {r r' : List Char} (hr : Ends r) (hr' : Ends r')
    (h : n.text.toList ++ r = k.text.toList ++ r') : n = k ∧ r = r' := by
  have hread {n : Number} (hn : n.OfDocument) {r : List Char} (hr : Ends r) :
      (n.text.toList ++ r).span isNumberChar = (n.text.toList, r) := by
    have hall := (Number.text_chars hn).2
    rw [List.span_eq_takeWhile_dropWhile, List.takeWhile_append_of_pos hall,
      List.dropWhile_append_of_pos hall]
    cases r with
    | nil => simp
    | cons c cs =>
      have hc := hr c rfl
      simp [hc]
  have hspan := hread hn hr
  rw [h, hread hk hr'] at hspan
  obtain ⟨htext, hrest⟩ := Prod.mk.inj hspan
  exact ⟨Number.text_inj hn hk (String.toList_inj.1 htext.symm), hrest.symm⟩

/-- What a part is told apart by, as long as no number goes on behind it. -/
def Separates {α : Type} (chars : α → List Char) (a : α) (ok : α → Prop) : Prop :=
  ∀ b r r', ok b → Ends r → Ends r' → chars a ++ r = chars b ++ r' → a = b ∧ r = r'

section

variable {α : Type} {chars : α → List Char} {close : Char} {ok : α → Prop}

lemma partsAfter_inj (hclose : isNumberChar close = false) (hcomma : close ≠ ',') {as bs : List α}
    (has : ∀ a ∈ as, Separates chars a ok) (hbs : ∀ b ∈ bs, ok b) {r r' : List Char}
    (h : partsAfter chars close as r = partsAfter chars close bs r') : as = bs ∧ r = r' := by
  induction as generalizing bs with
  | nil =>
    cases bs with
    | nil => simpa [partsAfter] using h
    | cons b bs => exact absurd (List.cons.inj h).1 hcomma
  | cons a as ih =>
    cases bs with
    | nil => exact absurd (List.cons.inj h).1.symm hcomma
    | cons b bs =>
      obtain ⟨rfl, htail⟩ := has a List.mem_cons_self b _ _ (hbs b List.mem_cons_self)
        (ends_partsAfter chars hclose as r) (ends_partsAfter chars hclose bs r')
        (List.cons.inj h).2
      obtain ⟨rfl, rfl⟩ := ih (fun x hx => has x (List.mem_cons_of_mem _ hx))
        (fun x hx => hbs x (List.mem_cons_of_mem _ hx)) htail
      exact ⟨rfl, rfl⟩

lemma parts_inj (hclose : isNumberChar close = false) (hcomma : close ≠ ',') {as bs : List α}
    (hopen : ∀ a, ok a → ∃ c cs, chars a = c :: cs ∧ c ≠ close) (has' : ∀ a ∈ as, ok a)
    (has : ∀ a ∈ as, Separates chars a ok) (hbs : ∀ b ∈ bs, ok b) {r r' : List Char}
    (h : parts chars close as r = parts chars close bs r') : as = bs ∧ r = r' := by
  cases as with
  | nil =>
    cases bs with
    | nil => simpa [parts] using h
    | cons b bs =>
      obtain ⟨c, cs, hc, hne⟩ := hopen b (hbs b List.mem_cons_self)
      simp only [parts, hc, List.cons_append, List.cons.injEq] at h
      exact absurd h.1.symm hne
  | cons a as =>
    cases bs with
    | nil =>
      obtain ⟨c, cs, hc, hne⟩ := hopen a (has' a List.mem_cons_self)
      simp only [parts, hc, List.cons_append, List.cons.injEq] at h
      exact absurd h.1 hne
    | cons b bs =>
      obtain ⟨rfl, htail⟩ := has a List.mem_cons_self b _ _ (hbs b List.mem_cons_self)
        (ends_partsAfter chars hclose as r) (ends_partsAfter chars hclose bs r') h
      obtain ⟨rfl, rfl⟩ := partsAfter_inj hclose hcomma
        (fun x hx => has x (List.mem_cons_of_mem _ hx))
        (fun x hx => hbs x (List.mem_cons_of_mem _ hx)) htail
      exact ⟨rfl, rfl⟩

end

lemma itemsOfDocument_iff {vs : List Value} :
    itemsOfDocument vs ↔ ∀ v ∈ vs, v.OfDocument := by
  induction vs with
  | nil => simp [itemsOfDocument]
  | cons v vs ih => simp [itemsOfDocument, ih]

lemma fieldsOfDocument_iff {fs : List (String × Value)} :
    fieldsOfDocument fs ↔ ∀ f ∈ fs, f.2.OfDocument := by
  induction fs with
  | nil => simp [fieldsOfDocument]
  | cons f fs ih => simp [fieldsOfDocument, ih]

lemma separates_field {f : String × Value} (h : Separates Value.chars f.2 Value.OfDocument) :
    Separates fieldChars f fun g => g.2.OfDocument := by
  rintro ⟨k', v'⟩ r r' hv' hr hr' heq
  obtain ⟨k, v⟩ := f
  simp only [fieldChars, List.append_assoc, List.cons_append] at heq
  obtain ⟨rfl, hrest⟩ := quote_append_inj heq
  obtain ⟨rfl, rfl⟩ := h v' r r' hv' hr hr' (List.cons.inj hrest).2
  exact ⟨rfl, rfl⟩

lemma array_inj {items items' : List Value} {r r' : List Char}
    (hv : (Value.array items).OfDocument) (hw : (Value.array items').OfDocument)
    (has : ∀ v ∈ items, Separates Value.chars v Value.OfDocument)
    (h : (Value.array items).chars ++ r = (Value.array items').chars ++ r') :
    items = items' ∧ r = r' := by
  rw [chars_array, chars_array] at h
  refine parts_inj (by decide) (by decide) (fun v hv => ?_) (itemsOfDocument_iff.1 hv) has
    (itemsOfDocument_iff.1 hw) (List.cons.inj h).2
  obtain ⟨c, cs, hc, hk⟩ := chars_eq_cons hv
  refine ⟨c, cs, hc, ?_⟩
  rintro rfl
  -- no value begins with a closing bracket
  exact absurd hk (by simp [kindOf?, isNumberChar])

lemma object_inj {fields fields' : List (String × Value)} {r r' : List Char}
    (hv : (Value.object fields).OfDocument) (hw : (Value.object fields').OfDocument)
    (has : ∀ f ∈ fields, Separates Value.chars f.2 Value.OfDocument)
    (h : (Value.object fields).chars ++ r = (Value.object fields').chars ++ r') :
    fields = fields' ∧ r = r' := by
  rw [chars_object, chars_object] at h
  refine parts_inj (by decide) (by decide) (fun f _ => ?_) (fieldsOfDocument_iff.1 hv)
    (fun f hf => separates_field (has f hf)) (fieldsOfDocument_iff.1 hw) (List.cons.inj h).2
  exact ⟨'"', _, by rw [fieldChars, toList_quote, List.cons_append], by decide⟩

mutual

/-- Values with something behind them are told apart. -/
theorem separates_value (v : Value) (hv : v.OfDocument) :
    Separates Value.chars v Value.OfDocument := by
  intro w r r' hw hr hr' h
  have hkind := kind_eq_of_chars hv hw h
  cases v with
  | null =>
    cases w with
    | null => exact ⟨rfl, List.append_cancel_left h⟩
    | _ => simp [Value.kind] at hkind
  | bool b =>
    cases w with
    | bool b' =>
      obtain rfl : b = b' := by simpa [Value.kind] using hkind
      exact ⟨rfl, List.append_cancel_left h⟩
    | _ => simp [Value.kind] at hkind
  | number n =>
    cases w with
    | number k =>
      obtain ⟨rfl, rfl⟩ := number_append_inj (by simpa [Value.OfDocument] using hv)
        (by simpa [Value.OfDocument] using hw) hr hr' h
      exact ⟨rfl, rfl⟩
    | _ => simp [Value.kind] at hkind
  | string s =>
    cases w with
    | string t =>
      obtain ⟨rfl, rfl⟩ := quote_append_inj h
      exact ⟨rfl, rfl⟩
    | _ => simp [Value.kind] at hkind
  | array items =>
    cases w with
    | array items' =>
      obtain ⟨rfl, rfl⟩ := array_inj hv hw (separates_items items hv) h
      exact ⟨rfl, rfl⟩
    | _ => simp [Value.kind] at hkind
  | object fields =>
    cases w with
    | object fields' =>
      obtain ⟨rfl, rfl⟩ := object_inj hv hw (separates_fields fields hv) h
      exact ⟨rfl, rfl⟩
    | _ => simp [Value.kind] at hkind

theorem separates_items (vs : List Value) (hvs : itemsOfDocument vs) :
    ∀ v ∈ vs, Separates Value.chars v Value.OfDocument := by
  cases vs with
  | nil => simp
  | cons v vs =>
    rw [itemsOfDocument] at hvs
    exact List.forall_mem_cons.2 ⟨separates_value v hvs.1, separates_items vs hvs.2⟩

theorem separates_fields (fs : List (String × Value)) (hfs : fieldsOfDocument fs) :
    ∀ f ∈ fs, Separates Value.chars f.2 Value.OfDocument := by
  cases fs with
  | nil => simp
  | cons f fs =>
    obtain ⟨k, v⟩ := f
    rw [fieldsOfDocument] at hfs
    exact List.forall_mem_cons.2 ⟨separates_value v hfs.1, separates_fields fs hfs.2⟩

end

/-- **No two values have one compact text.** -/
theorem compact_inj {v w : Value} (hv : v.OfDocument) (hw : w.OfDocument)
    (h : v.compact = w.compact) : v = w := by
  have hnil : Ends [] := by simp [Ends]
  refine (separates_value v hv w [] [] hw hnil hnil ?_).1
  rw [Value.chars, Value.chars, h]

/-! ### No control characters -/

/-- A character that is no control character. -/
def Visible (c : Char) : Prop := 32 ≤ c.toNat

instance : DecidablePred Visible := fun c => inferInstanceAs (Decidable (32 ≤ c.toNat))

lemma visible_hexDigit {n : ℕ} (h : n < 32) : Visible (hexDigit n) := by
  have all : ∀ n < 32, Visible (hexDigit n) := by decide
  exact all n h

lemma visible_of_mem_escapeChar {c d : Char} (h : d ∈ escapeChar c) : Visible d := by
  unfold escapeChar at h
  -- Each of the seven short escapes is two characters.
  iterate 7
    split at h
    · simp only [List.mem_cons, List.not_mem_nil, or_false] at h
      rcases h with rfl | rfl <;> decide
  split at h
  · next hc =>
    simp only [List.mem_cons, List.not_mem_nil, or_false] at h
    rcases h with rfl | rfl | rfl | rfl | rfl | rfl
    · decide
    · decide
    · decide
    · decide
    · exact visible_hexDigit (by omega)
    · exact visible_hexDigit hc
  · next hc =>
    rw [List.mem_singleton.1 h]
    exact Nat.not_lt.1 hc

lemma visible_of_mem_quote {s : String} {c : Char} (h : c ∈ (quote s).toList) : Visible c := by
  have hquote : Visible '"' := by decide
  rw [toList_quote] at h
  simp only [List.mem_cons, List.mem_append, List.mem_flatMap, List.not_mem_nil, or_false] at h
  rcases h with rfl | ⟨d, -, hd⟩ | rfl
  · exact hquote
  · exact visible_of_mem_escapeChar hd
  · exact hquote

lemma visible_of_isNumberChar {c : Char} (h : isNumberChar c = true) : Visible c := by
  simp only [isNumberChar, Bool.or_eq_true, beq_iff_eq] at h
  rcases h with (((h | rfl) | rfl) | rfl) | rfl
  · simp only [Char.isDigit, Bool.and_eq_true, decide_eq_true_eq] at h
    have : ('0').toNat ≤ c.toNat := UInt32.le_iff_toNat_le.1 h.1
    exact le_trans (by decide) this
  all_goals decide

section

variable {α : Type} {chars : α → List Char} {close : Char}

lemma visible_of_mem_parts (hclose : Visible close) {as : List α}
    (has : ∀ a ∈ as, ∀ c ∈ chars a, Visible c) {c : Char} (h : c ∈ parts chars close as []) :
    Visible c := by
  have hcomma : Visible ',' := by decide
  have hafter {as : List α} (has : ∀ a ∈ as, ∀ c ∈ chars a, Visible c)
      (h : c ∈ partsAfter chars close as []) : Visible c := by
    induction as with
    | nil => simpa [partsAfter, List.mem_singleton.1 h] using hclose
    | cons a as ih =>
      simp only [partsAfter, List.mem_cons, List.mem_append] at h
      rcases h with rfl | h | h
      · exact hcomma
      · exact has a List.mem_cons_self c h
      · exact ih (fun b hb => has b (List.mem_cons_of_mem _ hb)) h
  cases as with
  | nil => simpa [parts, List.mem_singleton.1 h] using hclose
  | cons a as =>
    rcases List.mem_append.1 h with h | h
    · exact has a List.mem_cons_self c h
    · exact hafter (fun b hb => has b (List.mem_cons_of_mem _ hb)) h

end

lemma visible_of_mem_fieldChars {f : String × Value} (hf : ∀ c ∈ f.2.chars, Visible c) :
    ∀ c ∈ fieldChars f, Visible c := by
  intro c hc
  rcases List.mem_append.1 hc with hc | hc
  · exact visible_of_mem_quote hc
  · rcases List.mem_cons.1 hc with rfl | hc
    · decide
    · exact hf c hc

mutual

/-- A compact text has no control characters. -/
theorem visible_value (v : Value) (hv : v.OfDocument) : ∀ c ∈ v.chars, Visible c := by
  have word {v : Value} (hall : v.chars.all (fun c => decide (Visible c)) = true) :
      ∀ c ∈ v.chars, Visible c := fun c hc => of_decide_eq_true (List.all_eq_true.1 hall c hc)
  intro c hc
  cases v with
  | null => exact word (by decide) c hc
  | bool b => exact word (by cases b <;> decide) c hc
  | number n =>
    exact visible_of_isNumberChar
      ((Number.text_chars (by simpa [Value.OfDocument] using hv)).2 c hc)
  | string s => exact visible_of_mem_quote hc
  | array items =>
    rw [← List.append_nil (Value.chars _), chars_array] at hc
    rcases List.mem_cons.1 hc with rfl | hc
    · decide
    · exact visible_of_mem_parts (by decide) (visible_items items hv) hc
  | object fields =>
    rw [← List.append_nil (Value.chars _), chars_object] at hc
    rcases List.mem_cons.1 hc with rfl | hc
    · decide
    · exact visible_of_mem_parts (by decide)
        (fun f hf => visible_of_mem_fieldChars (visible_fields fields hv f hf)) hc

theorem visible_items (vs : List Value) (hvs : itemsOfDocument vs) :
    ∀ v ∈ vs, ∀ c ∈ v.chars, Visible c := by
  cases vs with
  | nil => simp
  | cons v vs =>
    rw [itemsOfDocument] at hvs
    exact List.forall_mem_cons.2 ⟨visible_value v hvs.1, visible_items vs hvs.2⟩

theorem visible_fields (fs : List (String × Value)) (hfs : fieldsOfDocument fs) :
    ∀ f ∈ fs, ∀ c ∈ f.2.chars, Visible c := by
  cases fs with
  | nil => simp
  | cons f fs =>
    obtain ⟨k, v⟩ := f
    rw [fieldsOfDocument] at hfs
    exact List.forall_mem_cons.2 ⟨visible_value v hfs.1, visible_fields fs hfs.2⟩

end

end VisualTemplate.Json
