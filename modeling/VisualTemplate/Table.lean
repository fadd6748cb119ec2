/-!
Tables: values under names, kept in ascending order of the names.

Two tables are equal when they answer every look-up alike.
-/

namespace VisualTemplate

/-- Values under names, each name once, in ascending order. -/
structure Table (α : Type) where
  entries : List (String × α)
  sorted : entries.Pairwise (·.1 < ·.1)

namespace Table

variable {α : Type}

def empty : Table α := ⟨[], .nil⟩

instance : Inhabited (Table α) := ⟨empty⟩

/-- The entries with one put in or replaced. -/
def put (name : String) (a : α) : List (String × α) → List (String × α)
  | [] => [(name, a)]
  | (n, b) :: es =>
    if name < n then (name, a) :: (n, b) :: es
    else if name = n then (name, a) :: es
    else (n, b) :: put name a es

theorem mem_put {name : String} {a : α} {es : List (String × α)} {e : String × α}
    (h : e ∈ put name a es) : e = (name, a) ∨ e ∈ es := by
  induction es with
  | nil => simpa [put] using h
  | cons x es ih =>
    obtain ⟨n, b⟩ := x
    rw [put] at h
    split at h
    · simpa using h
    · split at h
      · rcases List.mem_cons.1 h with h | h
        · exact .inl h
        · exact .inr (List.mem_cons_of_mem _ h)
      · rcases List.mem_cons.1 h with h | h
        · exact .inr (h ▸ List.mem_cons_self)
        · rcases ih h with h | h
          · exact .inl h
          · exact .inr (List.mem_cons_of_mem _ h)

theorem lt_of_not_lt {x y : String} (h : ¬ x < y) (hne : x ≠ y) : y < x := by
  apply Classical.byContradiction
  intro h'
  exact hne (String.le_antisymm (String.not_lt.1 h') (String.not_lt.1 h))

theorem put_sorted {name : String} {a : α} {es : List (String × α)}
    (h : es.Pairwise (·.1 < ·.1)) : (put name a es).Pairwise (·.1 < ·.1) := by
  induction es with
  | nil => simp [put]
  | cons x es ih =>
    obtain ⟨n, b⟩ := x
    have ⟨hx, hs⟩ := List.pairwise_cons.1 h
    rw [put]
    split
    · next hlt =>
      refine List.pairwise_cons.2 ⟨fun e he => ?_, h⟩
      rcases List.mem_cons.1 he with rfl | he
      · exact hlt
      · exact String.lt_trans hlt (hx e he)
    · split
      · next heq =>
        subst heq
        exact List.pairwise_cons.2 ⟨hx, hs⟩
      · next hlt hne =>
        refine List.pairwise_cons.2 ⟨fun e he => ?_, ih hs⟩
        rcases mem_put he with rfl | he
        · exact lt_of_not_lt hlt hne
        · exact hx e he

def insert (t : Table α) (name : String) (a : α) : Table α :=
  ⟨put name a t.entries, put_sorted t.sorted⟩

def get? (t : Table α) (name : String) : Option α := t.entries.lookup name

def contains (t : Table α) (name : String) : Bool := (t.get? name).isSome

def names (t : Table α) : List String := t.entries.map (·.1)

def size (t : Table α) : Nat := t.entries.length

def isEmpty (t : Table α) : Bool := t.entries.isEmpty

def erase (t : Table α) (name : String) : Table α :=
  ⟨t.entries.filter (·.1 != name), t.sorted.sublist List.filter_sublist⟩

/-- The table of a list of entries; of two with one name the later counts. -/
def ofList (es : List (String × α)) : Table α := es.foldl (fun t (n, a) => t.insert n a) empty

/-- Both tables together; where both have a name the second counts. -/
def union (t u : Table α) : Table α := u.entries.foldl (fun t (n, a) => t.insert n a) t

instance [BEq α] : BEq (Table α) := ⟨fun t u => t.entries == u.entries⟩

theorem ext {t u : Table α} (h : t.entries = u.entries) : t = u := by
  cases t; cases u; simp_all

theorem lookup_put (name key : String) (a : α) (es : List (String × α)) :
    (put name a es).lookup key = if key = name then some a else es.lookup key := by
  induction es with
  | nil =>
    by_cases h : key = name
    · simp [put, h]
    · have hb : (key == name) = false := by simpa using h
      simp [put, List.lookup_cons, h, hb]
  | cons x es ih =>
    obtain ⟨n, b⟩ := x
    rw [put]
    split
    · by_cases h : key = name
      · simp [h]
      · have hb : (key == name) = false := by simpa using h
        simp [List.lookup_cons, h, hb]
    · split
      · next heq =>
        subst heq
        by_cases h : key = name
        · simp [h]
        · have hb : (key == name) = false := by simpa using h
          simp [List.lookup_cons, h, hb]
      · next hne =>
        by_cases h : key = n
        · subst h
          have hn : ¬ key = name := fun e => hne e.symm
          simp [hn]
        · have hb : (key == n) = false := by simpa using h
          simp [List.lookup_cons, hb, ih]

@[simp] theorem get?_insert (t : Table α) (name key : String) (a : α) :
    (t.insert name a).get? key = if key = name then some a else t.get? key :=
  lookup_put name key a t.entries

@[simp] theorem get?_empty (key : String) : (empty : Table α).get? key = none := rfl

theorem lookup_filter_ne (name key : String) (es : List (String × α)) :
    (es.filter (·.1 != name)).lookup key = if key = name then none else es.lookup key := by
  induction es with
  | nil => simp
  | cons x es ih =>
    obtain ⟨n, b⟩ := x
    rw [List.filter_cons, List.lookup_cons]
    by_cases hn : n = name
    · subst hn
      rw [if_neg (by simp), ih]
      by_cases hk : key = n
      · simp [hk]
      · have hb : (key == n) = false := by simpa using hk
        simp [hb, hk]
    · rw [if_pos (by simpa using hn), List.lookup_cons, ih]
      by_cases hk : key = n
      · subst hk
        simp [hn]
      · have hb : (key == n) = false := by simpa using hk
        simp [hb]

@[simp] theorem get?_erase (t : Table α) (name key : String) :
    (t.erase name).get? key = if key = name then none else t.get? key :=
  lookup_filter_ne name key t.entries

theorem mem_of_lookup {name : String} {es : List (String × α)} {a : α}
    (h : es.lookup name = some a) : (name, a) ∈ es := by
  induction es with
  | nil => simp at h
  | cons e es ih =>
    obtain ⟨n, b⟩ := e
    rw [List.lookup_cons] at h
    split at h
    · next heq =>
      rw [beq_iff_eq] at heq
      rw [heq, Option.some.inj h]
      exact List.mem_cons_self
    · exact List.mem_cons_of_mem _ (ih h)

theorem lookup_of_mem {name : String} {es : List (String × α)}
    (hes : es.Pairwise (·.1 < ·.1)) {a : α} (h : (name, a) ∈ es) : es.lookup name = some a := by
  induction es with
  | nil => simp at h
  | cons e es ih =>
    obtain ⟨n, b⟩ := e
    obtain ⟨hn, hes⟩ := List.pairwise_cons.1 hes
    rw [List.lookup_cons]
    rcases List.mem_cons.1 h with h | h
    · obtain ⟨rfl, rfl⟩ := Prod.mk.inj h
      simp
    · have hlt : n < name := hn _ h
      have hne : (name == n) = false := by
        rw [beq_eq_false_iff_ne]
        rintro rfl
        exact String.lt_irrefl _ hlt
      rw [hne]
      exact ih hes h

/-- What stands in a table is what it answers. -/
theorem mem_entries_iff {t : Table α} {name : String} {a : α} :
    (name, a) ∈ t.entries ↔ t.get? name = some a :=
  ⟨lookup_of_mem t.sorted, mem_of_lookup⟩

theorem mem_names_iff {t : Table α} {name : String} :
    name ∈ t.names ↔ ∃ a, t.get? name = some a := by
  simp only [names, List.mem_map, Prod.exists, exists_and_right, exists_eq_right, mem_entries_iff]

theorem contains_iff {t : Table α} {name : String} :
    t.contains name = true ↔ ∃ a, t.get? name = some a := by
  rw [contains, Option.isSome_iff_exists]

theorem length_names (t : Table α) : t.names.length = t.size := by simp [names, size]

end Table

end VisualTemplate
