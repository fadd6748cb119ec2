import Mathlib.Data.List.Induction
import Mathlib.Data.List.Nodup
import VisualTemplate.Table
/-!
Tables as lists of entries.

A table is the table of its own entries. The table of any other list of entries answers what stands
there under a name, if no name stands there with two values, and else the last of the values.
-/

namespace VisualTemplate.Table

variable {α : Type}

lemma nodup_names (t : Table α) : t.names.Nodup := by
  refine List.pairwise_map.2 (t.sorted.imp fun {a b} hlt heq => ?_)
  rw [heq] at hlt
  exact String.lt_irrefl _ hlt

lemma put_of_lt {name : String} {a : α} {es : List (String × α)} (h : ∀ e ∈ es, e.1 < name) :
    put name a es = es ++ [(name, a)] := by
  induction es with
  | nil => rfl
  | cons e es ih =>
    obtain ⟨n, b⟩ := e
    have hlt : n < name := h _ List.mem_cons_self
    have hne : ¬ name = n := fun heq => String.lt_irrefl n (heq ▸ hlt)
    rw [put, if_neg (String.lt_asymm hlt), if_neg hne,
      ih fun e he => h e (List.mem_cons_of_mem _ he)]
    rfl

/-- Entries that stand behind those of a table are put at its end. -/
lemma entries_foldl {f : Table α → String × α → Table α} (hf : ∀ t e, f t e = t.insert e.1 e.2)
    (es : List (String × α)) (t : Table α) (h : (t.entries ++ es).Pairwise (·.1 < ·.1)) :
    (es.foldl f t).entries = t.entries ++ es := by
  induction es generalizing t with
  | nil => exact (List.append_nil _).symm
  | cons e es ih =>
    have hinsert : (t.insert e.1 e.2).entries = t.entries ++ [e] :=
      put_of_lt fun e' he' => (List.pairwise_append.1 h).2.2 e' he' e List.mem_cons_self
    have hentries : (t.insert e.1 e.2).entries ++ es = t.entries ++ e :: es := by
      rw [hinsert, List.append_assoc, List.singleton_append]
    rw [List.foldl_cons, hf, ih _ (hentries ▸ h), hentries]

/-- The table of the entries of a table is the table. -/
lemma ofList_entries (t : Table α) : ofList t.entries = t :=
  Table.ext (entries_foldl (fun _ _ => rfl) t.entries empty t.sorted)

/-- Where the entries of a name have one value, the table of the entries answers it. -/
lemma get?_ofList {es : List (String × α)} {name : String} {a : α}
    (hes : ∀ a b, (name, a) ∈ es → (name, b) ∈ es → a = b) :
    (ofList es).get? name = some a ↔ (name, a) ∈ es := by
  induction es using List.reverseRecOn with
  | nil => simp [ofList]
  | append_singleton es e ih =>
    obtain ⟨n, b⟩ := e
    have hinsert : ofList (es ++ [(n, b)]) = (ofList es).insert n b := by
      rw [ofList, List.foldl_append]
      rfl
    rw [hinsert, get?_insert]
    by_cases h : name = n
    · subst h
      rw [if_pos rfl, Option.some.injEq]
      exact ⟨fun heq => by simp [heq], fun hmem => hes b a (by simp) hmem⟩
    · rw [if_neg h, ih fun a b ha hb => hes a b (by simp [ha]) (by simp [hb])]
      simp [h]

/-! ### The last value of a name -/

/-- Of the entries that are put into a table, the last one of a name counts. -/
lemma get?_foldl (es : List (String × α)) (t : Table α) (name : String) :
    (es.foldl (fun t e => t.insert e.1 e.2) t).get? name =
      (es.reverse.lookup name).or (t.get? name) := by
  induction es using List.reverseRecOn with
  | nil => rfl
  | append_singleton es e ih =>
    rw [List.foldl_append, List.foldl_cons, List.foldl_nil, get?_insert, ih, List.reverse_append,
      List.reverse_singleton, List.singleton_append, List.lookup_cons]
    by_cases h : name = e.1
    · simp [h]
    · have hb : (name == e.1) = false := by simpa using h
      simp [h, hb]

lemma get?_ofList_eq (es : List (String × α)) (name : String) :
    (ofList es).get? name = es.reverse.lookup name := by
  rw [ofList, get?_foldl, get?_empty, Option.or_none]

lemma get?_union (t u : Table α) (name : String) :
    (t.union u).get? name = (u.get? name).or (t.get? name) := by
  rw [union, get?_foldl, ← get?_ofList_eq, ofList_entries]

/-- Tables that answer every look-up alike are equal. -/
lemma ext_get? {t u : Table α} (h : ∀ name, t.get? name = u.get? name) : t = u := by
  have hnodup (t : Table α) : t.entries.Nodup := (nodup_names t).of_map _
  have hperm : t.entries.Perm u.entries := by
    rw [List.perm_ext_iff_of_nodup (hnodup t) (hnodup u)]
    rintro ⟨name, a⟩
    rw [mem_entries_iff, mem_entries_iff, h]
  refine Table.ext (hperm.eq_of_pairwise (fun x y _ _ hxy hyx => ?_) t.sorted u.sorted)
  exact absurd hyx (String.lt_asymm hxy)

lemma union_assoc (t u v : Table α) : (t.union u).union v = t.union (u.union v) := by
  refine ext_get? fun name => ?_
  rw [get?_union, get?_union, get?_union, get?_union, Option.or_assoc]

lemma empty_union (t : Table α) : empty.union t = t := ofList_entries t

/-- The table of two lists of entries, one behind the other. -/
lemma ofList_append (es fs : List (String × α)) :
    ofList (es ++ fs) = (ofList es).union (ofList fs) := by
  refine ext_get? fun name => ?_
  rw [get?_union, get?_ofList_eq, get?_ofList_eq, get?_ofList_eq, List.reverse_append,
    List.lookup_append]

lemma mem_of_mem_ofList {es : List (String × α)} {e : String × α}
    (h : e ∈ (ofList es).entries) : e ∈ es := by
  induction es using List.reverseRecOn with
  | nil => cases h
  | append_singleton es x ih =>
    rw [ofList, List.foldl_append] at h
    rcases mem_put h with rfl | h
    · simp
    · exact List.mem_append_left _ (ih h)

end VisualTemplate.Table
