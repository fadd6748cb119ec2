import VisualTemplate.Error
import VisualTemplate.Proofs.Json.Records
/-!
What a reading that succeeds tells.

Where a record is read, each of its parts is; where an object is flattened, the fields that are not
its own were taken whole and then read together. So a part that cannot be read makes all around it
fail.
-/

namespace VisualTemplate.Json

lemma Found.both_eq_ok {α β : Type} {x : Found α} {y : Found β} {c : α × β}
    (h : x.both y = .ok c) : x = .ok c.1 ∧ y = .ok c.2 := by
  cases x with
  | error e => cases y <;> exact absurd h (by simp [Found.both])
  | ok a =>
    cases y with
    | error e => exact absurd h (by simp [Found.both])
    | ok b =>
      rw [← Except.ok.inj h]
      exact ⟨rfl, rfl⟩

/-! ### Fields where they stand -/

/-- Written fields stand among the fields of an object. -/
def Stand (depth : ℕ) (fields : List (String × Option Value))
    (fs : List (Option String × Source)) : Prop :=
  ∀ k v, (k, some v) ∈ fields → (some k, v.sourceAt depth) ∈ fs

lemma stand_fieldSourcesAt (depth : ℕ) (fields : List (String × Option Value)) :
    Stand depth fields
      (fieldSourcesAt depth (fields.filterMap fun f => f.2.map fun v => (f.1, v))) := by
  intro k v hmem
  rw [fieldSourcesAt_eq]
  exact List.mem_map.2 ⟨(k, v), List.mem_filterMap.2 ⟨(k, some v), hmem, rfl⟩, rfl⟩

lemma exists_entry {fs : List (Option String × Source)} {k : Option String} {s : Source}
    (h : (k, s) ∈ fs) (n : ℕ) : ∃ e ∈ number n fs, e.name = k ∧ e.source = s := by
  induction fs generalizing n with
  | nil => exact absurd h List.not_mem_nil
  | cons f fs ih =>
    rcases List.mem_cons.1 h with rfl | h
    · exact ⟨_, List.mem_cons_self, rfl, rfl⟩
    · obtain ⟨e, he, hrest⟩ := ih h (n + 1)
      exact ⟨e, List.mem_cons_of_mem _ he, hrest⟩

section

variable {α β : Type} {mode : Mode} {depth : ℕ} {fields : List (String × Option Value)}
  {P Q : Prop}

/-- Where a value is read, something is known. -/
def Decoder.Tells (d : Decoder α) (mode : Mode) (depth : ℕ) (v : Value) (P : Prop) : Prop :=
  ∀ a, d mode (v.sourceAt depth) = .ok a → P

/-- Where an object with written fields is read, something is known. -/
def Decoder.FieldsTell (d : Decoder α) (mode : Mode) (depth : ℕ)
    (fields : List (String × Option Value)) (P : Prop) : Prop :=
  ∀ deep fs a, Stand depth fields fs → d mode (.object deep fs) = .ok a → P

/-- Where the parts of a record are read from written fields, something is known. -/
def Record.Tells (r : Record α) (mode : Mode) (depth : ℕ) (fields : List (String × Option Value))
    (P : Prop) : Prop :=
  ∀ size fs a, Stand depth fields fs → r.fromObject mode size (number 0 fs) = .ok a → P

/-! ### Records -/

namespace Record

variable {name : String} {d : Decoder α}

/-- A field that stands under the name of a part is what the part is read from. -/
lemma eq_ok_of_part {default_ : Option α} {size : ℕ} {es : List Entry} {a : α}
    (h : (part name d default_).fromObject mode size es = .ok a) {e : Entry} (he : e ∈ es)
    (hname : e.name = some name) : d mode e.source = .ok a := by
  have hmem : e ∈ es.filter (·.name == some name) := by simp [he, hname]
  rw [part] at h
  simp only at h
  split at h
  · next hnone =>
    rw [hnone] at hmem
    exact absurd hmem List.not_mem_nil
  · next hnone =>
    rw [hnone] at hmem
    exact absurd hmem List.not_mem_nil
  · next f hone =>
    rw [hone, List.mem_singleton] at hmem
    cases hd : d mode e.source with
    | error x =>
      rw [← hmem, hd] at h
      exact absurd h (by simp [Except.mapError])
    | ok b =>
      rw [← hmem, hd] at h
      exact congrArg Except.ok (Except.ok.inj h)
  · split at h <;> exact absurd h (by simp)

/-- A part is its default, or it is read from a field. -/
lemma default_or_read_of_part {default_ : Option α} {size : ℕ} {es : List Entry} {a : α}
    (h : (part name d default_).fromObject mode size es = .ok a) :
    default_ = some a ∨ ∃ s, d mode s = .ok a := by
  rw [part] at h
  simp only at h
  split at h
  · exact .inl (congrArg some (Except.ok.inj h))
  · exact absurd h (by simp)
  · next e _ =>
    cases hd : d mode e.source with
    | error x =>
      rw [hd] at h
      exact absurd h (by simp [Except.mapError])
    | ok b =>
      rw [hd] at h
      exact .inr ⟨e.source, hd.trans (congrArg Except.ok (Except.ok.inj h))⟩
  · split at h <;> exact absurd h (by simp)

lemma Tells.part {default_ : Option α} {v : Value} (hmem : (name, some v) ∈ fields)
    (h : d.Tells mode depth v P) : (part name d default_).Tells mode depth fields P := by
  intro size fs a hstand ha
  obtain ⟨e, he, hname, hsource⟩ := exists_entry (hstand name v hmem) 0
  have hread := eq_ok_of_part ha he hname
  rw [hsource] at hread
  exact h a hread

/-- A part that may be left out tells of itself only where it is written. -/
lemma Tells.ifWritten {default_ : Option α} {o : Option Value} (hmem : (name, o) ∈ fields)
    (h : ∀ v ∈ o, d.Tells mode depth v P) (hnone : o = none → P) :
    (Record.part name d default_).Tells mode depth fields P := by
  cases o with
  | none => exact fun _ _ _ _ _ => hnone rfl
  | some v => exact .part hmem (h v rfl)

lemma Tells.map {f : α → β} {r : Record α} (h : r.Tells mode depth fields P) :
    (f <$> r).Tells mode depth fields P := by
  intro size fs b hstand hb
  replace hb : (r.fromObject mode size (number 0 fs)).map f = .ok b := hb
  cases hr : r.fromObject mode size (number 0 fs) with
  | error e =>
    rw [hr] at hb
    exact absurd hb (by simp [Except.map])
  | ok a => exact h size fs a hstand hr

lemma fromObject_of_seq {r : Record (α → β)} {q : Record α} {size : ℕ} {es : List Entry} {b : β}
    (h : (r <*> q).fromObject mode size es = .ok b) :
    (∃ f, r.fromObject mode size es = .ok f) ∧ ∃ a, q.fromObject mode size es = .ok a := by
  replace h : ((r.fromObject mode size es).both (q.fromObject mode size es)).map
    (fun c => c.1 c.2) = .ok b := h
  cases hboth : (r.fromObject mode size es).both (q.fromObject mode size es) with
  | error e =>
    rw [hboth] at h
    exact absurd h (by simp [Except.map])
  | ok c =>
    have hparts := Found.both_eq_ok hboth
    exact ⟨⟨_, hparts.1⟩, _, hparts.2⟩

variable {r : Record (α → β)} {q : Record α}

lemma Tells.seq (hr : r.Tells mode depth fields P) (hq : q.Tells mode depth fields Q) :
    (r <*> q).Tells mode depth fields (P ∧ Q) := by
  intro size fs b hstand hb
  obtain ⟨⟨f, hf⟩, a, ha⟩ := fromObject_of_seq hb
  exact ⟨hr size fs f hstand hf, hq size fs a hstand ha⟩

lemma Tells.left (h : r.Tells mode depth fields P) : (r <*> q).Tells mode depth fields P := by
  intro size fs b hstand hb
  obtain ⟨⟨f, hf⟩, -⟩ := fromObject_of_seq hb
  exact h size fs f hstand hf

lemma Tells.right (h : q.Tells mode depth fields P) : (r <*> q).Tells mode depth fields P := by
  intro size fs b hstand hb
  obtain ⟨-, a, ha⟩ := fromObject_of_seq hb
  exact h size fs a hstand ha

lemma fromObject_of_ofFields {r : Record α} {keep : Bool} {es : List Entry} {a : α}
    (h : r.ofFields mode keep es = .ok a) :
    othersFault r.names mode keep es = .ok () ∧ r.fromObject mode es.length es = .ok a := by
  unfold ofFields at h
  split at h
  · next u b hboth =>
    have hparts := Found.both_eq_ok hboth
    rw [← Except.ok.inj h]
    exact hparts
  · exact absurd h (by simp)

end Record

/-- The fields that are kept whole can be taken whole. -/
lemma sound_of_othersFault {names : List String} {es : List Entry}
    (h : othersFault names .streamed true es = .ok ()) {e : Entry} (he : e ∈ es) {k : String}
    (hname : e.name = some k) (hk : k ∉ names) : e.source.sound = true := by
  unfold othersFault at h
  simp only at h
  split at h
  · exact absurd h (by simp)
  · next hnone =>
    have hfind := List.find?_eq_none.1 (Option.eq_none_iff_forall_ne_some.2 (hnone · rfl)) e he
    simpa [hname, hk] using hfind

/-! ### Decoders -/

namespace Decoder

variable {d : Decoder α}

lemma Tells.imp {v : Value} (h : d.Tells mode depth v P) (hPQ : P → Q) :
    d.Tells mode depth v Q := fun a ha => hPQ (h a ha)

lemma FieldsTell.imp (h : d.FieldsTell mode depth fields P) (hPQ : P → Q) :
    d.FieldsTell mode depth fields Q := fun deep fs a hstand ha => hPQ (h deep fs a hstand ha)

lemma FieldsTell.tells (h : d.FieldsTell mode (depth + 1) fields P) :
    d.Tells mode depth (.ofFields fields) P := by
  intro a ha
  rw [ofFields_eq, Value.sourceAt] at ha
  exact h _ _ a (stand_fieldSourcesAt (depth + 1) fields) ha

lemma exists_of_map {f : α → β} {s : Source} {b : β} (h : d.map f mode s = .ok b) :
    ∃ a, d mode s = .ok a := by
  rw [Decoder.map] at h
  cases hd : d mode s with
  | error e =>
    rw [hd] at h
    exact absurd h (by simp [Except.map])
  | ok a => exact ⟨a, rfl⟩

lemma Tells.map {f : α → β} {v : Value} (h : d.Tells mode depth v P) :
    (d.map f).Tells mode depth v P := by
  intro b hb
  obtain ⟨a, ha⟩ := exists_of_map hb
  exact h a ha

/-- A value that is not `null` tells what it tells where `null` may stand for it. -/
lemma Tells.option {v : Value} (hv : v.sourceAt depth ≠ .null) (h : d.Tells mode depth v P) :
    d.option.Tells mode depth v P := by
  intro o ho
  unfold Decoder.option at ho
  split at ho
  · next hnull => exact absurd hnull hv
  · obtain ⟨a, ha⟩ := exists_of_map ho
    exact h a ha

lemma tells_items {f : β → Value} {P : β → Prop} {bs : List β}
    (h : ∀ b ∈ bs, d.Tells mode depth (f b) (P b)) {as : List α}
    (hread : items d mode (itemSourcesAt depth (bs.map f)) = .ok as) : ∀ b ∈ bs, P b := by
  induction bs generalizing as with
  | nil => exact fun b hb => absurd hb List.not_mem_nil
  | cons b bs ih =>
    obtain ⟨a, ha, hrest⟩ := Except.bind_eq_ok_iff.1 hread
    obtain ⟨as, has, -⟩ := Except.bind_eq_ok_iff.1 hrest
    exact List.forall_mem_cons.2
      ⟨h b List.mem_cons_self a ha, ih (fun c hc => h c (List.mem_cons_of_mem _ hc)) has⟩

/-- Where a list is read, each item is. -/
lemma Tells.list {f : β → Value} {P : β → Prop} {bs : List β}
    (h : ∀ b ∈ bs, d.Tells mode (depth + 1) (f b) (P b)) :
    d.list.Tells mode depth (.array (bs.map f)) (∀ b ∈ bs, P b) := by
  intro as has
  rw [Value.sourceAt] at has
  obtain ⟨u, -, hitems⟩ := Except.bind_eq_ok_iff.1 has
  exact tells_items h hitems

lemma tells_entries {f : β → Value} {P : β → Prop} {es : List (String × β)}
    (h : ∀ e ∈ es, d.Tells mode depth (f e.2) (P e.2)) {as : List (String × α)}
    (hread : entries d mode (fieldSourcesAt depth (es.map fun e => (e.1, f e.2))) = .ok as) :
    ∀ e ∈ es, P e.2 := by
  induction es generalizing as with
  | nil => exact fun e he => absurd he List.not_mem_nil
  | cons e es ih =>
    obtain ⟨a, ha, hrest⟩ := Except.bind_eq_ok_iff.1 hread
    obtain ⟨as, has, -⟩ := Except.bind_eq_ok_iff.1 hrest
    exact List.forall_mem_cons.2
      ⟨h e List.mem_cons_self a ha, ih (fun c hc => h c (List.mem_cons_of_mem _ hc)) has⟩

/-- Where a table is read, each of its values is. -/
lemma Tells.table {f : β → Value} {P : β → Prop} {es : List (String × β)}
    (h : ∀ e ∈ es, d.Tells mode (depth + 1) (f e.2) (P e.2)) :
    d.table.Tells mode depth (.object (es.map fun e => (e.1, f e.2))) (∀ e ∈ es, P e.2) := by
  intro t ht
  rw [Value.sourceAt] at ht
  obtain ⟨u, -, ht⟩ := Except.bind_eq_ok_iff.1 ht
  obtain ⟨as, hentries, -⟩ := Except.bind_eq_ok_iff.1 ht
  exact tells_entries h hentries

/-- Where an object is read as a record, its parts are. -/
lemma fieldsTell_record {r : Record α} (h : r.Tells mode depth fields P) :
    (record r).FieldsTell mode depth fields P := by
  intro deep fs a hstand ha
  obtain ⟨u, -, hfields⟩ := Except.bind_eq_ok_iff.1 ha
  exact h _ fs a hstand (Record.fromObject_of_ofFields hfields).2

lemma stand_filter {name : String} {fs : List (Option String × Source)}
    (hstand : Stand depth fields fs) (hname : name ∉ fields.map Prod.fst) :
    Stand depth fields (fs.filter (·.1 != some name)) := by
  intro k v hmem
  refine List.mem_filter.2 ⟨hstand k v hmem, ?_⟩
  have hne : k ≠ name := fun h => hname (h ▸ List.mem_map_of_mem hmem)
  simpa using hne

section

variable {tag w : String} {words : List (String × Decoder α)}

/-- The fields beside a tag are read by the decoder that the tag names. -/
lemma tells_of_taggedFields (hw : words.lookup w = some d) (htag : tag ∉ fields.map Prod.fst)
    (h : d.FieldsTell .buffered depth fields P) {fs : List (Option String × Source)}
    (hstand : Stand depth ((tag, some (.string w)) :: fields) fs) {a : α}
    (ha : taggedFields tag words fs = .ok a) : P := by
  have hmem : (some tag, .string w) ∈ fs.filter (·.1 == some tag) := by
    refine List.mem_filter.2 ⟨hstand tag (.string w) List.mem_cons_self, by simp⟩
  unfold taggedFields at ha
  split at ha
  · next k t hone =>
    rw [hone, List.mem_singleton] at hmem
    obtain ⟨d', hd', ha⟩ := Except.bind_eq_ok_iff.1 ha
    obtain ⟨-, rfl⟩ := Prod.mk.inj hmem
    have hword : tagOf words .buffered (.string w) = .ok d := by simp [tagOf, hw]
    obtain rfl := Except.ok.inj (hword.symm.trans hd')
    exact h _ _ a (stand_filter (fun k v hk => hstand k v (List.mem_cons_of_mem _ hk)) htag) ha
  · exact absurd ha (by simp)

lemma fieldsTell_tagged (hw : words.lookup w = some d) (htag : tag ∉ fields.map Prod.fst)
    (h : d.FieldsTell .buffered depth fields P) :
    (tagged tag words).FieldsTell mode depth ((tag, some (.string w)) :: fields) P := by
  intro deep fs a hstand ha
  cases mode with
  | buffered => exact tells_of_taggedFields hw htag h hstand ha
  | streamed =>
    obtain ⟨u, -, ha⟩ := Except.bind_eq_ok_iff.1 ha
    obtain ⟨d', hd', ha⟩ := Except.bind_eq_ok_iff.1 ha
    obtain ⟨e, he, hname, hsource⟩ :=
      exists_entry (hstand tag (.string w) List.mem_cons_self) 0
    have hread := Record.eq_ok_of_part (Record.fromObject_of_ofFields hd').2 he hname
    have hword : tagOf words .streamed (.string w) = .ok d := by simp [tagOf, hw]
    rw [hsource] at hread
    obtain rfl := Except.ok.inj (hword.symm.trans hread)
    exact h _ _ a (stand_filter (fun k v hk => hstand k v (List.mem_cons_of_mem _ hk)) htag) ha

end

section

variable {r : Record α} {rest : List (Option String × Source) → Except Fault β}

lemma sound_of_flattened {deep : Bool} {fs : List (Option String × Source)} {p : α × β}
    (h : flattened r rest .streamed (.object deep fs) = .ok p) :
    deep = false ∧ ∀ k s, (some k, s) ∈ fs → k ∉ r.names → s.sound = true := by
  obtain ⟨u, henter, hrest⟩ := Except.bind_eq_ok_iff.1 h
  obtain ⟨a, hfields, -⟩ := Except.bind_eq_ok_iff.1 hrest
  refine ⟨?_, fun k s hmem hk => ?_⟩
  · unfold enter at henter
    split at henter
    · exact absurd henter (by simp)
    · next hshallow => simpa using hshallow
  · obtain ⟨e, he, hname, rfl⟩ := exists_entry hmem 0
    exact sound_of_othersFault (Record.fromObject_of_ofFields hfields).1 he hname hk

/-- Of a flattened object, the own fields are read and the others are read together. -/
lemma fieldsTell_flattened {others : List (String × Option Value)}
    (hown : r.Tells mode depth fields P) (hothers : ∀ f ∈ others, f ∈ fields ∧ f.1 ∉ r.names)
    (hrest : ∀ fs b, Stand depth others fs → rest fs = .ok b → Q) :
    (flattened r rest).FieldsTell mode depth fields (P ∧ Q) := by
  intro deep fs p hstand hp
  obtain ⟨u, -, hp⟩ := Except.bind_eq_ok_iff.1 hp
  obtain ⟨a, ha, hp⟩ := Except.bind_eq_ok_iff.1 hp
  obtain ⟨b, hb, -⟩ := Except.bind_eq_ok_iff.1 hp
  refine ⟨hown _ fs a hstand (Record.fromObject_of_ofFields ha).2,
    hrest _ b (fun k v hmem => ?_) hb⟩
  obtain ⟨hfields, hname⟩ := hothers _ hmem
  obtain ⟨e, he, hk, hsource⟩ := exists_entry (hstand k v hfields) 0
  refine List.mem_map.2 ⟨e, List.mem_filter.2 ⟨he, ?_⟩, by rw [hk, hsource]⟩
  simpa [hk] using hname

end

end Decoder

/-- A part that may be missing tells of itself where it is there, if it is written as an object. -/
lemma Record.Tells.maybe {name : String} {d : Decoder α} {o : Option β} {f : β → Value}
    {P : β → Prop} (hmem : (name, o.map f) ∈ fields) (hobject : ∀ b, ∃ fs, f b = .object fs)
    (h : ∀ b ∈ o, d.Tells mode depth (f b) (P b)) :
    (Record.maybe name d).Tells mode depth fields (∀ b ∈ o, P b) := by
  cases o with
  | none => exact fun _ _ _ _ _ b hb => absurd hb (by simp)
  | some b =>
    obtain ⟨fs, hfs⟩ := hobject b
    have hne : (f b).sourceAt depth ≠ .null := by simp [hfs, Value.sourceAt]
    have htells : (d.option).Tells mode depth (f b) (P b) := .option hne (h b rfl)
    exact .part hmem (htells.imp fun hb c hc => by rwa [← Option.some.inj hc])

end

end VisualTemplate.Json
