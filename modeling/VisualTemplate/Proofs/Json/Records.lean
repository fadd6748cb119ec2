import VisualTemplate.Binding
import VisualTemplate.Proofs.Json.Indented
import VisualTemplate.Proofs.Table
/-!
Decoders that take what was written.

A decoder reads a value if it takes it from what the value's text is read as, straight from the
text or from a part that has been read whole. A record reads written fields part by part: each part
is looked up under its own name, so what the record reads is put together from what its parts read.
-/

namespace VisualTemplate

namespace Json

/-! ### Sources of written values -/

lemma Value.Rereads.source_ne_null {v : Value} (h : v.Rereads) (hv : v ≠ .null) :
    v.source ≠ .null := by
  cases h with
  | null => exact absurd rfl hv
  | @number n hn =>
    obtain ⟨k, hk⟩ := hn
    rw [Value.source, hk]
    simp
  | _ => simp [Value.source]

/-- What a value is read as can be passed over and can be taken whole. -/
def Source.Whole (s : Source) : Prop := s.passes = true ∧ s.sound = true

lemma whole_items {items : List Value} (h : ∀ v ∈ items, v.source.Whole) :
    itemsPass (itemSources items) = true ∧ itemsSound (itemSources items) = true := by
  induction items with
  | nil => exact ⟨rfl, rfl⟩
  | cons v vs ih =>
    have hv := h v List.mem_cons_self
    have hvs := ih fun w hw => h w (List.mem_cons_of_mem _ hw)
    exact ⟨by simp [itemSources, itemsPass, hv.1, hvs.1],
      by simp [itemSources, itemsSound, hv.2, hvs.2]⟩

lemma whole_fields {fields : List (String × Value)} (h : ∀ f ∈ fields, f.2.source.Whole) :
    fieldsPass (fieldSources fields) = true ∧ fieldsSound (fieldSources fields) = true := by
  induction fields with
  | nil => exact ⟨rfl, rfl⟩
  | cons f fs ih =>
    have hf := h f List.mem_cons_self
    have hfs := ih fun g hg => h g (List.mem_cons_of_mem _ hg)
    exact ⟨by simp [fieldSources, fieldsPass, hf.1, hfs.1],
      by simp [fieldSources, fieldsSound, hf.2, hfs.2]⟩

lemma Value.Rereads.whole {v : Value} (h : v.Rereads) : v.source.Whole := by
  induction h with
  | null => exact ⟨rfl, rfl⟩
  | bool b => exact ⟨rfl, rfl⟩
  | @number n hn =>
    obtain ⟨k, hk⟩ := hn
    rw [Value.source, hk]
    exact ⟨rfl, rfl⟩
  | string s => exact ⟨rfl, rfl⟩
  | @array items _ ih =>
    have hitems := whole_items ih
    exact ⟨by simpa [Value.source, Source.passes] using hitems.1,
      by simpa [Value.source, Source.sound] using hitems.2⟩
  | @object fields _ ih =>
    have hfields := whole_fields ih
    exact ⟨by simpa [Value.source, Source.passes] using hfields.1,
      by simpa [Value.source, Source.sound] using hfields.2⟩

lemma buffer_eq_ok {s : Source} (h : s.Whole) (mode : Mode) : buffer mode s = .ok () := by
  rw [buffer, if_neg (by simp [h.2])]

lemma enter_eq_ok (mode : Mode) : Decoder.enter mode false = .ok () := by
  rw [Decoder.enter, if_neg (by simp)]

/-! ### Decoders -/

/-- A decoder takes a value from what the text of another is read as. -/
structure Decoder.Reads {α : Type} (d : Decoder α) (v : Value) (a : α) : Prop where
  rereads : v.Rereads
  decode : ∀ mode, d mode v.source = .ok a

namespace Decoder

variable {α β : Type} {d : Decoder α} {v : Value} {a : α}

lemma reads_string (s : String) : string.Reads (.string s) s := ⟨.string s, fun _ => rfl⟩

lemma reads_bool (b : Bool) : bool.Reads (.bool b) b := ⟨.bool b, fun _ => rfl⟩

lemma reads_below {n bound : ℕ} (hn : n < bound) (hbound : bound ≤ Nat.pow 2 64) :
    (below bound).Reads (.nat n) n := by
  have hread := Number.ofText_whole (hn.trans_le hbound)
  refine ⟨.number ⟨_, hread⟩, fun mode => ?_⟩
  rw [Value.nat, Value.source, hread]
  simp [below, hn]

lemma reads_map (f : α → β) (h : d.Reads v a) : (d.map f).Reads v (f a) := by
  refine ⟨h.rereads, fun mode => ?_⟩
  rw [map, h.decode mode]
  rfl

lemma reads_refine {f : α → Except Fault β} {b : β} (h : d.Reads v a) (hf : f a = .ok b) :
    (d.refine f).Reads v b := by
  refine ⟨h.rereads, fun mode => ?_⟩
  rw [refine, h.decode mode]
  exact hf

lemma reads_option (h : d.Reads v a) (hv : v ≠ .null) : d.option.Reads v (some a) := by
  refine ⟨h.rereads, fun mode => ?_⟩
  have hne := h.rereads.source_ne_null hv
  have hdecode := h.decode mode
  generalize v.source = s at hne hdecode
  unfold option
  split
  · exact absurd rfl hne
  · rw [hdecode]
    rfl

/-- A word is read back if it is one of those that are looked for. -/
lemma reads_oneOf {words : List (String × α)} {other : Option α} {w : String}
    (h : words.lookup w = some a) : (oneOf words other).Reads (.string w) a := by
  refine ⟨.string w, fun mode => ?_⟩
  rw [Value.source]
  cases mode <;> simp [oneOf, h]

lemma reads_list {f : β → Value} {g : β → α} {bs : List β} (h : ∀ b ∈ bs, d.Reads (f b) (g b)) :
    d.list.Reads (.array (bs.map f)) (bs.map g) := by
  have hrereads : ∀ v ∈ bs.map f, v.Rereads := List.forall_mem_map.2 fun b hb => (h b hb).rereads
  refine ⟨.array hrereads, fun mode => ?_⟩
  have hitems : items d mode (itemSources (bs.map f)) = .ok (bs.map g) := by
    clear hrereads
    induction bs with
    | nil => rfl
    | cons b bs ih =>
      have hb := (h b List.mem_cons_self).decode mode
      have hbs := ih fun c hc => h c (List.mem_cons_of_mem _ hc)
      rw [List.map_cons, itemSources, items, hb, hbs]
      rfl
  rw [Value.source, list, enter_eq_ok, hitems]
  rfl

end Decoder

/-! ### Written fields -/

/-- The fields of a record that are there, as their texts are read. -/
def sourcesOf (fields : List (String × Option Value)) : List (Option String × Source) :=
  fields.filterMap fun f => f.2.map fun v => (some f.1, v.source)

lemma ofFields_eq (fields : List (String × Option Value)) :
    Value.ofFields fields = .object (fields.filterMap fun f => f.2.map fun v => (f.1, v)) := rfl

lemma source_ofFields (fields : List (String × Option Value)) :
    (Value.ofFields fields).source = .object false (sourcesOf fields) := by
  rw [ofFields_eq, Value.source, fieldSources_eq, List.map_filterMap, sourcesOf]
  congr 1
  refine List.filterMap_congr fun f _ => ?_
  rw [Option.map_map]
  rfl

lemma rereads_ofFields {fields : List (String × Option Value)} :
    (Value.ofFields fields).Rereads ↔ ∀ f ∈ fields, ∀ v ∈ f.2, v.Rereads := by
  constructor
  · intro h f hf v hv
    rw [ofFields_eq] at h
    cases h with
    | object hfields =>
      exact hfields (f.1, v) (List.mem_filterMap.2 ⟨f, hf, by rw [Option.mem_def.1 hv]; rfl⟩)
  · intro h
    rw [ofFields_eq]
    refine .object fun g hg => ?_
    obtain ⟨f, hf, hfg⟩ := List.mem_filterMap.1 hg
    obtain ⟨v, hv, rfl⟩ := Option.map_eq_some_iff.1 hfg
    exact h f hf v hv

lemma nesting_lt_ofFields {fields : List (String × Option Value)} {name : String} {v : Value}
    (h : (name, some v) ∈ fields) : v.nesting < (Value.ofFields fields).nesting := by
  have hmem : (name, v) ∈ fields.filterMap fun f => f.2.map fun v => (f.1, v) :=
    List.mem_filterMap.2 ⟨(name, some v), h, rfl⟩
  have hle : v.nesting ≤ fieldsNesting _ := nesting_le_fields hmem
  rw [ofFields_eq, Value.nesting]
  omega

/-- Names that stand at one place only. -/
def Distinct (fields : List (String × Option Value)) : Prop := (fields.map Prod.fst).Nodup

instance : DecidablePred Distinct := fun fields =>
  inferInstanceAs (Decidable (fields.map Prod.fst).Nodup)

section

variable {fields : List (String × Option Value)} {name : String}

lemma Distinct.lookup_of_mem (h : Distinct fields) {o : Option Value} (hf : (name, o) ∈ fields) :
    fields.lookup name = some o := by
  obtain ⟨front, back, rfl⟩ := List.append_of_mem hf
  rw [Distinct, List.map_append, List.nodup_append'] at h
  refine List.lookup_eq_some_iff.2 ⟨front, back, rfl, fun g hg => ?_⟩
  have hne : name ≠ g.1 := fun heq =>
    h.2.2 (List.mem_map_of_mem hg) (by rw [heq]; exact List.mem_cons_self)
  simpa using hne

lemma filter_number_of_notMem (h : name ∉ fields.map Prod.fst) (n : ℕ) :
    (number n (sourcesOf fields)).filter (·.name == some name) = [] := by
  induction fields generalizing n with
  | nil => rfl
  | cons f fs ih =>
    rw [List.map_cons, List.mem_cons, not_or] at h
    obtain ⟨k, o⟩ := f
    cases o with
    | none => exact ih h.2 n
    | some v =>
      have hk : ((some k == some name) : Bool) = false := by simpa using Ne.symm h.1
      rw [sourcesOf, List.filterMap_cons, Option.map_some, ← sourcesOf, number, List.filter_cons]
      simp only [hk, ih h.2 (n + 1), Bool.false_eq_true, if_false]

/-- A field is found under its name. -/
lemma filter_number_of_lookup (hdistinct : Distinct fields) {o : Option Value}
    (h : fields.lookup name = some o) (n : ℕ) :
    ∃ place, (number n (sourcesOf fields)).filter (·.name == some name) =
      (o.map fun v => ⟨place, some name, v.source⟩).toList := by
  induction fields generalizing n with
  | nil => simp at h
  | cons f fs ih =>
    obtain ⟨k, o'⟩ := f
    rw [Distinct, List.map_cons, List.nodup_cons] at hdistinct
    rw [List.lookup_cons] at h
    by_cases hk : name = k
    · subst hk
      rw [beq_self_eq_true] at h
      obtain rfl : o' = o := Option.some.inj h
      refine ⟨n, ?_⟩
      cases o' with
      | none => exact filter_number_of_notMem hdistinct.1 n
      | some v =>
        rw [sourcesOf, List.filterMap_cons, Option.map_some, ← sourcesOf, number,
          List.filter_cons_of_pos (by simp), filter_number_of_notMem hdistinct.1]
        rfl
    · have hne : (name == k) = false := by simpa using hk
      have hne' : ((some k == some name) : Bool) = false := by simpa using Ne.symm hk
      rw [hne] at h
      cases o' with
      | none => exact ih hdistinct.2 h n
      | some v =>
        obtain ⟨place, hplace⟩ := ih hdistinct.2 h (n + 1)
        refine ⟨place, ?_⟩
        rw [sourcesOf, List.filterMap_cons, Option.map_some, ← sourcesOf, number, List.filter_cons]
        simp only [hne', hplace, Bool.false_eq_true, if_false]

end

/-! ### Records -/

/-- A record takes a value from written fields. -/
structure Record.Reads {α : Type} (r : Record α) (fields : List (String × Option Value)) (a : α) :
    Prop where
  rereads : ∀ name ∈ r.names, ∀ v, fields.lookup name = some (some v) → v.Rereads
  fromObject : Distinct fields → ∀ mode size n,
    r.fromObject mode size (number n (sourcesOf fields)) = .ok a

namespace Record

variable {α β : Type} {fields : List (String × Option Value)} {name : String}

lemma Reads.part {d : Decoder α} {default_ : Option α} {o : Option Value} {a : α}
    (h : fields.lookup name = some o) (hread : ∀ v ∈ o, d.Reads v a)
    (hnone : o = none → default_ = some a) : (part name d default_).Reads fields a := by
  constructor
  · intro k hk v hv
    obtain rfl : k = name := by simpa [Record.part] using hk
    rw [h] at hv
    exact (hread v (Option.some.inj hv)).rereads
  · intro hdistinct mode size n
    obtain ⟨place, hplace⟩ := filter_number_of_lookup hdistinct h n
    rw [Record.part]
    simp only [hplace]
    cases o with
    | none =>
      rw [hnone rfl]
      rfl
    | some v =>
      have hdecode := (hread v rfl).decode mode
      simp only [Option.map_some, Option.toList_some, hdecode]
      rfl

/-- A part that is always written. -/
lemma Reads.written {d : Decoder α} {default_ : Option α} {v : Value} {a : α}
    (h : fields.lookup name = some (some v)) (hread : d.Reads v a) :
    (Record.part name d default_).Reads fields a :=
  .part h (fun w hw => Option.some.inj hw ▸ hread) (by simp)

/-- A part that is left out when it is its default. -/
lemma Reads.unlessDefault {d : Decoder α} {default_ : α} {o : Option Value} {a : α}
    (h : fields.lookup name = some o) (hread : ∀ v ∈ o, d.Reads v a)
    (hnone : o = none → a = default_) : (optional name d default_).Reads fields a :=
  .part h hread fun ho => by rw [hnone ho]

/-- A part that is left out when it is missing, and is read as something else. -/
lemma Reads.ifAnyAs {d : Decoder α} {f : β → Value} {g : β → α} {o : Option β}
    (h : fields.lookup name = some (o.map f)) (hread : ∀ b ∈ o, d.Reads (f b) (g b))
    (hnull : ∀ b, f b ≠ .null) : (maybe name d).Reads fields (o.map g) := by
  refine .part h (fun v hv => ?_) fun ho => ?_
  · obtain ⟨b, hb, rfl⟩ := Option.map_eq_some_iff.1 hv
    rw [hb]
    exact Decoder.reads_option (hread b hb) (hnull b)
  · rw [Option.map_eq_none_iff.1 ho]
    rfl

/-- A part that is left out when it is missing. -/
lemma Reads.ifAny {d : Decoder α} {f : α → Value} {o : Option α}
    (h : fields.lookup name = some (o.map f)) (hread : ∀ a ∈ o, d.Reads (f a) a)
    (hnull : ∀ a, f a ≠ .null) : (maybe name d).Reads fields o := by
  have hmap := Reads.ifAnyAs (g := fun a => a) h hread hnull
  rwa [Option.map_id'] at hmap

lemma Reads.map (f : α → β) {r : Record α} {a : α} (h : r.Reads fields a) :
    (f <$> r).Reads fields (f a) := by
  refine ⟨h.rereads, fun hdistinct mode size n => ?_⟩
  show (r.fromObject mode size (number n (sourcesOf fields))).map f = _
  rw [h.fromObject hdistinct mode size n]
  rfl

lemma Reads.seq {r : Record (α → β)} {q : Record α} {f : α → β} {a : α} (hr : r.Reads fields f)
    (hq : q.Reads fields a) : (r <*> q).Reads fields (f a) := by
  constructor
  · intro k hk v hv
    rcases List.mem_append.1 hk with hk | hk
    · exact hr.rereads k hk v hv
    · exact hq.rereads k hk v hv
  · intro hdistinct mode size n
    show ((r.fromObject mode size (number n (sourcesOf fields))).both
      (q.fromObject mode size (number n (sourcesOf fields)))).map _ = _
    rw [hr.fromObject hdistinct mode size n, hq.fromObject hdistinct mode size n]
    rfl

end Record

/-! ### Fields that a record does not name -/

section

variable {fields : List (String × Option Value)}

lemma mem_number {e : Entry} {n : ℕ} (h : e ∈ number n (sourcesOf fields)) :
    ∃ f ∈ fields, ∃ v ∈ f.2, e.name = some f.1 ∧ e.source = v.source := by
  induction fields generalizing n with
  | nil => exact absurd h List.not_mem_nil
  | cons f fs ih =>
    obtain ⟨k, o⟩ := f
    have htail {m : ℕ} (h : e ∈ number m (sourcesOf fs)) := ih h
    cases o with
    | none =>
      obtain ⟨f, hf, hrest⟩ := ih h
      exact ⟨f, List.mem_cons_of_mem _ hf, hrest⟩
    | some v =>
      rw [sourcesOf, List.filterMap_cons, Option.map_some, ← sourcesOf, number] at h
      rcases List.mem_cons.1 h with rfl | h
      · exact ⟨_, List.mem_cons_self, v, rfl, rfl, rfl⟩
      · obtain ⟨f, hf, hrest⟩ := ih h
        exact ⟨f, List.mem_cons_of_mem _ hf, hrest⟩

/-- Among written fields none is at fault. -/
lemma othersFault_eq_ok (hfields : ∀ f ∈ fields, ∀ v ∈ f.2, v.Rereads) (names : List String)
    (mode : Mode) (keep : Bool) (n : ℕ) :
    othersFault names mode keep (number n (sourcesOf fields)) = .ok () := by
  unfold othersFault
  simp only
  split
  · next e he =>
    have hfaulty := List.find?_some he
    obtain ⟨f, hf, v, hv, hname, hsource⟩ := mem_number (List.mem_of_find?_eq_some he)
    have hwhole := (hfields f hf v hv).whole
    simp only [hname, hsource, hwhole.1, hwhole.2] at hfaulty
    simp at hfaulty
  · rfl

lemma ofFields_eq_ok {α : Type} {r : Record α} {a : α}
    (hfields : ∀ f ∈ fields, ∀ v ∈ f.2, v.Rereads) (hr : r.Reads fields a)
    (hdistinct : Distinct fields) (mode : Mode) (keep : Bool) :
    r.ofFields mode keep (number 0 (sourcesOf fields)) = .ok a := by
  rw [Record.ofFields, othersFault_eq_ok hfields, hr.fromObject hdistinct]
  rfl

/-- The fields of a record are read back if its parts are. -/
lemma Record.Reads.fields_reread {α : Type} {r : Record α} {a : α} (hr : r.Reads fields a)
    (hnames : ∀ f ∈ fields, f.1 ∈ r.names) (hdistinct : Distinct fields) :
    ∀ f ∈ fields, ∀ v ∈ f.2, v.Rereads := by
  intro f hf v hv
  refine hr.rereads f.1 (hnames f hf) v ?_
  obtain ⟨k, o⟩ := f
  rw [← Option.mem_def.1 hv]
  exact hdistinct.lookup_of_mem hf

/-- Written fields without those of some names. -/
lemma map_filter_number {p : Entry → Bool} {names : List String}
    (hp : ∀ place k s, p ⟨place, some k, s⟩ = !names.contains k) (n : ℕ) :
    (((number n (sourcesOf fields)).filter p).map fun e => (e.name, e.source)) =
      sourcesOf (fields.filter fun f => !names.contains f.1) := by
  induction fields generalizing n with
  | nil => rfl
  | cons f fs ih =>
    obtain ⟨k, o⟩ := f
    have hcons (fs : List (String × Option Value)) (v : Value) :
        sourcesOf ((k, some v) :: fs) = (some k, v.source) :: sourcesOf fs := rfl
    have hskip (fs : List (String × Option Value)) : sourcesOf ((k, none) :: fs) = sourcesOf fs := rfl
    cases o with
    | none =>
      rw [hskip, ih n, List.filter_cons]
      split
      · rw [hskip]
      · rfl
    | some v =>
      rw [hcons, number, List.filter_cons, List.filter_cons, hp]
      by_cases hk : names.contains k = true
      · simp only [hk, Bool.not_true, Bool.false_eq_true, if_false]
        exact ih (n + 1)
      · simp only [Bool.not_eq_true] at hk
        simp only [hk, Bool.not_false, if_true, List.map_cons, hcons, ih (n + 1)]

end

/-! ### Decoders of objects -/

namespace Decoder

variable {α β : Type} {fields : List (String × Option Value)} {a : α}

/-- A record is read back from its fields. -/
lemma reads_record {r : Record α} {b : α} (hnames : fields.map Prod.fst = r.names)
    (hdistinct : r.names.Nodup) (hr : r.Reads fields b) (hb : b = a) :
    (record r).Reads (.ofFields fields) a := by
  subst hb
  rw [← hnames] at hdistinct
  have hfields := hr.fields_reread
    (fun f hf => by rw [← hnames]; exact List.mem_map_of_mem hf) hdistinct
  refine ⟨rereads_ofFields.2 hfields, fun mode => ?_⟩
  rw [source_ofFields, record, enter_eq_ok]
  exact ofFields_eq_ok hfields hr hdistinct mode false

lemma reads_tagOf {words : List (String × α)} {w : String} (hw : words.lookup w = some a) :
    (tagOf words).Reads (.string w) a := by
  refine ⟨.string w, fun mode => ?_⟩
  rw [Value.source, tagOf, hw]

section

variable {tag : String} {words : List (String × Decoder α)} {w : String} {d : Decoder α}

lemma filter_tag (htag : tag ∉ fields.map Prod.fst) :
    (sourcesOf ((tag, some (.string w)) :: fields)).filter (·.1 == some tag) =
        [(some tag, .string w)] ∧
      (sourcesOf ((tag, some (.string w)) :: fields)).filter (·.1 != some tag) =
        sourcesOf fields := by
  have hother : ∀ g ∈ sourcesOf fields, g.1 ≠ some tag := by
    intro g hg heq
    obtain ⟨f, hf, hfg⟩ := List.mem_filterMap.1 hg
    obtain ⟨v, -, rfl⟩ := Option.map_eq_some_iff.1 hfg
    exact htag (Option.some.inj heq ▸ List.mem_map_of_mem hf)
  have hcons : sourcesOf ((tag, some (.string w)) :: fields) =
      (some tag, .string w) :: sourcesOf fields := rfl
  rw [hcons]
  constructor
  · rw [List.filter_cons_of_pos (by simp), List.filter_eq_nil_iff.2 (by simpa using hother)]
  · rw [List.filter_cons_of_neg (by simp), List.filter_eq_self.2 (by simpa using hother)]

/-- The fields behind a tag are read by the decoder of its word. -/
lemma taggedFields_eq_ok (hw : words.lookup w = some d) (htag : tag ∉ fields.map Prod.fst)
    (hd : d.Reads (.ofFields fields) a) :
    taggedFields tag words (sourcesOf ((tag, some (.string w)) :: fields)) = .ok a := by
  obtain ⟨hfilter, hrest⟩ := filter_tag (w := w) htag
  have hdecode := hd.decode .buffered
  rw [source_ofFields] at hdecode
  rw [taggedFields, hfilter]
  simp only [hrest]
  rw [tagOf, hw]
  exact hdecode

lemma reads_tagged (hw : words.lookup w = some d) (hdistinct : (tag :: fields.map Prod.fst).Nodup)
    (hd : d.Reads (.ofFields fields) a) :
    (tagged tag words).Reads (.ofFields ((tag, some (.string w)) :: fields)) a := by
  have htag : tag ∉ fields.map Prod.fst := (List.nodup_cons.1 hdistinct).1
  have hfields : ∀ f ∈ (tag, some (.string w)) :: fields, ∀ v ∈ f.2, Value.Rereads v := by
    refine List.forall_mem_cons.2 ⟨fun v hv => ?_, rereads_ofFields.1 hd.rereads⟩
    rw [← Option.some.inj hv]
    exact .string w
  refine ⟨rereads_ofFields.2 hfields, fun mode => ?_⟩
  rw [source_ofFields]
  cases mode with
  | buffered => exact taggedFields_eq_ok hw htag hd
  | streamed =>
    have hfirst : (Record.required tag (tagOf words)).Reads
        ((tag, some (.string w)) :: fields) d :=
      .written List.lookup_cons_self (reads_tagOf hw)
    have hdecode := hd.decode .buffered
    rw [source_ofFields] at hdecode
    simp only [tagged, enter_eq_ok, ofFields_eq_ok hfields hfirst hdistinct, (filter_tag htag).2]
    exact hdecode

/-- An object with fields of its own before others is read back if the others are. -/
lemma reads_flattened {r : Record α} {rest : List (Option String × Source) → Except Fault β}
    {own others : List (String × Option Value)} {b : β} (hown : own.map Prod.fst = r.names)
    (hdistinct : Distinct (own ++ others)) (hr : r.Reads (own ++ others) a)
    (hothers : (Value.ofFields others).Rereads) (hrest : rest (sourcesOf others) = .ok b) :
    (flattened r rest).Reads (.ofFields (own ++ others)) (a, b) := by
  have hapart : ∀ f ∈ others, f.1 ∉ r.names := by
    rw [Distinct, List.map_append, List.nodup_append'] at hdistinct
    intro f hf hmem
    rw [← hown] at hmem
    exact hdistinct.2.2 hmem (List.mem_map_of_mem hf)
  have hfields : ∀ f ∈ own ++ others, ∀ v ∈ f.2, Value.Rereads v := by
    intro f hf v hv
    rcases List.mem_append.1 hf with hmem | hmem
    · refine hr.rereads f.1 (by rw [← hown]; exact List.mem_map_of_mem hmem) v ?_
      rw [← Option.mem_def.1 hv]
      exact hdistinct.lookup_of_mem hf
    · exact rereads_ofFields.1 hothers f hmem v hv
  have hfilter : (own ++ others).filter (fun f => !r.names.contains f.1) = others := by
    rw [List.filter_append, List.filter_eq_nil_iff.2, List.filter_eq_self.2, List.nil_append]
    · intro f hf
      simpa using hapart f hf
    · intro f hf
      have hmem : f.1 ∈ r.names := by
        rw [← hown]
        exact List.mem_map_of_mem hf
      simpa using hmem
  refine ⟨rereads_ofFields.2 hfields, fun mode => ?_⟩
  simp only [source_ofFields, flattened, enter_eq_ok, ofFields_eq_ok hfields hr hdistinct]
  show (rest _).map _ = _
  rw [map_filter_number fun _ _ _ => rfl, hfilter, hrest]
  rfl

end

end Decoder

end Json

/-- What a decoder reads is read from the whole text. -/
lemma Json.Decoder.Reads.ofText {α : Type} {d : Json.Decoder α} {v : Json.Value} {a : α}
    (h : d.Reads v a) (hnesting : v.nesting ≤ Json.depthLimit) : d.ofText v.pretty = .ok a := by
  rw [Json.Decoder.ofText, Json.ofText_pretty h.rereads hnesting]
  show (do let a ← d .streamed v.source; if true then .ok a else .error .malformed) = _
  rw [h.decode]
  rfl

/-! ### Tables -/

namespace Json.Decoder

variable {α : Type} {d : Decoder α}

lemma reads_table {f : α → Value} {t : Table α} (h : ∀ e ∈ t.entries, d.Reads (f e.2) e.2) :
    (table d).Reads (.object (t.entries.map fun e => (e.1, f e.2))) t := by
  have hrereads : ∀ e ∈ t.entries.map fun e => (e.1, f e.2), e.2.Rereads :=
    List.forall_mem_map.2 fun e he => (h e he).rereads
  refine ⟨.object hrereads, fun mode => ?_⟩
  have hentries : ∀ es : List (String × α), (∀ e ∈ es, d.Reads (f e.2) e.2) →
      entries d mode (fieldSources (es.map fun e => (e.1, f e.2))) = .ok es := by
    intro es
    induction es with
    | nil => exact fun _ => rfl
    | cons e es ih =>
      intro h
      have he := (h e List.mem_cons_self).decode mode
      rw [List.map_cons, fieldSources, entries, he, ih fun e' he' => h e' (List.mem_cons_of_mem _ he')]
      rfl
  rw [Value.source, table, enter_eq_ok, hentries t.entries h]
  exact congrArg Except.ok (Table.ofList_entries t)

end Json.Decoder

end VisualTemplate
