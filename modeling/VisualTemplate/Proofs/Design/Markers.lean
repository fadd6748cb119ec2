import VisualTemplate.Proofs.Design.Visibility
import VisualTemplate.Proofs.Path.Spelling
/-!
Markers of layers, and the nodes that they bind.

A text is bound by the marker of its own layer, or else by that of the group that it is alone in; an
image by that of its layer; a clipped group by its own marker, or else by that of its image, or else
by that of its shape. So the fields of a flat schema stand in it in the order of the markers, each
taken from one marker. But a group with an image of its own hands its marker down to a lone text as
well, although the image has taken it: then, and only then, one marker binds two nodes.
-/

namespace VisualTemplate.Design

/-! ### What a marker names -/

lemma isIdentifier_of_markerAt? {cs : List Char} {field : String} (h : markerAt? cs = some field) :
    FieldPath.IsIdentifier field.toList := by
  obtain ⟨rest, -, h⟩ := Option.bind_eq_some_iff.1 h
  split at h
  · cases h
  · next c rest _ =>
    rw [List.span_eq_takeWhile_dropWhile] at h
    obtain ⟨-, -, h⟩ := Option.bind_eq_some_iff.1 h
    split at h
    · next hstart =>
      rw [← Option.some.inj h, String.toList_ofList]
      refine ⟨c, _, rfl, by simpa [isMarkerStart] using hstart, fun x hx => ?_⟩
      have hmarker := List.mem_takeWhile_imp hx
      simp only [isMarkerChar, Bool.or_eq_true, beq_iff_eq] at hmarker
      exact hmarker.imp_right .inl
    · cases h

lemma isIdentifier_of_marker? {cs : List Char} {field : String} (h : marker? cs = some field) :
    FieldPath.IsIdentifier field.toList := by
  induction cs with
  | nil => cases h
  | cons c cs ih =>
    rcases Option.or_eq_some_iff.1 h with h | ⟨-, h⟩
    · exact isIdentifier_of_markerAt? h
    · exact ih h

namespace Layer

/-! ### What binds a node -/

/-- The field of the node that a place leaves. -/
def boundField? (x : Emission) : Option String :=
  match x.2 with
  | .text => x.1.1.field?.or (handed x.1.2)
  | .image => x.1.1.field?
  | .clipped => x.1.1.field?.or
      ((maskedPair? role x.1.1.children).bind fun pair => pair.2.field?.or pair.1.field?)
  | .fill | .shape => none

/-- The row of the node that a place leaves. -/
def row? (x : Emission) : Option BindingEntry :=
  (boundField? x).map fun f => ⟨x.1.1.id, f, if x.2 = .text then .text else .image⟩

/-- The field that a place takes from a marker. -/
def taken? (p : Layer × List Layer) : Option String := (emission? p).bind boundField?

/-- The fields that the names of places mark. -/
def marked (ps : List (Layer × List Layer)) : List String := ps.filterMap (·.1.field?)

/-- A group below the root has an image of its own and a marker, and in it stands nothing but a text
without a marker. -/
def Doubles (p : Layer × List Layer) : Prop :=
  Reached p ∧ p.2 ≠ [] ∧ p.1.kind.isContainer = true ∧ p.1.HasImage ∧ p.1.field?.isSome = true ∧
    ∃ t ∈ p.1.children, p.1.children.length = 1 ∧ t.kind = .text ∧ t.field? = none

instance : DecidablePred Doubles := fun p =>
  inferInstanceAs (Decidable (Reached p ∧ p.2 ≠ [] ∧ p.1.kind.isContainer = true ∧ p.1.HasImage ∧
    p.1.field?.isSome = true ∧
      ∃ t ∈ p.1.children, p.1.children.length = 1 ∧ t.kind = .text ∧ t.field? = none))

end Layer

open Layer

/-! ### The index of bindings -/

lemma rowsIn_append (ns ms : List Node) :
    Node.rowsIn (ns ++ ms) = Node.rowsIn ns ++ Node.rowsIn ms := by
  induction ns with
  | nil => rfl
  | cons n ns ih => rw [List.cons_append, Node.rowsIn, Node.rowsIn, ih, List.append_assoc]

namespace Surroundings

variable {s : Surroundings}

lemma rows_place {x : Emission} {visible : Bool} {leaf : Leaf}
    (h : leaf.binding = (boundField? x).map fun f =>
      ⟨f, if x.2 = .text then .text else .image, none⟩) :
    Node.rowsIn [s.place x.1.1 visible leaf] = [x].filterMap row? := by
  rw [Node.rowsIn, Node.rowsIn, List.append_nil, place, Node.rows, Node.row?, h]
  cases hx : boundField? x <;> simp [row?, hx, Layer.id]

/-- What is left of a place has the row that the place tells. -/
lemma rows_of_leaves {p : Layer × List Layer} {k : Option Product} {f : Flat}
    (h : s.Leaves p k f) : Node.rowsIn f.nodes = (k.map (p, ·)).toList.filterMap row? := by
  cases h with
  | nothing => rfl
  | text => exact rows_place (x := (p, .text)) (by rfl)
  | clipped hpair =>
    refine rows_place (x := (p, .clipped)) ?_
    rw [boundField?, hpair]
    rfl
  | image _ => exact rows_place (x := (p, .image)) (by rfl)
  | fill _ => exact rows_place (x := (p, .fill)) (by rfl)
  | shape => exact rows_place (x := (p, .shape)) (by rfl)

end Surroundings

/-- The index of all nodes of an export has the rows of the places, in pre-order. -/
lemma rows_flatten (tokens : Tokens) (assets : Assets) (e : Export) (root : Layer) :
    Node.rowsIn (flatten tokens assets e root).nodes = root.emissions.filterMap row? :=
  flatten_induction (motive := fun xs f => Node.rowsIn f.nodes = xs.filterMap row?) rfl
    (fun xs ys f g hf hg => by rw [Flat.append, rowsIn_append, hf, hg, List.filterMap_append])
    fun _ _ _ h => Surroundings.rows_of_leaves h

/-! ### Markers that bind two nodes -/

namespace Layer

lemma taken?_of_not_reached {p : Layer × List Layer} (h : ¬ Reached p) : taken? p = none := by
  rw [taken?, emission?, if_neg h]
  rfl

lemma taken?_of_reached {p : Layer × List Layer} (h : Reached p) :
    taken? p = (p.1.product? p.2.isEmpty).bind fun k => boundField? (p, k) := by
  rw [taken?, emission?, if_pos h]
  cases p.1.product? p.2.isEmpty <;> rfl

/-- Below a layer that is not walked into no marker is taken. -/
lemma taken_closed {above : List Layer} (h : ∃ m ∈ above.dropLast, ¬ m.Opens) (ls : List Layer) :
    (placesIn above ls).filterMap taken? = [] :=
  List.filterMap_eq_nil_iff.2 fun _ hp => taken?_of_not_reached (not_reached_of_closed h hp)

lemma mem_marked_self {p : Layer × List Layer} {f : String} (h : p.1.field? = some f) :
    f ∈ marked (p.1.places p.2) := by
  obtain ⟨⟨o, cs⟩, above⟩ := p
  exact List.mem_filterMap.2 ⟨_, List.mem_cons_self, h⟩

lemma mem_marked_child {p : Layer × List Layer} {c : Layer} {f : String} (hc : c ∈ p.1.children)
    (h : c.field? = some f) : f ∈ marked (p.1.places p.2) := by
  obtain ⟨⟨o, cs⟩, above⟩ := p
  exact List.mem_filterMap.2 ⟨_, List.mem_cons_of_mem _ (child_mem_placesIn hc), h⟩

/-- What a place takes is marked there or on one of its children, if nothing is handed down. -/
lemma mem_marked_of_taken {p : Layer × List Layer} (hhanded : handed p.2 = none) {f : String}
    (h : taken? p = some f) : f ∈ marked (p.1.places p.2) := by
  obtain ⟨⟨q, k⟩, hk, h⟩ := Option.bind_eq_some_iff.1 h
  unfold emission? at hk
  split at hk
  · obtain ⟨k', -, hk⟩ := Option.map_eq_some_iff.1 hk
    cases hk
    cases k with
    | text =>
      rw [boundField?, hhanded, Option.or_none] at h
      exact mem_marked_self h
    | image => exact mem_marked_self h
    | clipped =>
      rcases Option.or_eq_some_iff.1 h with h | ⟨-, h⟩
      · exact mem_marked_self h
      · obtain ⟨⟨shape, image⟩, hpair, h⟩ := Option.bind_eq_some_iff.1 h
        have hchildren := (children_of_maskedPair? hpair).1
        rcases Option.or_eq_some_iff.1 h with h | ⟨-, h⟩
        · exact mem_marked_child (by rcases hchildren with hcs | hcs <;> simp [hcs]) h
        · exact mem_marked_child (by rcases hchildren with hcs | hcs <;> simp [hcs]) h
    | fill => cases h
    | shape => cases h
  · cases hk

/-- A group that is walked into takes its marker for an image of its own. -/
lemma taken?_of_opens {p : Layer × List Layer} (hreached : Reached p)
    (h : p.2.isEmpty = true ∨ p.1.Opens) :
    taken? p = if p.1.HasImage then p.1.field? else none := by
  rw [taken?_of_reached hreached, product?, if_pos h]
  split
  · rfl
  · split <;> rfl

/-- A text takes its marker, or else the one that it is handed. -/
lemma taken?_of_text {p : Layer × List Layer} (hreached : Reached p) (hroot : p.2 ≠ [])
    (h : p.1.kind = .text) : taken? p = p.1.field?.or (handed p.2) := by
  have hclosed : ¬ (p.2.isEmpty = true ∨ p.1.Opens) := by
    rw [List.isEmpty_iff]
    exact not_or.2 ⟨hroot, fun hopens => by simp [Opens, h, Kind.isContainer] at hopens⟩
  rw [taken?_of_reached hreached, product?, if_neg hclosed, if_pos h]
  rfl

/-- What is taken below a group that hosts a lone text. -/
lemma taken_lone {p : Layer × List Layer} (hreached : Reached p) (hroot : p.2 ≠ [])
    (hopens : p.1.Opens) {t : Layer} (htext : t.kind = .text) :
    (placesIn (p.1 :: p.2) [t]).filterMap taken? = (t.field?.or (handed (p.1 :: p.2))).toList := by
  obtain ⟨o, cs⟩ := t
  have hclosed : ∃ m ∈ (Layer.mk o cs :: p.1 :: p.2).dropLast, ¬ m.Opens := by
    refine ⟨.mk o cs, by simp, fun h => ?_⟩
    simp [Opens, htext, Kind.isContainer] at h
  rw [placesIn, placesIn, List.append_nil, places, filterMap_cons_toList, taken_closed hclosed,
    List.append_nil, taken?_of_text (reached_child hreached hroot hopens _) (by simp) htext]

mutual

lemma taken_sublist {above : List Layer} (hhanded : handed above = none) (l : Layer)
    (hsingle : ∀ p ∈ l.places above, ¬ Doubles p) :
    ((l.places above).filterMap taken?).Sublist (marked (l.places above)) := by
  match l with
  | .mk o cs =>
    rw [places, List.forall_mem_cons] at hsingle
    by_cases hwalked : Reached (.mk o cs, above) ∧ (above.isEmpty = true ∨ (Layer.mk o cs).Opens)
    · obtain ⟨hreached, hopens⟩ := hwalked
      rw [places, marked, filterMap_cons_toList, filterMap_cons_toList,
        taken?_of_opens hreached hopens]
      cases hlone : handed (.mk o cs :: above) with
      | none =>
        refine List.Sublist.append ?_ (taken_sublistIn hlone cs hsingle.2)
        split
        · exact .refl _
        · exact List.nil_sublist _
      | some f =>
        -- a lone text takes its own marker, or that of the group, which then has no image
        obtain ⟨group, m, rest, t, habove, hchildren, htext, hf⟩ := handed_eq_some hlone
        obtain ⟨rfl, rfl⟩ := List.cons.inj habove
        obtain rfl : cs = [t] := hchildren
        have hopens' : (Layer.mk o [t]).Opens := hopens.resolve_left (by simp)
        have hlayer : Layer.field? (Layer.mk o [t]) = some f := hf
        rw [taken_lone hreached (List.cons_ne_nil _ _) hopens' htext, hlone, hlayer]
        cases ht : t.field? with
        | none =>
          have himage : ¬ (Layer.mk o [t]).HasImage := fun himage => hsingle.1 ⟨hreached,
            List.cons_ne_nil _ _, hopens'.1, himage, by rw [hlayer]; rfl, t, by simp [children],
            rfl, htext, ht⟩
          rw [if_neg himage]
          exact List.sublist_append_left [f] _
        | some g =>
          refine List.Sublist.append ?_ (List.singleton_sublist.2 ?_)
          · split
            · exact .refl _
            · exact List.nil_sublist _
          · exact List.mem_filterMap.2 ⟨_, child_mem_placesIn (List.mem_singleton_self t), ht⟩
    · have hclosed : ∃ m ∈ (Layer.mk o cs :: above).dropLast, ¬ m.Opens := by
        have hroot : above ≠ [] := by
          rintro rfl
          exact hwalked ⟨fun m hm => absurd hm List.not_mem_nil, .inl rfl⟩
        rw [List.dropLast_cons_of_ne_nil hroot]
        by_contra hall
        simp only [not_exists, not_and, not_not, List.forall_mem_cons] at hall
        exact hwalked ⟨hall.2, .inr hall.1⟩
      rw [places, filterMap_cons_toList, taken_closed hclosed, List.append_nil]
      cases htaken : taken? (.mk o cs, above) with
      | none => exact List.nil_sublist _
      | some f => exact List.singleton_sublist.2 (mem_marked_of_taken hhanded htaken)

/-- Where no marker is doubled, the fields that are taken stand among the markers in order. -/
lemma taken_sublistIn {above : List Layer} (hhanded : handed above = none) (ls : List Layer)
    (hsingle : ∀ p ∈ placesIn above ls, ¬ Doubles p) :
    ((placesIn above ls).filterMap taken?).Sublist (marked (placesIn above ls)) := by
  match ls with
  | [] => exact List.nil_sublist _
  | l :: ls =>
    rw [placesIn, List.forall_mem_append] at hsingle
    rw [placesIn, marked, List.filterMap_append, List.filterMap_append]
    exact (taken_sublist hhanded l hsingle.1).append (taken_sublistIn hhanded ls hsingle.2)

end

/-- A group that doubles its marker takes it for its image and again for the text in it. -/
lemma exists_taken_twice {root : Layer} {p : Layer × List Layer} (hp : p ∈ root.places [])
    (h : Doubles p) : ∃ f, [f, f].Sublist ((root.places []).filterMap taken?) := by
  obtain ⟨hreached, hroot, hcontainer, himage, hmarked, t, ht, hlone, htext, hunmarked⟩ := h
  obtain ⟨f, hf⟩ := Option.isSome_iff_exists.1 hmarked
  obtain ⟨⟨o, cs⟩, above⟩ := p
  obtain ⟨t', rfl⟩ : ∃ t', cs = [t'] := List.length_eq_one_iff.1 hlone
  obtain rfl : t = t' := List.mem_singleton.1 ht
  have hopens : (Layer.mk o [t]).Opens := by
    refine ⟨hcontainer, ?_⟩
    rintro ⟨shape, image, hpair | hpair, -⟩ <;> cases hpair
  have hhanded : handed (.mk o [t] :: above) = some f := by
    cases above with
    | nil => exact absurd rfl hroot
    | cons m rest => simpa [handed, Surroundings.handedDown, children, htext] using hf
  have htaken : ((Layer.mk o [t]).places above).filterMap taken? = [f, f] := by
    rw [places, filterMap_cons_toList, taken?_of_opens hreached (.inr hopens), if_pos himage, hf,
      taken_lone hreached hroot hopens htext, hunmarked, hhanded]
    rfl
  exact ⟨f, htaken ▸ (sublist_places hp).filterMap taken?⟩

end Layer

lemma Export.bindings_toImport {config : DesignConfig} {id : String} {e : Export} {i : Import}
    {root : Layer} (h : e.toImport config id = .ok i) (hroot : e.layers = [root]) :
    i.schema.bindings = root.emissions.filterMap row? := by
  obtain ⟨root', hlayers, htop⟩ := exists_top h
  obtain rfl : root = root' := (List.cons.inj (hroot.symm.trans hlayers)).1
  rw [Schema.bindings, Draft.bindings_eq_rows, ← Schema.top, htop, rows_flatten]

/-- **When a marker binds one node only.** The index of an imported design has a row for each place
that takes a marker, in pre-order. If the names of the layers mark different fields, then the rows
have different fields just when no group with an image of its own hands its marker down. -/
theorem Export.fields_nodup_iff {config : DesignConfig} {id : String} {e : Export} {i : Import}
    {root : Layer} (h : e.toImport config id = .ok i) (hroot : e.layers = [root])
    (hmarked : (marked (root.places [])).Nodup) :
    i.schema.bindings = root.emissions.filterMap row? ∧
      ((i.schema.bindings.map (·.field)).Nodup ↔ ∀ p ∈ root.places [], ¬ Doubles p) := by
  have hindex := bindings_toImport h hroot
  have hfields : i.schema.bindings.map (·.field) = (root.places []).filterMap taken? := by
    have hfield (x : Emission) : (row? x).map (·.field) = boundField? x := by
      rw [row?, Option.map_map]
      exact Option.map_id'
    rw [hindex, List.map_filterMap, emissions, List.filterMap_filterMap]
    simp only [hfield]
    rfl
  refine ⟨hindex, ?_⟩
  rw [hfields]
  constructor
  · intro hnodup p hp hdoubles
    obtain ⟨f, hf⟩ := exists_taken_twice hp hdoubles
    simpa using hf.nodup hnodup
  · exact fun hsingle => (taken_sublist rfl root hsingle).nodup hmarked

/-- A design with a captioned photo, a line for the venue and a clipped face. -/
def fair : Export where
  name := "Fair"
  width := 4
  height := 3
  layers := [.mk { id := "root", kind := .frame }
    [.mk { id := "badge", kind := .frame, name := "\x7b\x7bphoto\x7d\x7d", fills := [.image "a.png"] }
      [.mk { id := "caption", kind := .text, name := "\x7b\x7b caption \x7d\x7d" } []],
      .mk { id := "line", kind := .frame, name := "At \x7b\x7bvenue\x7d\x7d", fills := [.solid 1 1 1] }
        [.mk { id := "place", kind := .text } []],
      .mk { id := "team", kind := .group }
        [.mk { id := "face", kind := .rectangle, name := "\x7b\x7bface\x7d\x7d"
               fills := [.image "b.png"] } [],
          .mk { id := "hole", kind := .ellipse } []]]]

theorem Export.fields_nodup_fair : ∃ i, fair.toImport {} "fair" = .ok i ∧
    i.schema.bindings = [⟨"badge", "photo", .image⟩, ⟨"caption", "caption", .text⟩,
      ⟨"place", "venue", .text⟩, ⟨"team", "face", .image⟩] ∧
    (i.schema.bindings.map (·.field)).Nodup := by
  have hcheck : (fair.toImport {} "fair").toOption.any (fun _ => true) = true := by
    decide +kernel
  obtain ⟨i, hi, -⟩ := exists_ok_of_any hcheck
  obtain ⟨hindex, hiff⟩ := Export.fields_nodup_iff hi rfl (by decide +kernel)
  exact ⟨i, hi, hindex.trans (by decide +kernel), hiff.2 (by decide +kernel)⟩

/-- A design with a photo behind a text without a marker. -/
def badge : Export where
  name := "Badge"
  width := 4
  height := 3
  layers := [.mk { id := "root", kind := .frame }
    [.mk { id := "badge", kind := .frame, name := "\x7b\x7bphoto\x7d\x7d", fills := [.image "a.png"] }
      [.mk { id := "caption", kind := .text } []]]]

/-- The only marker of the design binds the photo and the text before it. -/
theorem Export.marker_binds_twice : ∃ i root, badge.toImport {} "badge" = .ok i ∧
    badge.layers = [root] ∧ (marked (root.places [])).Nodup ∧
    i.schema.bindings = [⟨"badge", "photo", .image⟩, ⟨"caption", "photo", .text⟩] ∧
    ¬ (i.schema.bindings.map (·.field)).Nodup := by
  have hcheck : (badge.toImport {} "badge").toOption.any (fun _ => true) = true := by
    decide +kernel
  obtain ⟨i, hi, -⟩ := exists_ok_of_any hcheck
  have hindex : i.schema.bindings =
      [⟨"badge", "photo", .image⟩, ⟨"caption", "photo", .text⟩] :=
    (bindings_toImport hi rfl).trans (by decide +kernel)
  refine ⟨i, _, hi, rfl, by decide +kernel, hindex, ?_⟩
  rw [hindex]
  decide

end VisualTemplate.Design
