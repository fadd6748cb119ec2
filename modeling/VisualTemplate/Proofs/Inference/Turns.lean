import VisualTemplate.Proofs.Inference.Session
import VisualTemplate.Proofs.Page.Growth
import VisualTemplate.Proofs.Page.Texts
/-!
Rules take turns.

Rules without open slots that match the same texts are given out one by one in the order of the
configuration, unless another text was given one of them before. The texts of a page are such a
document: each of its leaves is bound by one call, and the calls stand in pre-order.
-/

namespace VisualTemplate

open Inference

/-- The field that a text was bound to. -/
def Inference.Call.field? (call : Call) : Option String := call.binding.map (·.field)

namespace MarkupConfig

variable {c : MarkupConfig}

/-- The field of the rule at a place. -/
def fieldOf? (c : MarkupConfig) (i : ℕ) : Option String := c.replacements[i]?.map (·.field)

/-- The rules at some places have no open slot. -/
def AreConcrete (c : MarkupConfig) (places : List ℕ) : Prop :=
  ∀ i ∈ places, ∀ r ∈ c.replacements[i]?, r.isOpen = false

lemma isFree_of_concrete {places used : List ℕ} (h : c.AreConcrete places) {i : ℕ}
    (hi : i ∈ places) : c.IsFree used i ↔ i ∉ used := by
  refine or_iff_right ?_
  rintro ⟨r, hr, hopen⟩
  rw [h i hi r hr] at hopen
  cases hopen

section

variable [Engine]

/-- The texts that exactly the rules at some places match. -/
def sharing (c : MarkupConfig) (places : List ℕ) (calls : List Call) : List Call :=
  calls.filter fun call => c.matching (Text.trim call.text.toList) = places

lemma sharing_cons_of_eq {places : List ℕ} {call : Call} {calls : List Call}
    (h : c.matching (Text.trim call.text.toList) = places) :
    c.sharing places (call :: calls) = call :: c.sharing places calls :=
  List.filter_cons_of_pos (decide_eq_true h)

lemma sharing_cons_of_ne {places : List ℕ} {call : Call} {calls : List Call}
    (h : c.matching (Text.trim call.text.toList) ≠ places) :
    c.sharing places (call :: calls) = c.sharing places calls :=
  List.filter_cons_of_neg (by simpa using h)

lemma nodup_matching (cs : List Char) : (c.matching cs).Nodup :=
  (List.nodup_zipIdx_map_snd _).sublist (List.filter_sublist.map _)

open Classical in
/-- It is the turn of the first free rule, if there is one. -/
lemma Turn.eq_of_free {used : List ℕ} {cs : List Char} {i j : ℕ} {before after : List ℕ}
    (h : c.Turn used cs j) (hcut : c.matching cs = before ++ i :: after) (hi : c.IsFree used i)
    (hbefore : ∀ l ∈ before, ¬ c.IsFree used l) : j = i := by
  have hfind {l : ℕ} {front back : List ℕ} (hcut : c.matching cs = front ++ l :: back)
      (hl : c.IsFree used l) (hfront : ∀ l ∈ front, ¬ c.IsFree used l) :
      (c.matching cs).find? (fun l => c.IsFree used l) = some l := by
    rw [List.find?_eq_some_iff_append]
    exact ⟨decide_eq_true hl, front, back, hcut, fun l hl => by simpa using hfront l hl⟩
  cases h with
  | fresh hcut' hj hbefore' =>
    exact Option.some.inj ((hfind hcut' hj hbefore').symm.trans (hfind hcut hi hbefore))
  | again _ hnone => exact absurd hi (hnone i (by simp [hcut]))

lemma Turn.mem {used : List ℕ} {cs : List Char} {i : ℕ} (h : c.Turn used cs i) :
    i ∈ c.matching cs := by
  cases h with
  | fresh hcut => simp [hcut]
  | again hcut => simp [hcut]

end

end MarkupConfig

variable {c : MarkupConfig}

section

variable [Engine] {used : List ℕ}

/-- A text that some rule matches is given one of the rules that match it. -/
lemma Inference.Answers.exists_turn {call : Call} (h : Answers c used call)
    (hnil : c.matching [] = []) (hne : c.matching (Text.trim call.text.toList) ≠ []) :
    ∃ i, call.place = some i ∧ c.Turn used (Text.trim call.text.toList) i ∧
      call.field? = c.fieldOf? i := by
  cases h with
  | blank hblank => exact absurd (hblank ▸ hnil) hne
  | rule _ hturn hr hcut => exact ⟨_, rfl, hturn, by rw [MarkupConfig.fieldOf?, hr]; rfl⟩
  | heuristic _ hnone => exact absurd hnone hne
  | unbound _ hnone => exact absurd hnone hne

/-- A text is given no rule that does not match it. -/
lemma Inference.Session.place_mem {calls : List Call} (h : Session c used calls) :
    ∀ call ∈ calls, ∀ i ∈ call.place, i ∈ c.matching (Text.trim call.text.toList) := by
  induction h with
  | done => exact fun call hcall => absurd hcall List.not_mem_nil
  | next hanswer _ ih =>
    refine List.forall_mem_cons.2 ⟨fun i hi => ?_, ih⟩
    cases hanswer with
    | blank _ => cases hi
    | rule _ hturn _ _ => exact Option.some.inj hi ▸ hturn.mem
    | heuristic _ _ _ _ _ => cases hi
    | unbound _ _ _ => cases hi

/-- **A session.** Some rules are given in the order of the configuration to the texts that exactly
they match: those that were given before are no longer free, and the others follow one by one, as
long as no other text is given one of them. -/
lemma Inference.Session.fields {calls : List Call} (h : Session c used calls)
    (hnil : c.matching [] = []) {given rest : List ℕ} (hnodup : (given ++ rest).Nodup)
    (hconcrete : c.AreConcrete (given ++ rest))
    (hgiven : ∀ i ∈ given, i ∈ used) (hrest : ∀ i ∈ rest, i ∉ used)
    (hothers : ∀ call ∈ calls, c.matching (Text.trim call.text.toList) ≠ given ++ rest →
      ∀ i ∈ call.place, i ∉ given ++ rest) :
    ((c.sharing (given ++ rest) calls).map Call.field?).take rest.length =
      (rest.map c.fieldOf?).take (c.sharing (given ++ rest) calls).length := by
  induction h generalizing given rest with
  | done => simp [MarkupConfig.sharing]
  | @next used call calls hanswer _ ih =>
    rw [List.forall_mem_cons] at hothers
    by_cases hshared : c.matching (Text.trim call.text.toList) = given ++ rest
    · cases rest with
      | nil => simp
      | cons i rest =>
        have hne : c.matching (Text.trim call.text.toList) ≠ [] := by rw [hshared]; simp
        obtain ⟨j, hplace, hturn, hfield⟩ := hanswer.exists_turn hnil hne
        have hfree {l : ℕ} (hl : l ∈ given ++ i :: rest) : c.IsFree used l ↔ l ∉ used :=
          MarkupConfig.isFree_of_concrete hconcrete hl
        obtain rfl : j = i := hturn.eq_of_free hshared
          ((hfree (by simp)).2 (hrest i List.mem_cons_self))
          fun l hl => by
            rw [hfree (List.mem_append_left _ hl), not_not]
            exact hgiven l hl
        have hsplit : given ++ j :: rest = (given ++ [j]) ++ rest := by simp
        rw [MarkupConfig.sharing_cons_of_eq hshared, List.map_cons, List.map_cons,
          List.length_cons, List.length_cons, List.take_succ_cons, List.take_succ_cons, hfield]
        rw [hsplit] at hnodup hconcrete hothers ⊢
        refine congrArg (c.fieldOf? j :: ·) (ih hnodup hconcrete ?_ ?_ hothers.2)
        · rw [hplace]
          exact List.forall_mem_append.2
            ⟨fun l hl => List.mem_cons_of_mem _ (hgiven l hl), by simp⟩
        · rw [hplace]
          intro l hl
          rw [Option.toList_some, List.singleton_append, List.mem_cons, not_or]
          refine ⟨?_, hrest l (List.mem_cons_of_mem _ hl)⟩
          rintro rfl
          exact List.disjoint_of_nodup_append hnodup (by simp) hl
    · rw [MarkupConfig.sharing_cons_of_ne hshared]
      refine ih hnodup hconcrete (fun l hl => List.mem_append_right _ (hgiven l hl)) ?_ hothers.2
      intro l hl hused
      rcases List.mem_append.1 hused with hplace | hused
      · exact hothers.1 hshared l (Option.mem_toList.1 hplace) (List.mem_append_right _ hl)
      · exact hrest l hl hused

end

/-! ### Pages -/

/-- What a text node is bound to. -/
def Node.textBinding? : Node → Option (Option Binding)
  | .leaf _ (.text t) => some t.binding
  | _ => none

/-- What the texts of some nodes and of all below them are bound to, in pre-order. -/
def Node.textBindings (ns : List Node) : List (Option Binding) :=
  (Node.preorders ns).filterMap Node.textBinding?

/-- What the texts of a schema are bound to, in pre-order. -/
def Schema.textBindings (s : Schema) : List (Option Binding) := Node.textBindings s.top

namespace Node

lemma textBindings_append (ns ms : List Node) :
    textBindings (ns ++ ms) = textBindings ns ++ textBindings ms := by
  rw [textBindings, preorders_append, List.filterMap_append, textBindings, textBindings]

lemma textBindings_container (head : Head) (layout : Layout) (ns : List Node) :
    textBindings [.container head layout ns] = textBindings ns := by
  rw [textBindings, preorders, preorder, preorders, List.append_nil]
  exact List.filterMap_cons_none rfl

lemma textBindings_map_hide (ns : List Node) : textBindings (ns.map hide) = textBindings ns := by
  have hmap (ms : List Node) :
      textBindings ms = ((preorders ms).map textBinding?).filterMap fun b => b := by
    rw [List.filterMap_map]
    rfl
  have hhide (n : Node) : n.hide.textBinding? = n.textBinding? := by
    cases n with
    | container head layout ns => rfl
    | leaf head leaf => cases leaf <;> rfl
  rw [hmap, hmap, map_preorders_hide _ hhide]

end Node

/-- **A walk.** The texts are bound in pre-order, one call for each. -/
lemma Page.Grows.inferAll [Engine] {s t : Page.Progress} {ns : List Node}
    (h : Page.Grows c s ns t) :
    s.inference.inferAll (Node.contents ns) = (Node.textBindings ns, t.inference) := by
  induction h with
  | nothing => rfl
  | append _ _ ih ih' =>
    rw [Node.contents_append, Inference.inferAll_append, ih, ih', Node.textBindings_append]
  | leaf hbinds =>
    cases hbinds with
    | text hinfer =>
      obtain ⟨hbinding, hafter⟩ := Prod.mk.inj hinfer
      exact Prod.ext (congrArg ([·]) hbinding) hafter
    | image _ _ hafter => rw [hafter]; rfl
    | svg _ _ hafter => rw [hafter]; rfl
    | shape hafter => rw [hafter]; rfl
  | box _ _ ih =>
    rw [Node.contents_container, Node.textBindings_container]
    exact ih
  | hide _ ih => rw [Node.contents_map_hide, Node.textBindings_map_hide, ih]
  | record _ _ ih => exact ih

/-- The texts of an imported page are bound in pre-order, one call for each. -/
lemma Html.Document.textBindings_toImport [Engine] {s : Inference}
    (h : Inference.ofConfig c = .ok s) {d : Html.Document} {id : String} {i : Import}
    (himport : d.toImport c id = .ok i) :
    i.schema.textBindings = (s.inferAll i.schema.contents).1 := by
  obtain ⟨root, inference, -, hinference, htop⟩ := frame_toImport himport
  obtain rfl := Except.ok.inj (h.symm.trans hinference)
  obtain ⟨f, ns, t, hgrows, hframe⟩ := Page.exists_frame (c := c) { inference := s } root
  rw [Schema.textBindings, Schema.contents, htop, hframe, Node.textBindings_container,
    Node.contents_container]
  exact congrArg Prod.fst hgrows.inferAll.symm

/-- **Rules take turns.** The texts of a document are a session: each is given the first free rule
that matches it, or the first that matches it if none of them is free, and the heuristics decide, in
their order, on the texts that no rule matches. If some rules without open slots are given to no
other text, the texts that exactly they match are bound to their fields one by one in the order of
the configuration, until each has had its turn; the fields differ from each other if those of the
rules do. The texts of an imported page are such a document in pre-order. -/
theorem Inference.rules_take_turns [Engine] {s : Inference} (h : ofConfig c = .ok s) :
    (∀ texts, ∃ calls, Session c [] calls ∧ calls.map (·.text) = texts ∧
      calls.map (·.binding) = (s.inferAll texts).1 ∧
      ∀ places, c.AreConcrete places →
        (∀ call ∈ calls, c.matching (Text.trim call.text.toList) ≠ places →
          ∀ i ∈ call.place, i ∉ places) →
        ((c.sharing places calls).map Call.field?).take places.length =
            (places.map c.fieldOf?).take (c.sharing places calls).length ∧
          ((places.map c.fieldOf?).Nodup →
            (((c.sharing places calls).map Call.field?).take places.length).Nodup)) ∧
    ∀ d id i, Html.Document.toImport c id d = .ok i →
      i.schema.textBindings = (s.inferAll i.schema.contents).1 := by
  have htracks := tracks_ofConfig h
  refine ⟨fun texts => ?_, fun d id i himport => Html.Document.textBindings_toImport h himport⟩
  obtain ⟨calls, hsession, htexts, hbindings⟩ := htracks.session texts
  refine ⟨calls, hsession, htexts, hbindings, fun places hconcrete hothers => ?_⟩
  have hfields : ((c.sharing places calls).map Call.field?).take places.length =
      (places.map c.fieldOf?).take (c.sharing places calls).length := by
    by_cases hnodup : places.Nodup
    · have hall : ([] ++ places).Nodup := hnodup
      exact hsession.fields htracks.matching_nil hall hconcrete
        (fun i hi => absurd hi List.not_mem_nil) (fun i _ => List.not_mem_nil) hothers
    · -- a rule matches a text once
      have hnone : c.sharing places calls = [] := by
        rw [MarkupConfig.sharing, List.filter_eq_nil_iff]
        rintro call - hshared
        exact hnodup (of_decide_eq_true hshared ▸ MarkupConfig.nodup_matching _)
      rw [hnone, List.map_nil, List.take_nil, List.length_nil, List.take_zero]
  refine ⟨hfields, fun hdistinct => ?_⟩
  rw [hfields]
  exact hdistinct.sublist (List.take_sublist ..)

/-- Two rules for one text, with a rule for another between them. -/
def rota : MarkupConfig where
  canvas := ⟨1, 1⟩
  replacements := [⟨"first", .literal "x", .text⟩, ⟨"notes[]", .regex "^y", .text⟩,
    ⟨"second", .literal "x", .text⟩]

/-- A page of three texts. -/
def rotaPage : Html.Document where
  children := [.element (.make 0 (Html.html "div") [⟨.plain, "style", "width:1px;height:1px"⟩])
    [.element (.make 1 (Html.html "p") []) [.text " x"],
      .element (.make 2 (Html.html "p") []) [.text "y"],
      .element (.make 3 (Html.html "p") []) [.text "x"]]]

theorem Inference.rules_take_turns_rota :
    ∃ s calls i, ofConfig rota = .ok s ∧ Session rota [] calls ∧
      calls.map (·.text) = ["x", "y", " x", "me@home", "x"] ∧ rota.AreConcrete [0, 2] ∧
      (∀ call ∈ calls, rota.matching (Text.trim call.text.toList) ≠ [0, 2] →
        ∀ i ∈ call.place, i ∉ [0, 2]) ∧
      ((rota.sharing [0, 2] calls).map Call.field?).take 2 = [some "first", some "second"] ∧
      rotaPage.toImport rota "rota" = .ok i ∧ i.schema.contents = ["x", "y", "x"] ∧
      i.schema.textBindings.map (·.map (·.field)) =
        [some "first", some "notes[]", some "second"] := by
  have hcheck : (ofConfig rota).toOption.any (fun s =>
      (s.inferAll ["x", "y", "x"]).1.map (·.map (·.field)) =
        [some "first", some "notes[]", some "second"]) = true := by decide +kernel
  obtain ⟨s, hs, hpage⟩ := exists_ok_of_any hcheck
  have hplaces : rotaPage.places.Pairwise fun p q => p.element.serial ≤ q.element.serial := by
    decide +kernel
  have himport : (rotaPage.toImport rota "rota").toOption.any
      (fun i => i.schema.contents == ["x", "y", "x"]) = true := by
    simp only [Html.Document.toImport, Page.root?, Page.title?, Html.Document.inOrder_eq hplaces]
    decide +kernel
  obtain ⟨i, hi, hcontents⟩ := exists_ok_of_any himport
  obtain ⟨hturns, hbound⟩ := rules_take_turns hs
  obtain ⟨calls, hsession, htexts, -, hfields⟩ := hturns ["x", "y", " x", "me@home", "x"]
  have hconcrete : rota.AreConcrete [0, 2] := by
    rw [MarkupConfig.AreConcrete]
    decide +kernel
  have hothers : ∀ call ∈ calls, rota.matching (Text.trim call.text.toList) ≠ [0, 2] →
      ∀ i ∈ call.place, i ∉ [0, 2] := by
    have hall : ∀ text ∈ ["x", "y", " x", "me@home", "x"],
        rota.matching (Text.trim text.toList) ≠ [0, 2] →
          ∀ i ∈ rota.matching (Text.trim text.toList), i ∉ [0, 2] := by decide +kernel
    intro call hcall hne i hi
    have htext : call.text ∈ ["x", "y", " x", "me@home", "x"] :=
      htexts ▸ List.mem_map_of_mem hcall
    exact hall _ htext hne i (hsession.place_mem call hcall i hi)
  have hlength : (rota.sharing [0, 2] calls).length = 3 := by
    have hcount := List.countP_map
      (p := fun text : String => decide (rota.matching (Text.trim text.toList) = [0, 2]))
      (f := (·.text)) (l := calls)
    rw [htexts] at hcount
    rw [MarkupConfig.sharing, ← List.countP_eq_length_filter]
    exact hcount.symm.trans (by decide +kernel)
  rw [beq_iff_eq] at hcontents
  refine ⟨s, calls, i, hs, hsession, htexts, hconcrete, hothers, ?_, hi, hcontents, ?_⟩
  · exact (hfields [0, 2] hconcrete hothers).1.trans (by rw [hlength]; decide +kernel)
  · rw [hbound _ _ _ hi, hcontents]
    exact of_decide_eq_true hpage

/-- Two rules, each for a text of its own. -/
def rivals : MarkupConfig where
  replacements := [⟨"first", .literal "x", .text⟩, ⟨"second", .literal "y", .text⟩]

/-- Rules that other texts were given before do not take turns: of two texts that both rules match,
each is bound to the field of the first rule. -/
theorem Inference.rivals_taken_before :
    ∃ s, ofConfig rivals = .ok s ∧ rivals.AreConcrete [0, 1] ∧
      [0, 1].map rivals.fieldOf? = [some "first", some "second"] ∧
      ((["x", "y", "x y", "y x"].zip (s.inferAll ["x", "y", "x y", "y x"]).1).filter
        fun t => rivals.matching (Text.trim t.1.toList) = [0, 1]).map
          (fun t => (t.1, t.2.map (·.field))) =
        [("x y", some "first"), ("y x", some "first")] := by
  have hcheck : (ofConfig rivals).toOption.any (fun s =>
      ((["x", "y", "x y", "y x"].zip (s.inferAll ["x", "y", "x y", "y x"]).1).filter
        fun t => rivals.matching (Text.trim t.1.toList) = [0, 1]).map
          (fun t => (t.1, t.2.map (·.field))) =
        [("x y", some "first"), ("y x", some "first")]) = true := by decide +kernel
  obtain ⟨s, hs, hfields⟩ := exists_ok_of_any hcheck
  refine ⟨s, hs, ?_, by decide +kernel, of_decide_eq_true hfields⟩
  rw [MarkupConfig.AreConcrete]
  decide +kernel

end VisualTemplate
