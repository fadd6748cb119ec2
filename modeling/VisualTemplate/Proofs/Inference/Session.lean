import VisualTemplate.Proofs.Inference.Spans
import VisualTemplate.Proofs.Schema.Gate
/-!
The texts of a document and what they are bound to.

What a text is bound to depends on all texts before it, but only by the places of the rules that
these were given. A rule is free while no text was given it, and one with an open slot is free
always. Each text is given the first free rule that matches it, or else the first that matches it,
and no text that a rule matches comes before the heuristics.
-/

namespace VisualTemplate

variable [Engine]

/-! ### Rules and the texts that they match -/

/-- What a pattern looks for, unless it is no expression. -/
def RulePattern.matcher? : RulePattern → Option Matcher
  | literal text => some (.literal text.toList)
  | regex text => (Engine.finder? text).map .pattern

namespace ReplacementRule

/-- What stands before, in and behind the place that a rule finds in a text. -/
def split? (r : ReplacementRule) (cs : List Char) : Option (List Char × List Char × List Char) :=
  r.pattern.matcher?.bind (·.split? cs)

/-- The field of the rule has an open slot. -/
def isOpen (r : ReplacementRule) : Bool := (FieldPath.ofText? r.field).any (·.hasSlot)

end ReplacementRule

namespace MarkupConfig

/-- The places of the rules that match a text, in the order of the configuration. -/
def matching (c : MarkupConfig) (cs : List Char) : List ℕ :=
  (c.replacements.zipIdx.filter fun r => (r.1.split? cs).isSome).map (·.2)

/-- The rule at a place has an open slot, or no text was given it before. -/
def IsFree (c : MarkupConfig) (used : List ℕ) (i : ℕ) : Prop :=
  (∃ r ∈ c.replacements[i]?, r.isOpen = true) ∨ i ∉ used

/-- The rule whose turn it is for a text: the first free rule that matches it, or the first that
matches it if none of them is free. -/
inductive Turn (c : MarkupConfig) (used : List ℕ) (cs : List Char) : ℕ → Prop
  | fresh {i : ℕ} {before after : List ℕ} : c.matching cs = before ++ i :: after →
    c.IsFree used i → (∀ j ∈ before, ¬ c.IsFree used j) → Turn c used cs i
  | again {i : ℕ} {after : List ℕ} : c.matching cs = i :: after →
    (∀ j ∈ c.matching cs, ¬ c.IsFree used j) → Turn c used cs i

end MarkupConfig

namespace Inference

/-- A text of a document, the place of the rule that it was given, and what it was bound to. -/
structure Call where
  text : String
  place : Option ℕ
  binding : Option Binding

/-- How a text is answered when the rules at some places have been given to texts before it. -/
inductive Answers (c : MarkupConfig) (used : List ℕ) : Call → Prop
  /-- A blank text is bound to nothing. -/
  | blank {text : String} : Text.trim text.toList = [] → Answers c used ⟨text, none, none⟩
  /-- The rule whose turn it is binds the text to its field. -/
  | rule {text : String} {i : ℕ} {r : ReplacementRule} {front found back : List Char} :
    Text.trim text.toList ≠ [] → c.Turn used (Text.trim text.toList) i →
    c.replacements[i]? = some r →
    r.split? (Text.trim text.toList) = some (front, found, back) →
    Answers c used ⟨text, some i, some ⟨r.field, r.kind, some (.ofList found)⟩⟩
  /-- If no rule matches the text, the first heuristic that accepts it decides. -/
  | heuristic {text : String} {k : TextClass} {before after : List TextClass} :
    Text.trim text.toList ≠ [] → c.matching (Text.trim text.toList) = [] →
    TextClass.all = before ++ k :: after →
    TextClass.accepts c.placeholderMarkers (Text.trim text.toList) k = true →
    (∀ l ∈ before, TextClass.accepts c.placeholderMarkers (Text.trim text.toList) l = false) →
    Answers c used ⟨text, none, some ⟨k.field c.heuristicFields, .text, some text.trimmed⟩⟩
  /-- A text that neither a rule nor a heuristic recognises is bound to nothing. -/
  | unbound {text : String} : Text.trim text.toList ≠ [] →
    c.matching (Text.trim text.toList) = [] →
    (∀ k ∈ TextClass.all,
      TextClass.accepts c.placeholderMarkers (Text.trim text.toList) k = false) →
    Answers c used ⟨text, none, none⟩

/-- The texts of a document, one after another. -/
inductive Session (c : MarkupConfig) : List ℕ → List Call → Prop
  | done {used : List ℕ} : Session c used []
  | next {used : List ℕ} {call : Call} {calls : List Call} : Answers c used call →
    Session c (call.place.toList ++ used) calls → Session c used (call :: calls)

/-- The bindings of several texts of a document. -/
def inferAll (s : Inference) : List String → List (Option Binding) × Inference
  | [] => ([], s)
  | text :: texts =>
    ((s.infer text).1 :: ((s.infer text).2.inferAll texts).1, ((s.infer text).2.inferAll texts).2)

lemma inferAll_append (s : Inference) (texts more : List String) :
    s.inferAll (texts ++ more) =
      ((s.inferAll texts).1 ++ ((s.inferAll texts).2.inferAll more).1,
        ((s.inferAll texts).2.inferAll more).2) := by
  induction texts generalizing s with
  | nil => rfl
  | cons text texts ih =>
    rw [List.cons_append, inferAll, ih]
    rfl

/-! ### The rules of a configuration -/

/-- What becomes of a rule of a configuration. It never looks for the empty text. -/
structure Reads (r : ReplacementRule) (rule : Rule) : Prop where
  field : rule.field = r.field
  kind : rule.kind = r.kind
  matcher : r.pattern.matcher? = some rule.matcher
  isOpen : rule.isOpen = r.isOpen
  found : rule.matcher ≠ .literal []

lemma Reads.split? {r : ReplacementRule} {rule : Rule} (h : Reads r rule) (cs : List Char) :
    r.split? cs = rule.matcher.split? cs := by
  rw [ReplacementRule.split?, h.matcher, Option.bind_some]

/-- A state of the inference in which the rules at some places have been given to texts. -/
structure Tracks (c : MarkupConfig) (used : List ℕ) (s : Inference) : Prop where
  rules : List.Forall₂ Reads c.replacements s.rules
  claimed : ∀ i rule, s.rules[i]? = some rule → (rule.claimed = true ↔ i ∈ used)
  markers : s.markers = c.placeholderMarkers
  fields : s.fields = c.heuristicFields

lemma reads_ruleOf {r : ReplacementRule} {rule : Rule} (h : ruleOf r = .ok rule) :
    Reads r rule ∧ rule.claimed = false := by
  unfold ruleOf at h
  split at h
  · cases h
  · next path hpath =>
    have hopen : path.hasSlot = r.isOpen := by rw [ReplacementRule.isOpen, hpath]; rfl
    split at h
    · next text htext =>
      split at h
      · cases h
      · next hne =>
        rw [← Except.ok.inj h]
        refine ⟨⟨rfl, rfl, by rw [htext]; rfl, hopen, ?_⟩, rfl⟩
        rw [String.isEmpty_iff] at hne
        exact fun hnil => hne (String.toList_eq_nil_iff.1 (Matcher.literal.inj hnil))
    · next text htext =>
      split at h
      · cases h
      · next f hf =>
        rw [← Except.ok.inj h]
        exact ⟨⟨rfl, rfl, by rw [htext, RulePattern.matcher?, hf]; rfl, hopen,
          Matcher.noConfusion⟩, rfl⟩

lemma reads_rulesOf {rs : List ReplacementRule} {rules : List Rule} (h : rulesOf rs = .ok rules) :
    List.Forall₂ Reads rs rules ∧ ∀ rule ∈ rules, rule.claimed = false := by
  induction rs generalizing rules with
  | nil =>
    rw [← Except.ok.inj h]
    exact ⟨.nil, fun rule hrule => absurd hrule List.not_mem_nil⟩
  | cons r rs ih =>
    obtain ⟨rule, hrule, h⟩ := Except.bind_eq_ok_iff.1 h
    obtain ⟨rest, hrest, h⟩ := Except.bind_eq_ok_iff.1 h
    obtain ⟨hreads, hclaimed⟩ := reads_ruleOf hrule
    obtain ⟨hall, hnone⟩ := ih hrest
    rw [← Except.ok.inj h]
    exact ⟨.cons hreads hall, List.forall_mem_cons.2 ⟨hclaimed, hnone⟩⟩

/-- At first no rule has been given to a text. -/
lemma tracks_ofConfig {c : MarkupConfig} {s : Inference} (h : ofConfig c = .ok s) :
    s.Tracks c [] := by
  obtain ⟨rules, hrules, h⟩ := Except.bind_eq_ok_iff.1 h
  obtain ⟨hreads, hclaimed⟩ := reads_rulesOf hrules
  split at h
  · cases h
  · rw [← Except.ok.inj h]
    refine ⟨hreads, fun i rule hrule => ?_, rfl, rfl⟩
    rw [hclaimed rule (List.mem_of_getElem? hrule)]
    simp

/-! ### One text -/

/-- A text is blank, or a rule is chosen for it and claimed, or the heuristics are asked. -/
lemma infer_cases (s : Inference) (text : String) :
    (Text.trim text.toList = [] ∧ s.infer text = (none, s)) ∨
      Text.trim text.toList ≠ [] ∧
        ((∃ k, s.choose? (Text.trim text.toList) = some k ∧ s.infer text =
            (some ⟨k.rule.field, k.rule.kind, some (.ofList k.found)⟩, s.claim k.place)) ∨
          s.choose? (Text.trim text.toList) = none ∧ s.infer text =
            ((TextClass.ofText? s.markers (Text.trim text.toList)).map fun l =>
              ⟨l.field s.fields, .text, some text.trimmed⟩, s)) := by
  unfold infer
  dsimp only
  split
  · next hblank => exact .inl ⟨List.isEmpty_iff.1 hblank, rfl⟩
  · next hne =>
    refine .inr ⟨fun hnil => hne (List.isEmpty_iff.2 hnil), ?_⟩
    split
    · next k hk => exact .inl ⟨k, hk, rfl⟩
    · next hk => exact .inr ⟨hk, rfl⟩

lemma places_candidates {cs : List Char} {rules : List Rule} {rs : List ReplacementRule}
    (h : List.Forall₂ Reads rs rules) (i : ℕ) :
    (candidates cs i rules).map (·.place) =
      ((rs.zipIdx i).filter fun r => (r.1.split? cs).isSome).map (·.2) := by
  induction h generalizing i with
  | nil => rfl
  | @cons r rule rs rules hread _ ih =>
    rw [candidates, List.zipIdx_cons, List.filter_cons, hread.split?]
    cases rule.matcher.split? cs with
    | none => exact ih (i + 1)
    | some cut => exact congrArg (i :: ·) (ih (i + 1))

namespace Tracks

variable {c : MarkupConfig} {used : List ℕ} {s : Inference} {cs : List Char} {k : Candidate}

/-- A rule that matches a text is one of the configuration and cuts the text as that does. -/
lemma exists_rule (h : s.Tracks c used) (hk : k ∈ candidates cs 0 s.rules) :
    s.rules[k.place]? = some k.rule ∧ ∃ r front back, c.replacements[k.place]? = some r ∧
      Reads r k.rule ∧ r.split? cs = some (front, k.found, back) := by
  obtain ⟨n, hplace, hrule, front, back, hcut⟩ := getElem?_of_candidate hk
  obtain rfl : k.place = n := by omega
  obtain ⟨hlt, hget⟩ := List.getElem?_eq_some_iff.1 hrule
  have hlt' : k.place < c.replacements.length := h.rules.length_eq ▸ hlt
  have hread := h.rules.get hlt' hlt
  rw [List.get_eq_getElem, List.get_eq_getElem, hget] at hread
  exact ⟨hrule, _, front, back, List.getElem?_eq_getElem hlt', hread,
    (hread.split? cs).trans hcut⟩

lemma isFree_iff (h : s.Tracks c used) (hk : k ∈ candidates cs 0 s.rules) :
    (k.rule.isOpen || !k.rule.claimed) = true ↔ c.IsFree used k.place := by
  obtain ⟨hrule, r, front, back, hr, hread, -⟩ := h.exists_rule hk
  have hclaimed : k.rule.claimed = false ↔ k.place ∉ used := by
    rw [← Bool.not_eq_true, h.claimed _ _ hrule]
  rw [MarkupConfig.IsFree, hr, Bool.or_eq_true, Bool.not_eq_true', hclaimed, hread.isOpen]
  simp

lemma matching_eq (h : s.Tracks c used) :
    c.matching cs = (candidates cs 0 s.rules).map (·.place) :=
  (places_candidates h.rules 0).symm

/-- The rule that is chosen has its turn. -/
lemma turn_of_choose (h : s.Tracks c used) (hk : s.choose? cs = some k) :
    k ∈ candidates cs 0 s.rules ∧ c.Turn used cs k.place := by
  rcases Option.or_eq_some_iff.1 hk with hk | ⟨hnone, hk⟩
  · obtain ⟨hfree, before, after, hcs, hbefore⟩ := List.find?_eq_some_iff_append.1 hk
    have hmem : k ∈ candidates cs 0 s.rules := List.mem_of_find?_eq_some hk
    have hcut : c.matching cs = before.map (·.place) ++ k.place :: after.map (·.place) := by
      rw [h.matching_eq, hcs, List.map_append, List.map_cons]
    refine ⟨hmem, .fresh hcut ((h.isFree_iff hmem).1 hfree) ?_⟩
    rw [List.forall_mem_map]
    intro l hl
    have hl' : l ∈ candidates cs 0 s.rules := hcs ▸ List.mem_append_left _ hl
    rw [← h.isFree_iff hl', Bool.not_eq_true, ← Bool.not_eq_true']
    exact hbefore l hl
  · obtain ⟨after, hcs⟩ := List.head?_eq_some_iff.1 hk
    have hcut : c.matching cs = k.place :: after.map (·.place) := by
      rw [h.matching_eq, hcs, List.map_cons]
    refine ⟨List.mem_of_head? hk, .again hcut ?_⟩
    rw [h.matching_eq, List.forall_mem_map]
    intro l hl
    rw [← h.isFree_iff hl]
    exact List.find?_eq_none.1 hnone l hl

lemma matching_of_choose (h : s.Tracks c used) (hk : s.choose? cs = none) :
    c.matching cs = [] := by
  obtain ⟨-, hhead⟩ := Option.or_eq_none_iff.1 hk
  rw [h.matching_eq, List.head?_eq_none_iff.1 hhead, List.map_nil]

lemma reads_modify {rs : List ReplacementRule} {rules : List Rule}
    (h : List.Forall₂ Reads rs rules) (i : ℕ) :
    List.Forall₂ Reads rs (rules.modify i fun rule => { rule with claimed := true }) := by
  induction h generalizing i with
  | nil => simp
  | cons hread hrest ih =>
    cases i with
    | zero =>
      exact .cons ⟨hread.field, hread.kind, hread.matcher, hread.isOpen, hread.found⟩ hrest
    | succ i => exact .cons hread (ih i)

/-- To claim a rule is to give it to a text. -/
lemma claim (h : s.Tracks c used) (i : ℕ) : (s.claim i).Tracks c (i :: used) := by
  refine ⟨reads_modify h.rules i, fun j rule hrule => ?_, h.markers, h.fields⟩
  rw [Inference.claim, List.getElem?_modify] at hrule
  obtain ⟨rule', hrule', rfl⟩ := Option.map_eq_some_iff.1 hrule
  rw [List.mem_cons, ← h.claimed j rule' hrule']
  by_cases hij : i = j
  · simp [hij]
  · simp [hij, Ne.symm hij]

/-- No rule matches the empty text. -/
lemma matching_nil (h : s.Tracks c used) : c.matching [] = [] := by
  rw [h.matching_eq, List.map_eq_nil_iff, List.eq_nil_iff_forall_not_mem]
  intro k hk
  obtain ⟨-, r, front, back, -, hread, hcut⟩ := h.exists_rule hk
  rw [hread.split?] at hcut
  have hfound : front ++ k.found ++ back = [] := (Matcher.append_of_split? hcut).symm
  exact Matcher.found_ne_nil hread.found hcut (by simp_all)

/-- **One text.** It is answered from the configuration and from what was given to texts before, and
all that stays of it is the place of the rule that it was given. -/
lemma infer (h : s.Tracks c used) (text : String) :
    ∃ place, Answers c used ⟨text, place, (s.infer text).1⟩ ∧
      (s.infer text).2.Tracks c (place.toList ++ used) := by
  obtain ⟨hblank, hinfer⟩ | ⟨hne, ⟨k, hk, hinfer⟩ | ⟨hk, hinfer⟩⟩ := s.infer_cases text
  all_goals rw [hinfer]
  · exact ⟨none, .blank hblank, h⟩
  · obtain ⟨hmem, hturn⟩ := h.turn_of_choose hk
    obtain ⟨-, r, front, back, hr, hread, hcut⟩ := h.exists_rule hmem
    refine ⟨some k.place, ?_, h.claim _⟩
    rw [hread.field, hread.kind]
    exact .rule hne hturn hr hcut
  · have hnone := h.matching_of_choose hk
    rw [h.markers, h.fields]
    refine ⟨none, ?_, h⟩
    cases hclass : TextClass.ofText? c.placeholderMarkers (Text.trim text.toList) with
    | none =>
      refine .unbound hne hnone fun l hl => ?_
      simpa using List.find?_eq_none.1 hclass l hl
    | some l =>
      obtain ⟨haccepts, before, after, hall, hbefore⟩ := List.find?_eq_some_iff_append.1 hclass
      exact .heuristic hne hnone hall haccepts fun l hl => by simpa using hbefore l hl

/-- The texts of a document are a session. -/
lemma session (h : s.Tracks c used) (texts : List String) :
    ∃ calls, Session c used calls ∧ calls.map (·.text) = texts ∧
      calls.map (·.binding) = (s.inferAll texts).1 := by
  induction texts generalizing used s with
  | nil => exact ⟨[], .done, rfl, rfl⟩
  | cons text texts ih =>
    obtain ⟨place, hanswer, hnext⟩ := h.infer text
    obtain ⟨calls, hcalls, htexts, hbindings⟩ := ih hnext
    exact ⟨⟨text, place, (s.infer text).1⟩ :: calls, .next hanswer hcalls,
      congrArg (text :: ·) htexts, congrArg ((s.infer text).1 :: ·) hbindings⟩

end Tracks

end Inference

end VisualTemplate
