import VisualTemplate.Fill.Resolve
import VisualTemplate.Proofs.Inference.Session
import VisualTemplate.Proofs.Schema.Reload
/-!
Where a value lands.

A binding keeps the text that its rule has found, and not where. A value that is filled in later
takes the place of the first occurrence of that text. This is where a literal was found; a pattern
may have found a later one, behind which nothing is changed then. All this holds whatever the
patterns of the rules are and wherever they are found.
-/

namespace VisualTemplate

open Inference

variable {c : MarkupConfig} {used : List ℕ} {s : Inference} {cs front found back : List Char}

/-- A value takes the place of the first occurrence of the placeholder, and nothing else of the text
is changed. -/
lemma applyText_eq (hfound : found ≠ []) (h : Text.FirstAt found cs front back) (value : String) :
    applyText (.ofList cs) (some (.ofList found)) value =
      .ofList (front ++ value.toList ++ back) := by
  have hcut : Text.cutAround found cs = some (front, back) := Text.cutAround_iff.2 h
  have hempty : (String.ofList found).isEmpty = false := by
    rw [Bool.eq_false_iff, ne_eq, String.isEmpty_iff, ← String.toList_eq_nil_iff,
      String.toList_ofList]
    exact hfound
  have hpiece : (String.ofList cs).hasPiece (.ofList found) = true := by
    rw [String.hasPiece, String.toList_ofList, String.toList_ofList, Text.occurs, hcut]
    rfl
  rw [applyText, hempty, hpiece, Text.replaceFirst, String.toList_ofList, String.toList_ofList,
    hcut]
  rfl

namespace Inference

variable [Engine]

/-- What a rule of a configuration finds is not empty, and a literal is found where it stands
first. -/
lemma Reads.cut {r : ReplacementRule} {rule : Rule} (h : Reads r rule)
    (hcut : r.split? cs = some (front, found, back)) :
    found ≠ [] ∧ cs = front ++ found ++ back ∧
      ∀ piece, r.pattern = .literal piece → Text.FirstAt found cs front back := by
  have hmatcher := h.matcher
  rw [h.split?] at hcut
  refine ⟨Matcher.found_ne_nil h.found hcut, Matcher.append_of_split? hcut, fun piece hpiece => ?_⟩
  rw [hpiece] at hmatcher
  rw [← Option.some.inj hmatcher] at hcut
  obtain ⟨-, hfirst⟩ := Matcher.split?_literal hcut
  exact hfirst

/-- A binding comes from a rule that has found a part of the text, or else from a heuristic, which
takes the whole text. -/
lemma binding_of_infer {text : String} {b : Binding} (h : (s.infer text).1 = some b) :
    Text.trim text.toList ≠ [] ∧
      ((∃ k, s.choose? (Text.trim text.toList) = some k ∧
          b = ⟨k.rule.field, k.rule.kind, some (.ofList k.found)⟩) ∨
        s.choose? (Text.trim text.toList) = none ∧
          ∃ l : TextClass, b = ⟨l.field s.fields, .text, some text.trimmed⟩) := by
  obtain ⟨-, hinfer⟩ | ⟨hne, ⟨k, hk, hinfer⟩ | ⟨hk, hinfer⟩⟩ := s.infer_cases text
  all_goals rw [hinfer] at h
  · cases h
  · exact ⟨hne, .inl ⟨k, hk, (Option.some.inj h).symm⟩⟩
  · obtain ⟨l, -, hb⟩ := Option.map_eq_some_iff.1 h
    exact ⟨hne, .inr ⟨hk, l, hb.symm⟩⟩

/-- Every state of the inference knows which rules were given to texts. -/
lemma Tracks.inferAll (h : s.Tracks c used) (texts : List String) :
    ∃ used, (s.inferAll texts).2.Tracks c used := by
  induction texts generalizing used s with
  | nil => exact ⟨used, h⟩
  | cons text texts ih =>
    obtain ⟨place, -, hnext⟩ := h.infer text
    exact ih hnext

end Inference

/-- **A value lands where its text stands first.** The rule that is chosen for a text cuts it in
three. The value takes the place of the first occurrence of what the rule has found, with all else
as it was. That is never behind the place that the rule has found, and it is that place exactly if
the same text does not stand nearer to the front, as for every literal. What is inferred of a text
that no rule matches is replaced as a whole. -/
theorem Inference.applyText_infer [Engine] (h : ofConfig c = .ok s) (texts : List String)
    {text : String} {b : Binding} (hb : ((s.inferAll texts).2.infer text).1 = some b)
    (value : String) :
    (∀ k, (s.inferAll texts).2.choose? (Text.trim text.toList) = some k →
      ∃ r front back first rest, c.replacements[k.place]? = some r ∧
        r.split? (Text.trim text.toList) = some (front, k.found, back) ∧
        Text.trim text.toList = front ++ k.found ++ back ∧
        Text.FirstAt k.found (Text.trim text.toList) first rest ∧
        applyText text.trimmed b.placeholder value = .ofList (first ++ value.toList ++ rest) ∧
        first.length ≤ front.length ∧
        ((first = front ∧ rest = back) ↔
          Text.FirstAt k.found (Text.trim text.toList) front back) ∧
        ∀ piece, r.pattern = .literal piece → first = front ∧ rest = back) ∧
    ((s.inferAll texts).2.choose? (Text.trim text.toList) = none →
      applyText text.trimmed b.placeholder value = value) := by
  obtain ⟨used, htracks⟩ := (tracks_ofConfig h).inferAll texts
  obtain ⟨hne, hbinding⟩ := binding_of_infer hb
  constructor
  · intro k hk
    obtain ⟨hmem, -⟩ := htracks.turn_of_choose hk
    obtain ⟨-, r, front, back, hr, hread, hcut⟩ := htracks.exists_rule hmem
    obtain ⟨hfound, hwhole, hliteral⟩ := hread.cut hcut
    obtain ⟨first, rest, hfirst⟩ := Text.exists_firstAt hwhole
    have hunique (h : Text.FirstAt k.found (Text.trim text.toList) front back) :
        first = front ∧ rest = back := h.unique hfirst
    refine ⟨r, front, back, first, rest, hr, hcut, hwhole, hfirst, ?_, hfirst.least _ _ hwhole,
      ⟨?_, hunique⟩, fun piece hpiece => hunique (hliteral piece hpiece)⟩
    · obtain ⟨k', hk', rfl⟩ | ⟨hnone, -⟩ := hbinding
      · obtain rfl := Option.some.inj (hk.symm.trans hk')
        exact applyText_eq hfound hfirst value
      · exact absurd hk (hnone ▸ Option.some_ne_none k).symm
    · rintro ⟨rfl, rfl⟩
      exact hfirst
  · intro hnone
    obtain ⟨k, hk, -⟩ | ⟨-, l, rfl⟩ := hbinding
    · cases hnone.symm.trans hk
    · -- the whole text is its own first occurrence
      have hfirst : Text.FirstAt (Text.trim text.toList) (Text.trim text.toList) [] [] :=
        ⟨by simp, fun _ _ _ => Nat.zero_le _⟩
      exact (applyText_eq hne hfirst value).trans (by simp)

/-- A word at the end of a text, and another anywhere. -/
def tailRules : MarkupConfig where
  replacements := [⟨"tail", .regex "now$", .text⟩, ⟨"notes[]", .literal "now", .text⟩]

theorem Inference.applyText_infer_tail :
    ∃ s b k, ofConfig tailRules = .ok s ∧
      ((s.inferAll ["now", "know"]).2.infer " know nowhere ").1 = some b ∧
      (s.inferAll ["now", "know"]).2.choose? "know nowhere".toList = some k ∧
      Text.FirstAt k.found "know nowhere".toList ['k'] " nowhere".toList ∧
      applyText "know nowhere" b.placeholder "an" = "kan nowhere" := by
  have hcheck : (ofConfig tailRules).toOption.any (fun s =>
      ((s.inferAll ["now", "know"]).2.infer " know nowhere ").1 ==
          some ⟨"notes[]", .text, some "now"⟩ &&
        ((s.inferAll ["now", "know"]).2.choose? "know nowhere".toList).any
          fun k => k.found == "now".toList) = true := by
    decide +kernel
  obtain ⟨s, hs, hinfer⟩ := exists_ok_of_any hcheck
  rw [Bool.and_eq_true, beq_iff_eq, Option.any_eq_true] at hinfer
  obtain ⟨hinfer, k, hk, hfound⟩ := hinfer
  rw [beq_iff_eq] at hfound
  obtain ⟨hrule, -⟩ := applyText_infer hs ["now", "know"] hinfer "an"
  obtain ⟨r, front, back, first, rest, -, -, -, hfirst, hvalue, -⟩ := hrule k hk
  have hnear : Text.FirstAt k.found "know nowhere".toList ['k'] " nowhere".toList := by
    rw [hfound]
    exact Text.firstAt_of_cutAround (by decide +kernel)
  obtain ⟨rfl, rfl⟩ := hnear.unique hfirst
  exact ⟨s, _, k, hs, hinfer, hk, hnear, hvalue⟩

/-- A value need not land where a pattern has found its text: the same text may stand before it. -/
theorem Inference.lands_before_match :
    ∃ s b r, ofConfig tailRules = .ok s ∧ tailRules.replacements[0]? = some r ∧
      (s.infer "know now").1 = some b ∧ b.field = r.field ∧
      r.split? "know now".toList = some ("know ".toList, "now".toList, []) ∧
      applyText "know now" b.placeholder "later" = "klater now" := by
  have hcheck : (ofConfig tailRules).toOption.any (fun s =>
      (s.infer "know now").1 == some ⟨"tail", .text, some "now"⟩) = true := by decide +kernel
  obtain ⟨s, hs, hinfer⟩ := exists_ok_of_any hcheck
  rw [beq_iff_eq] at hinfer
  exact ⟨s, _, _, hs, rfl, hinfer, rfl, by decide +kernel, by decide +kernel⟩

end VisualTemplate
