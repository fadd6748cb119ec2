import VisualTemplate.Proofs.Color.NormalForm
import VisualTemplate.Proofs.Fill.Chains
import VisualTemplate.Proofs.Node.Paints
/-!
Colours of style sheets keep their meaning as paints.

A reference is followed through its fallbacks, each of which is shorter than the text that it stands
in, up to the first name that is declared or to the last fallback. The text of a colour becomes a
reference only to a token whose stored colour has the same normal form, and normal forms tell
colours apart.
-/

namespace VisualTemplate.Paint

open Text

/-! ### References -/

section

variable {cs name rest fallback : List Char}

lemma length_dropWhile_le (p : Char → Bool) (cs : List Char) :
    (cs.dropWhile p).length ≤ cs.length := (List.dropWhile_suffix p).length_le

/-- A fallback is shorter than the text that it stands in. -/
lemma length_fallback (h : reference? cs = some (name, some fallback)) :
    fallback.length < cs.length := by
  unfold reference? at h
  obtain ⟨front, hfront, h⟩ := Option.bind_eq_some_iff.1 h
  obtain ⟨named, hnamed, h⟩ := Option.bind_eq_some_iff.1 h
  simp only [List.span_eq_takeWhile_dropWhile] at h
  have hfront := length_of_after? hfront
  have hnamed : (front.dropWhile isBlank).length = 2 + named.length := length_of_after? hnamed
  have hle := length_dropWhile_le isBlank front
  have hle' := length_dropWhile_le isNameChar named
  have hle'' := length_dropWhile_le isBlank (named.dropWhile isNameChar)
  split at h
  · cases h
  · split at h
    · cases h
    · next behind hbehind =>
      obtain ⟨body, hbody, h⟩ := Option.bind_eq_some_iff.1 h
      have hbody : behind.length = body.length + 1 := length_of_before? hbody
      have hle''' := length_dropWhile_le isBlank body
      rw [hbehind, List.length_cons] at hle''
      split at h
      · -- the last blank is one of those in the body
        split at h
        · split at h
          · cases h
          · obtain ⟨-, h⟩ := Prod.mk.inj (Option.some.inj h)
            rw [← Option.some.inj h, List.length_singleton]
            omega
        · cases h
      · split at h
        · cases h
        · obtain ⟨-, h⟩ := Prod.mk.inj (Option.some.inj h)
          obtain rfl := Option.some.inj h
          omega
    · cases h

/-- A reference with a fallback behind its comma. -/
lemma reference?_append (hname : name ≠ []) (hchars : ∀ c ∈ name, isNameChar c = true)
    (hblank : fallback.dropWhile isBlank ≠ []) (hline : '\n' ∉ fallback) :
    reference? ("var(--".toList ++ (name ++ (", ".toList ++ (fallback ++ [')'])))) =
      some (name, some (fallback.dropWhile isBlank)) := by
  have hdash : isBlank '-' = false := by decide
  have hcomma : isNameChar ',' = false := by decide
  have hcomma' : isBlank ',' = false := by decide
  have hspace : isBlank ' ' = true := by decide
  have hsplit : "var(--".toList = "var(".toList ++ ['-', '-'] := by decide
  have htail : ", ".toList = [',', ' '] := by decide
  have hempty : name.isEmpty = false := by simpa using hname
  have hline' : (fallback.dropWhile isBlank).contains '\n' = false := by
    simpa using fun hmem => hline ((List.dropWhile_suffix isBlank).subset hmem)
  have hdashes (cs : List Char) : after? ['-', '-'] ('-' :: '-' :: cs) = some cs :=
    after?_append ['-', '-'] cs
  have htake (cs : List Char) : (name ++ ',' :: cs).takeWhile isNameChar = name := by
    rw [List.takeWhile_append_of_pos hchars, List.takeWhile_cons_of_neg (by simp [hcomma]),
      List.append_nil]
  have hdrop (cs : List Char) : (name ++ ',' :: cs).dropWhile isNameChar = ',' :: cs := by
    rw [List.dropWhile_append_of_pos hchars, List.dropWhile_cons_of_neg (by simp [hcomma])]
  have hbefore : before? [')'] (' ' :: (fallback ++ [')'])) = some (' ' :: fallback) :=
    before?_append (' ' :: fallback) [')']
  obtain ⟨c, cs, hbody⟩ := List.exists_cons_of_ne_nil hblank
  rw [hbody] at hline' ⊢
  unfold reference?
  simp only [hsplit, htail, List.append_assoc, after?_append, Option.bind_eq_bind, Option.bind_some,
    List.cons_append, List.nil_append, List.dropWhile_cons_of_neg, hdash, Bool.false_eq_true,
    not_false_eq_true, List.span_eq_takeWhile_dropWhile, hdashes, htake, hdrop, hcomma', hbefore,
    List.dropWhile_cons_of_pos hspace, hbody, hempty, hline', if_false]

/-- No colour is a reference. -/
lemma reference?_of_color {text : String} {c : Color} (h : Color.ofText? text = some c) :
    reference? text.trimmed.toList = none := by
  cases href : reference? text.trimmed.toList with
  | none => rfl
  | some r =>
    rw [reference?] at href
    obtain ⟨rest, hrest, -⟩ := Option.bind_eq_some_iff.1 href
    have hlist : text.trimmed.toList = "var(".toList ++ rest := append_of_after? hrest
    have hhex : text.trimmed.after? "#" = none := by
      rw [String.after?, hlist]
      rfl
    have hrgb : Color.arguments? text.trimmed = none := by
      rw [Color.arguments?]
      simp [String.after?, String.lowerAscii, hlist, after?]
    rw [Color.ofText?] at h
    simp only [hhex, hrgb, Option.bind_none, reduceCtorEq] at h

end

/-! ### Following references -/

variable {ts : Tokens} {text text' : String} {name fallback : List Char}

/-- Only the text without blanks at its ends counts. -/
lemma ofTextWithin_congr (h : text.trimmed = text'.trimmed) (n : ℕ) :
    ofTextWithin ts n text = ofTextWithin ts n text' := by
  cases n with
  | zero => rw [ofTextWithin, ofTextWithin, h]
  | succ n => rw [ofTextWithin, ofTextWithin, h]

lemma length_trimmed_le (text : String) : text.trimmed.toList.length ≤ text.toList.length := by
  rw [String.trimmed, String.toList_ofList]
  exact length_trim_le _

/-- The bound on the number of fallbacks is never reached. -/
lemma ofTextWithin_eq {n m : ℕ} (hn : text.toList.length < n) (hm : text.toList.length < m) :
    ofTextWithin ts n text = ofTextWithin ts m text := by
  induction n generalizing m text with
  | zero => exact absurd hn (Nat.not_lt_zero _)
  | succ n ih =>
    obtain ⟨m, rfl⟩ := Nat.exists_eq_succ_of_ne_zero (Nat.ne_of_gt (Nat.zero_lt_of_lt hm))
    rw [ofTextWithin, ofTextWithin]
    dsimp only
    cases href : reference? text.trimmed.toList with
    | none => rfl
    | some r =>
      obtain ⟨name, fallback⟩ := r
      cases fallback with
      | none => rfl
      | some f =>
        have hshort := length_fallback href
        have hle := length_trimmed_le text
        have hrest : ofTextWithin ts n (.ofList f) = ofTextWithin ts m (.ofList f) :=
          ih (by rw [String.toList_ofList]; omega) (by rw [String.toList_ofList]; omega)
        simp only [hrest]

lemma ofText_eq {n : ℕ} (h : text.length < n) : ofTextWithin ts n text = ofText ts text := by
  rw [← String.length_toList] at h
  exact ofTextWithin_eq h (by rw [String.length_toList]; exact Nat.lt_succ_self _)

lemma ofText_congr (h : text.trimmed = text'.trimmed) : ofText ts text = ofText ts text' := by
  have hle := Nat.lt_succ_of_le (le_max_left text.length text'.length)
  have hle' := Nat.lt_succ_of_le (le_max_right text.length text'.length)
  rw [← ofText_eq hle, ← ofText_eq hle', ofTextWithin_congr h]

/-- A reference is one to its name if that is declared, and stands for its fallback otherwise. -/
lemma ofText_reference (h : reference? text.trimmed.toList = some (name, some fallback)) :
    ofText ts text = if ts.contains (.ofList name) then .token (.ofList name)
      else ofText ts (.ofList fallback) := by
  have hshort := length_fallback h
  have hle := length_trimmed_le text
  simp only [String.length_toList] at hshort hle
  rw [ofText, ofTextWithin]
  simp only [h]
  split
  · rfl
  · refine ofText_eq ?_
    rw [String.length_ofList]
    omega

/-! ### Nested references -/

/-- References to tokens one inside another, with a text as the last fallback. -/
def nested : List String → String → String
  | [], last => last
  | name :: names, last => "var(--" ++ name ++ ", " ++ nested names last ++ ")"

variable {names : List String} {last : String}

lemma nested_notBlank (h : last.isBlank = false) :
    (nested names last).toList.dropWhile isBlank ≠ [] := by
  cases names with
  | nil =>
    rw [nested, Ne, List.dropWhile_eq_nil_iff]
    rw [String.isBlank, List.all_eq_false] at h
    obtain ⟨c, hc, hblank⟩ := h
    exact fun hall => hblank (hall c hc)
  | cons name names =>
    rw [nested]
    simp +decide [List.dropWhile_cons_of_neg]

lemma nested_oneLine (hnames : ∀ name ∈ names, ∀ c ∈ name.toList, isNameChar c = true)
    (hlast : '\n' ∉ last.toList) : '\n' ∉ (nested names last).toList := by
  induction names with
  | nil => exact hlast
  | cons name names ih =>
    rw [List.forall_mem_cons] at hnames
    have hname : '\n' ∉ name.toList := fun hmem => absurd (hnames.1 _ hmem) (by decide)
    rw [nested]
    simp +decide [hname, ih hnames.2]

/-- A nested reference is one to its first declared name, or stands for the last fallback. -/
lemma ofText_nested
    (hnames : ∀ name ∈ names, name ≠ "" ∧ ∀ c ∈ name.toList, isNameChar c = true)
    (hlast : last.isBlank = false) (hline : '\n' ∉ last.toList) :
    ofText ts (nested names last) = match names.find? ts.contains with
      | some name => .token name
      | none => ofText ts last := by
  induction names with
  | nil => rfl
  | cons name names ih =>
    rw [List.forall_mem_cons] at hnames
    have hbody : (nested names last).toList.dropWhile isBlank ≠ [] := nested_notBlank hlast
    have hlist : (nested (name :: names) last).toList = "var(--".toList ++ (name.toList ++
        (", ".toList ++ ((nested names last).toList ++ [')']))) := by
      simp [nested]
    have htrim : (nested (name :: names) last).trimmed = nested (name :: names) last := by
      rw [String.trimmed, trim_of_ends, String.ofList_toList]
      · rw [hlist]
        simp +decide
      · rw [hlist, ← List.append_assoc, ← List.append_assoc, ← List.append_assoc,
          List.getLast?_append]
        simp +decide
    have href : reference? (nested (name :: names) last).trimmed.toList =
        some (name.toList, some ((nested names last).toList.dropWhile isBlank)) := by
      rw [htrim, hlist]
      exact reference?_append (by simpa using hnames.1.1) hnames.1.2 hbody
        (nested_oneLine (fun name hname => (hnames.2 name hname).2) hline)
    have hrest : ofText ts (.ofList ((nested names last).toList.dropWhile isBlank)) =
        ofText ts (nested names last) :=
      ofText_congr (by rw [String.trimmed, String.toList_ofList, trim_dropWhile, String.trimmed])
    rw [ofText_reference href, String.ofList_toList, hrest, ih hnames.2, List.find?_cons]
    cases ts.contains name <;> rfl

/-! ### Colours -/

lemma ofText?_trimmed (text : String) : Color.ofText? text.trimmed = Color.ofText? text := by
  have htrim : text.trimmed.trimmed = text.trimmed := by
    rw [String.trimmed, String.trimmed, String.toList_ofList, trim_trim]
  rw [Color.ofText?, Color.ofText?, htrim]

/-- A token with the normal form of a colour stores that colour. -/
lemma resolve_of_tokenWith {p : Palette} (h : Palette.ofTokens ts .empty = .ok p) {c : Color}
    {name : String} (hname : tokenWith? ts c.css = some name) : p.resolve name = .ok c := by
  obtain ⟨⟨name, t⟩, hfind, rfl⟩ := Option.map_eq_some_iff.1 hname
  have hmem := Table.mem_entries_iff.1 (List.mem_of_find?_eq_some hfind)
  have hfound := List.find?_some hfind
  simp only [Bool.and_eq_true, Option.isNone_iff_eq_none, beq_iff_eq] at hfound
  obtain ⟨value, hvalue, hnormal⟩ := Option.bind_eq_some_iff.1 hfound.2
  obtain ⟨c', hc', hcss⟩ := Option.map_eq_some_iff.1 hnormal
  have hcolor : ts.colorUnder? .empty name = some c := by
    rw [Tokens.colorUnder?, Table.get?_empty, Option.none_or, hmem, Option.bind_some, hvalue,
      Option.bind_some, hc', Color.css_inj hcss]
  rw [Palette.resolve, Palette.resolveWithin_chain h (.stored hmem hfound.1) hcolor
    (Nat.succ_pos _)]
  rfl

/-- A colour keeps its meaning, as a reference or as it is. -/
lemma css_ofText {p : Palette} (h : Palette.ofTokens ts .empty = .ok p) {c : Color}
    (hc : Color.ofText? text = some c) :
    ∃ css, p.css (ofText ts text) = .ok css ∧ Color.ofText? css = some c := by
  have hnormal : Color.normalize? text.trimmed = some c.css := by
    rw [Color.normalize?, ofText?_trimmed, hc, Option.map_some]
  rw [ofText, ofTextWithin]
  simp only [reference?_of_color hc, hnormal, Option.bind_some]
  split
  · next name hname =>
    refine ⟨c.css, ?_, Color.ofText?_css c⟩
    rw [Palette.css, resolve_of_tokenWith h hname]
    rfl
  · exact ⟨text.trimmed, rfl, (ofText?_trimmed text).trans hc⟩

/-- **Colours keep their meaning as paints.** Without replacements the text of a colour becomes a
paint whose text writes the same colour. A nested reference of any depth becomes a reference to the
first of its names that is declared, or what its last fallback becomes if none is. Each fallback is
shorter than the text that it stands in, so the bound on their number is never reached, and a paint
refers to declared tokens only. -/
theorem ofText_keeps_color (ts : Tokens) :
    (∀ raw c, Color.ofText? raw = some c → ∃ p css, Palette.ofTokens ts .empty = .ok p ∧
      p.css (ofText ts raw) = .ok css ∧ Color.ofText? css = some c) ∧
    (∀ names last, (∀ name ∈ names, name ≠ "" ∧ ∀ c ∈ name.toList, isNameChar c = true) →
      last.isBlank = false → '\n' ∉ last.toList →
      ofText ts (nested names last) = match names.find? ts.contains with
        | some name => .token name
        | none => ofText ts last) ∧
    (∀ text name fallback, reference? text = some (name, some fallback) →
      fallback.length < text.length) ∧
    (∀ text n, text.length < n → ofTextWithin ts n text = ofText ts text) ∧
    (∀ text name, ofText ts text = .token name → ts.contains name = true) := by
  refine ⟨fun raw c hc => ?color, fun names last hnames hlast hline =>
    ofText_nested hnames hlast hline, fun text name fallback h => length_fallback h,
    fun text n h => ofText_eq h, fun text name h => ?declared⟩
  case color =>
    have hp : Palette.ofTokens ts .empty = .ok ⟨ts, .ofList []⟩ := rfl
    obtain ⟨css, hcss, hsame⟩ := css_ofText hp hc
    exact ⟨_, css, hp, hcss, hsame⟩
  case declared =>
    have hdeclared : (ofText ts text).Declared ts := declared_ofText text
    rw [h] at hdeclared
    cases hdeclared with
    | token ht => exact Table.contains_iff.2 ⟨_, ht⟩

theorem ofText_keeps_color_tinted :
    Color.ofText? " RGB(16, 32, 48)" = some ⟨16, 32, 48, 255⟩ ∧
      ofText Palette.tintedTokens " RGB(16, 32, 48)" = .token "primary" ∧
      (∃ p css, Palette.ofTokens Palette.tintedTokens .empty = .ok p ∧
        p.css (ofText Palette.tintedTokens " RGB(16, 32, 48)") = .ok css ∧
        Color.ofText? css = some ⟨16, 32, 48, 255⟩) ∧
      ofText Palette.tintedTokens "var(--brand, var(--light, #fff))" = .token "light" := by
  have hcolor : Color.ofText? " RGB(16, 32, 48)" = some ⟨16, 32, 48, 255⟩ := by decide +kernel
  obtain ⟨hkept, hnested, -⟩ := ofText_keeps_color Palette.tintedTokens
  refine ⟨hcolor, by decide +kernel, hkept _ _ hcolor, ?_⟩
  have hlight : ["brand", "light"].find? Palette.tintedTokens.contains = some "light" := by
    decide +kernel
  have hnames := hnested ["brand", "light"] "#fff" (by simp [isNameChar]) (by decide +kernel)
    (by decide +kernel)
  rw [hlight] at hnames
  exact hnames

end VisualTemplate.Paint
