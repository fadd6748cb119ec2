import VisualTemplate.Proofs.Json.NumberText
import VisualTemplate.Proofs.Markup.Addresses
/-!
Style sheets as they are written.

Numbers, lengths and words have no bracket in them, and the colours of tokens none behind `url`. So
whether a declaration or the rule of a font stays inside is a matter of the few texts that it takes
over from its node or its font.
-/

namespace VisualTemplate

namespace Document

/-! ### Bare texts -/

/-- A mark that begins an address or a tag. -/
def isOpener (c : Char) : Bool := c == '(' || c == '<' || c == '>'

/-- A text without such a mark. -/
def isBare (s : String) : Bool := s.toList.all (!isOpener ·)

lemma isBare_append {s t : String} : isBare (s ++ t) = (isBare s && isBare t) := by
  simp [isBare]

lemma staysInner_of_isBare {s : String} (h : isBare s = true) : staysInner s.toList = true := by
  rw [isBare, List.all_eq_true] at h
  exact staysInner_of_notMem fun hmem => absurd (h _ hmem) (by decide)

lemma isBare_of_isNumberChar {s : String}
    (h : ∀ c ∈ s.toList, Decimal.isNumberChar c = true) : isBare s = true := by
  rw [isBare, List.all_eq_true]
  intro c hc
  have hnumber := h c hc
  cases hopener : isOpener c with
  | false => rfl
  | true =>
    simp only [isOpener, Bool.or_eq_true, beq_iff_eq] at hopener
    rcases hopener with (rfl | rfl) | rfl <;> exact absurd hnumber (by decide)

end Document

open Document

@[simp] lemma isBare_plain (x : Float32) : isBare x.plain = true := by
  unfold Float32.plain
  cases x.binary with
  | nan => decide
  | infinite negative => cases negative <;> decide
  | finite negative m e =>
    exact isBare_of_isNumberChar (Decimal.chars_text_finite .plain negative m e).2

lemma isBare_toString (n : ℕ) : isBare (toString n) = true :=
  isBare_of_isNumberChar fun _ hc => Decimal.isNumberChar_of_mem_digitsOf hc

@[simp] lemma Length.isBare_css (l : Length) : isBare l.css = true := by
  cases l with
  | px x => rw [css, isBare_append, isBare_plain]; decide
  | percent x => rw [css, isBare_append, isBare_plain]; decide
  | auto => decide

lemma Base64.isBare_encode (bytes : List UInt8) : isBare (encode bytes) = true := by
  have hdigit (n : ℕ) : isOpener (Base64.digit n) = false := by
    have hsmall : ∀ n < 63, isOpener (Base64.digit n) = false := by decide
    rcases Nat.lt_or_ge n 63 with hn | hn
    · exact hsmall n hn
    · rw [Base64.digit, if_neg (by omega), if_neg (by omega), if_neg (by omega), if_neg (by omega)]
      decide
  have hpad : isOpener '=' = false := by decide
  rw [isBare, encode, String.toList_ofList]
  fun_induction encodeChars bytes <;> simp_all

namespace Document

@[simp] lemma isBare_px (x : Float32) : isBare (px x) = true := by
  rw [px, isBare_append, isBare_plain]
  decide

end Document

@[simp] lemma Insets.isBare_css (i : Insets) : isBare i.css = true := by
  have hpx (x : Float32) : (x.plain ++ "px").toList.all (!isOpener ·) = true := isBare_px x
  have hspace : " ".toList.all (!isOpener ·) = true := by decide
  simp only [isBare, css, String.toList_intercalate, List.map_cons, List.map_nil,
    List.intercalate_cons_cons, List.intercalate_singleton, List.all_append, hpx, hspace,
    Bool.and_self]

@[simp] lemma FlexDirection.isBare_word (d : FlexDirection) : isBare d.word = true := by
  cases d <;> decide

@[simp] lemma TextAlign.isBare_word (a : TextAlign) : isBare a.word = true := by
  cases a <;> decide

@[simp] lemma ObjectFit.isBare_word (f : ObjectFit) : isBare f.word = true := by
  cases f <;> decide

@[simp] lemma BoxSizing.isBare_word (b : BoxSizing) : isBare b.word = true := by
  cases b <;> decide

@[simp] lemma Document.isBare_justifyCss (j : Justify) : isBare (justifyCss j) = true := by
  cases j <;> decide

@[simp] lemma Document.isBare_alignCss (a : Align) : isBare (alignCss a) = true := by
  cases a <;> decide

lemma Asset.dataUri_eq (a : Asset) :
    a.dataUri = "data:" ++ a.mime ++ ";base64," ++ Base64.encode a.data := rfl

/-- The text of a colour holds no address. -/
lemma Color.staysInner_css (k : Color) : staysInner k.css.toList = true := by
  rw [css]
  split
  · have hdigit : ∀ n < 16, Nat.digitChar n ≠ '(' := by decide
    have hbyte (n : UInt8) : '(' ∉ hexByte n := by
      have hn := n.toNat_lt
      simp only [hexByte, List.mem_cons, List.not_mem_nil, or_false, not_or]
      exact ⟨(hdigit _ (by omega)).symm, (hdigit _ (by omega)).symm⟩
    refine staysInner_of_notMem ?_
    simp [hbyte]
  · have hfront : ∀ c ∈ "rgba(".toList, c.toLower ≠ 'u' := by simp
    have hnumbers : isBare (toString k.r.toNat ++ "," ++ toString k.g.toNat ++ "," ++
        toString k.b.toNat ++ "," ++ (alphaShare k.a).plain ++ ")") = true := by
      simp only [isBare_append, isBare_toString, isBare_plain]
      decide
    have hrgba := (staysInner_behind hfront _).trans (staysInner_of_isBare hnumbers)
    have hself (s : String) : toString s = s := rfl
    simpa only [hself, String.toList_append, List.append_assoc] using hrgba

namespace Document

/-! ### Declarations -/

/-- A list of declarations stays inside just when their values do. -/
lemma staysInner_text {s : Style} (h : ∀ d ∈ s, isBare d.1 = true) :
    staysInner s.text.toList = s.all fun d => staysInner d.2.toList := by
  have hdeclaration : ∀ d ∈ s, staysInner (d.1 ++ ":" ++ d.2).toList = staysInner d.2.toList := by
    intro d hd
    have hname : '(' ∉ d.1.toList := fun hmem =>
      absurd (List.all_eq_true.1 (h d hd) _ hmem) (by decide)
    rw [String.toList_append, String.toList_append, List.append_assoc]
    exact staysInner_property hname d.2.toList
  have hsemicolon : ";".toList = [';'] := by decide
  rw [Style.text, String.toList_intercalate, hsemicolon, staysInner_intercalate, List.all_map,
    List.all_map, Bool.eq_iff_iff, List.all_eq_true, List.all_eq_true]
  exact forall₂_congr fun d hd => by rw [← hdeclaration d hd]; rfl

/-- None of the texts has an address of something outside. -/
def allInner (texts : List String) : Bool := texts.all fun t => staysInner t.toList

@[simp] lemma allInner_singleton (text : String) : allInner [text] = staysInner text.toList :=
  Bool.and_true _

@[simp] lemma allInner_append (texts texts' : List String) :
    allInner (texts ++ texts') = (allInner texts && allInner texts') := List.all_append

/-- Declarations stay inside just when the texts do that they take over. -/
structure Takes (s : Style) (texts : List String) : Prop where
  names : ∀ d ∈ s, isBare d.1 = true
  values : (s.all fun d => staysInner d.2.toList) = allInner texts

section

variable {s t : Style} {texts texts' : List String} {name value : String}

lemma Takes.staysInner_text (h : Takes s texts) :
    staysInner s.text.toList = allInner texts := by
  rw [Document.staysInner_text h.names, h.values]

lemma takes_nil : Takes [] [] := ⟨by simp, rfl⟩

lemma Takes.append (h : Takes s texts) (h' : Takes t texts') :
    Takes (s ++ t) (texts ++ texts') := by
  refine ⟨List.forall_mem_append.2 ⟨h.names, h'.names⟩, ?_⟩
  rw [List.all_append, h.values, h'.values, allInner_append]

/-- Declarations of words and numbers take over nothing. -/
lemma takes_bare (h : ∀ d ∈ s, isBare d.1 = true ∧ isBare d.2 = true) : Takes s [] := by
  refine ⟨fun d hd => (h d hd).1, List.all_eq_true.2 fun d hd => ?_⟩
  exact staysInner_of_isBare (h d hd).2

lemma Takes.single (hname : isBare name = true)
    (hvalue : staysInner value.toList = allInner texts) : Takes [(name, value)] texts := by
  refine ⟨by simpa using hname, ?_⟩
  rw [List.all_cons, hvalue, List.all_nil, Bool.and_true]

lemma takes_placed (h : Head) : Takes (placed h) [] := by
  unfold placed
  cases h.position with
  | none => exact takes_nil
  | some p => exact takes_bare (by simp +decide)

lemma takes_sized (width height : Length) : Takes (sized width height) [] := by
  unfold sized
  refine takes_bare fun d hd => ?_
  rcases List.mem_append.1 hd with hd | hd
  all_goals
    split at hd
    · exact absurd hd List.not_mem_nil
    · rw [List.mem_singleton.1 hd]
      simp +decide

lemma takes_inset (hname : isBare name = true) (i : Insets) : Takes (inset name i) [] := by
  unfold inset
  split
  · exact takes_nil
  · exact takes_bare (by simp [hname])

lemma takes_overflowing (o : Overflow) : Takes (overflowing o) [] := by
  unfold overflowing
  split
  · exact takes_bare (by simp +decide)
  · exact takes_nil

lemma takes_boxSized (b : Option BoxSizing) : Takes (boxSized b) [] := by
  unfold boxSized
  cases b with
  | none => exact takes_nil
  | some b => exact takes_bare (by simp +decide)

end

end Document

/-- The text of a paint that no token stands for. -/
def Paint.literals : Paint → List String
  | .literal text => [text]
  | .token _ => []

/-- The texts that the style of a container takes over: a background without a token. -/
def Layout.literals : Layout → List String
  | .frame f => f.background.toList.flatMap (·.literals)
  | .flex f => f.background.toList.flatMap (·.literals)
  | .box b => b.background.toList.flatMap (·.literals)

namespace Document

section

variable {p : Palette} {style : Style}

lemma staysInner_paint {paint : Paint} {text : String} (h : p.css paint = .ok text) :
    staysInner text.toList = allInner paint.literals := by
  cases paint with
  | literal text' =>
    rw [← Except.ok.inj h, Paint.literals, allInner_singleton]
  | token name =>
    rw [Palette.css] at h
    cases hk : p.resolve name with
    | error e =>
      rw [hk] at h
      cases h
    | ok k =>
      rw [hk] at h
      rw [← Except.ok.inj h, k.staysInner_css]
      rfl

lemma takes_background {paint : Option Paint} (h : background p paint = .ok style) :
    Takes style (paint.toList.flatMap (·.literals)) := by
  cases paint with
  | none =>
    rw [← Except.ok.inj h]
    exact takes_nil
  | some paint =>
    obtain ⟨text, htext, h⟩ := Except.bind_eq_ok_iff.1 h
    rw [← Except.ok.inj h, Option.toList_some, List.flatMap_singleton]
    exact .single (by decide) (staysInner_paint htext)

/-- The style of a container takes over its background only. -/
lemma takes_layoutStyle {h : Head} {l : Layout} (hl : layoutStyle p h l = .ok style) :
    Takes style l.literals := by
  have hpadding (i : Insets) : Takes (inset "padding" i) [] := takes_inset (by decide) i
  cases l with
  | frame f =>
    obtain ⟨paint, hpaint, hl⟩ := Except.bind_eq_ok_iff.1 hl
    rw [← Except.ok.inj hl]
    have hsize : Takes [("position", "relative"), ("width", px f.width.toFloat32),
        ("height", px f.height.toFloat32), ("overflow", "hidden"),
        ("box-sizing", "border-box")] [] := takes_bare (by simp +decide)
    exact (hsize.append (hpadding f.padding)).append (takes_background hpaint)
  | flex f =>
    obtain ⟨paint, hpaint, hl⟩ := Except.bind_eq_ok_iff.1 hl
    rw [← Except.ok.inj hl]
    have hflow : Takes [("display", "flex"), ("flex-direction", f.direction.word),
        ("justify-content", justifyCss f.justify), ("align-items", alignCss f.align)] [] :=
      takes_bare (by simp +decide)
    have hgap : Takes (if f.gap == 0 then [] else [("gap", px f.gap)]) [] := by
      split
      · exact takes_nil
      · exact takes_bare (by simp +decide)
    have hfront := ((((takes_placed h).append hflow).append hgap).append
      (takes_sized f.width f.height)).append (hpadding f.padding)
    have hback := (takes_overflowing f.overflow).append (takes_boxSized f.boxSizing)
    simpa [Layout.literals] using (hfront.append (takes_background hpaint)).append hback
  | box b =>
    obtain ⟨paint, hpaint, hl⟩ := Except.bind_eq_ok_iff.1 hl
    rw [← Except.ok.inj hl]
    have hblock : Takes [("display", "block")] [] := takes_bare (by simp +decide)
    have hfront := (((takes_placed h).append hblock).append (takes_sized b.width b.height)).append
      (hpadding b.padding)
    have hback := (takes_overflowing b.overflow).append (takes_boxSized b.boxSizing)
    simpa [Layout.literals] using (hfront.append (takes_background hpaint)).append hback

end

/-! ### Fonts -/

/-- A text in single quotes stays inside just when the text does. -/
lemma staysInner_quoted (s : String) :
    staysInner ("'" ++ s ++ "'").toList = staysInner s.toList := by
  have hquote : "'".toList = ['\''] := by decide
  rw [String.toList_append, String.toList_append, hquote, staysInner_concat (by decide),
    List.singleton_append, staysInner_cons (by decide)]

/-- The style of a text takes over the family of its font and, as it may be, its colour. -/
lemma takes_textStyle (h : Head) (t : TextLeaf) {color : String} {texts : List String}
    (hcolor : staysInner color.toList = allInner texts) :
    Takes (placed h ++ sized t.width t.height ++ inset "margin" t.margin
      ++ [("font-family", "'" ++ withoutQuotes t.font.family ++ "'"),
        ("font-size", px t.font.size), ("font-weight", toString t.font.weight.toNat)]
      ++ (match t.font.lineHeight with | some x => [("line-height", px x)] | none => [])
      ++ [("text-align", t.align.word), ("color", color)])
      (withoutQuotes t.font.family :: texts) := by
  have hfamily : Takes [("font-family", "'" ++ withoutQuotes t.font.family ++ "'")]
      [withoutQuotes t.font.family] :=
    .single (by decide) (by rw [staysInner_quoted, allInner_singleton])
  have hfont : Takes [("font-size", px t.font.size),
      ("font-weight", toString t.font.weight.toNat)] [] :=
    takes_bare (by simpa +decide using isBare_toString t.font.weight.toNat)
  have hline : Takes
      (match t.font.lineHeight with | some x => [("line-height", px x)] | none => []) [] := by
    cases t.font.lineHeight with
    | none => exact takes_nil
    | some x => exact takes_bare (by simp +decide)
  have halign : Takes [("text-align", t.align.word)] [] := takes_bare (by simp +decide)
  have hcolored : Takes [("color", color)] texts := .single (by decide) hcolor
  have hmargin : Takes (inset "margin" t.margin) [] := takes_inset (by decide) t.margin
  have hfront := ((takes_placed h).append (takes_sized t.width t.height)).append hmargin
  simpa using (((hfront.append hfamily).append hfont).append hline).append
    (halign.append hcolored)

/-- The texts that the rule of a font takes over. -/
def ruleTexts (f : FontFace) (a : Asset) : List String := [withoutQuotes f.family, f.style, a.mime]

/-- The rule of a font, cut where its parts end. -/
lemma fontRule_append (f : FontFace) (a : Asset) (rest : List Char) :
    (fontRule f a).toList ++ rest =
    ("@font-face\x7bfont-family:".toList ++ ("'" ++ withoutQuotes f.family ++ "'").toList) ++ ';' ::
    (("font-weight:" ++ toString f.weight.toNat).toList ++ ';' ::
    (("font-style".toList ++ ':' :: f.style.toList) ++ ';' ::
    (("src:".toList ++ 'u' :: 'r' :: 'l' :: '(' :: ("data:".toList ++ a.mime.toList)) ++ ';' ::
    (("base64," ++ Base64.encode a.data).toList ++ ')' ::
    ((" format(".toList ++ ("'" ++ fontFormat a.mime ++ "')").toList) ++ '\x7d' :: rest))))) := by
  have hfamily : "@font-face\x7bfont-family:'".toList =
      "@font-face\x7bfont-family:".toList ++ "'".toList := by simp
  have hweight : "';font-weight:".toList = "'".toList ++ ';' :: "font-weight:".toList := by simp
  have hstyle : ";font-style:".toList = ';' :: ("font-style".toList ++ [':']) := by simp
  have hsrc : ";src:url(".toList = ';' :: ("src:".toList ++ ['u', 'r', 'l', '(']) := by simp
  have hdata : ";base64,".toList = ';' :: "base64,".toList := by simp
  have hformat : ") format('".toList = ')' :: (" format(".toList ++ "'".toList) := by simp
  have hend : "')\x7d".toList = "')".toList ++ ['\x7d'] := by simp
  unfold fontRule
  simp only [Asset.dataUri_eq, String.toList_append, hfamily, hweight, hstyle, hsrc, hdata,
    hformat, hend, List.append_assoc, List.cons_append, List.nil_append]

/-- The rule of a font stays inside just when the texts do that it takes over. -/
lemma staysInner_fontRule (f : FontFace) (a : Asset) (rest : List Char) :
    staysInner ((fontRule f a).toList ++ rest) =
      (allInner (ruleTexts f a) && staysInner rest) := by
  have hface : ∀ c ∈ "@font-face\x7bfont-family:".toList, c.toLower ≠ 'u' := by simp
  have hweight : isBare ("font-weight:" ++ toString f.weight.toNat) = true := by
    rw [isBare_append, isBare_toString]
    decide
  have hstyle : '(' ∉ "font-style".toList := by simp
  have hsrc : ∀ c ∈ "src:".toList, c.toLower ≠ 'u' := by simp
  have hdata : startsInner ("data:".toList ++ a.mime.toList) = true := by
    simp [startsInner, isInner, isSheetBlank, unquoted, isQuote]
  have hscheme : ∀ c ∈ "data:".toList, c.toLower ≠ 'u' := by simp
  have hbytes : isBare ("base64," ++ Base64.encode a.data) = true := by
    rw [isBare_append, Base64.isBare_encode]
    decide
  have hformat : ∀ c ∈ " format(".toList, c.toLower ≠ 'u' := by simp
  have hname : isBare ("'" ++ fontFormat a.mime ++ "')") = true := by
    unfold fontFormat
    split_ifs <;> decide
  have hsemicolon (cs rest : List Char) :
      staysInner (cs ++ ';' :: rest) = (staysInner cs && staysInner rest) :=
    staysInner_append (by decide) (.inl (by decide)) cs
  have hbracket (cs rest : List Char) :
      staysInner (cs ++ ')' :: rest) = (staysInner cs && staysInner rest) :=
    staysInner_append (by decide) (.inl (by decide)) cs
  have hbrace (cs rest : List Char) :
      staysInner (cs ++ '\x7d' :: rest) = (staysInner cs && staysInner rest) :=
    staysInner_append (by decide) (.inl (by decide)) cs
  -- the rule has one address of its own, that of the font's data
  rw [fontRule_append, hsemicolon, hsemicolon, hsemicolon, hsemicolon, hbracket, hbrace,
    staysInner_behind hface, staysInner_quoted, staysInner_of_isBare hweight,
    staysInner_property hstyle, staysInner_behind hsrc, staysInner_url hdata,
    staysInner_behind hscheme, staysInner_of_isBare hbytes, staysInner_behind hformat,
    staysInner_of_isBare hname]
  simp [allInner, ruleTexts, Bool.and_assoc]

/-- The texts that the style sheet of the known fonts takes over. -/
def fontTexts (assets : AssetSource) (fs : List FontFace) : List String :=
  fs.flatMap fun f =>
    match assets f.asset with
    | some a => ruleTexts f a
    | none => []

lemma staysInner_fontRules (assets : AssetSource) (fs : List FontFace) (rest : List Char) :
    staysInner ((fontRules assets fs).1.toList ++ rest) =
      (allInner (fontTexts assets fs) && staysInner rest) := by
  induction fs with
  | nil => rfl
  | cons f fs ih =>
    rw [fontRules, fontTexts, List.flatMap_cons, ← fontTexts, allInner_append, Bool.and_assoc, ← ih]
    cases assets f.asset with
    | none => rfl
    | some a =>
      dsimp only
      rw [String.toList_append, List.append_assoc, staysInner_fontRule]

/-- The rule for the page itself. -/
def pageRule (canvas : Canvas) : String :=
  "html,body\x7bmargin:0;padding:0;width:" ++ px canvas.width.toFloat32 ++ ";height:"
    ++ px canvas.height.toFloat32 ++ ";overflow:hidden\x7d"

lemma isBare_pageRule (canvas : Canvas) : isBare (pageRule canvas) = true := by
  unfold pageRule
  simp only [isBare_append, isBare_px]
  decide

/-- A text without angle brackets. -/
def isTagless (s : String) : Bool := s.toList.all fun c => c != '<' && c != '>'

lemma isTagless_iff {s : String} : isTagless s = true ↔ '<' ∉ s.toList ∧ '>' ∉ s.toList := by
  rw [isTagless, List.all_eq_true]
  simp only [Bool.and_eq_true, bne_iff_ne]
  exact ⟨fun h => ⟨fun hc => (h _ hc).1 rfl, fun hc => (h _ hc).2 rfl⟩,
    fun h c hc => ⟨fun heq => h.1 (heq ▸ hc), fun heq => h.2 (heq ▸ hc)⟩⟩

lemma bracket_notMem_of_isBare {s : String} (h : isBare s = true) {c : Char}
    (hc : c = '<' ∨ c = '>') : c ∉ s.toList := by
  intro hmem
  have hopener := List.all_eq_true.1 h c hmem
  rcases hc with rfl | rfl
  · exact absurd hopener (by decide)
  · exact absurd hopener (by decide)

/-- The angle brackets in the rule of a font are those of the texts that it takes over. -/
lemma bracket_mem_fontRule {c : Char} (hc : c = '<' ∨ c = '>') (f : FontFace) (a : Asset) :
    c ∈ (fontRule f a).toList ↔ ∃ t ∈ ruleTexts f a, c ∈ t.toList := by
  have hweight := bracket_notMem_of_isBare (isBare_toString f.weight.toNat) hc
  have hbytes := bracket_notMem_of_isBare (Base64.isBare_encode a.data) hc
  have hformat : c ∉ (fontFormat a.mime).toList := by
    unfold fontFormat
    split_ifs
    all_goals exact bracket_notMem_of_isBare (by decide) hc
  have hfixed (s : String) (hs : '<' ∉ s.toList ∧ '>' ∉ s.toList) : c ∉ s.toList := by
    rcases hc with rfl | rfl
    · exact hs.1
    · exact hs.2
  unfold fontRule
  simp only [Asset.dataUri_eq, String.toList_append, List.mem_append, hweight, hbytes, hformat,
    hfixed "@font-face\x7bfont-family:'" (by decide), hfixed "';font-weight:" (by decide),
    hfixed ";font-style:" (by decide), hfixed ";src:url(" (by decide), hfixed "data:" (by decide),
    hfixed ";base64," (by decide), hfixed ") format('" (by decide), hfixed "')\x7d" (by decide),
    false_or, or_false, ruleTexts, List.mem_cons, List.not_mem_nil, exists_eq_or_imp,
    exists_eq_left, or_assoc]

lemma bracket_mem_fontRules {c : Char} (hc : c = '<' ∨ c = '>') (assets : AssetSource)
    (fs : List FontFace) :
    c ∈ (fontRules assets fs).1.toList ↔ ∃ t ∈ fontTexts assets fs, c ∈ t.toList := by
  induction fs with
  | nil => simp [fontRules, fontTexts]
  | cons f fs ih =>
    rw [fontRules, fontTexts, List.flatMap_cons, ← fontTexts]
    cases assets f.asset with
    | none => exact ih
    | some a =>
      dsimp only
      rw [String.toList_append, List.mem_append, bracket_mem_fontRule hc, ih]
      simp only [List.mem_append, or_and_right, exists_or]

lemma isTagless_fontRules {assets : AssetSource} {fs : List FontFace}
    (h : ∀ t ∈ fontTexts assets fs, isTagless t = true) :
    isTagless (fontRules assets fs).1 = true := by
  rw [isTagless_iff, bracket_mem_fontRules (.inl rfl), bracket_mem_fontRules (.inr rfl)]
  refine ⟨?_, ?_⟩
  all_goals
    rintro ⟨t, ht, hmem⟩
    have hnone := isTagless_iff.1 (h t ht)
  · exact hnone.1 hmem
  · exact hnone.2 hmem

end Document

end VisualTemplate
