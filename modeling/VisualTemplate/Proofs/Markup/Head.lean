import VisualTemplate.Proofs.Markup.SelfContained
/-!
What stands before the body of a document.

Any text is scanned for its tags here: a `<` begins one and the next `>` ends it, whatever stands
between them. The language and the title of a document are escaped, the texts of its fonts are not.
So the head has its own tags and no others just when none of these texts has a `<`.
-/

namespace VisualTemplate.Document

/-! ### Scanning -/

/-- The tags and characters of a text. Inside a tag, what stands in it so far is given, last first.
A tag that does not end is left out. -/
def scan : Option (List Char) → List Char → List Piece
  | _, [] => []
  | none, c :: cs => if c = '<' then scan (some []) cs else .char c :: scan none cs
  | some inner, c :: cs =>
    if c = '>' then .tag inner.reverse :: scan none cs else scan (some (c :: inner)) cs

/-- What stands in the tags of a text. -/
def tagTexts : List Piece → List (List Char)
  | [] => []
  | .char _ :: ps => tagTexts ps
  | .tag inner :: ps => inner :: tagTexts ps

/-- The characters between the first such tag and the one that follows it. -/
def contentOf (tag : List Char) : List Piece → Option (List Char)
  | [] => none
  | .char _ :: ps => contentOf tag ps
  | .tag inner :: ps => if inner = tag then some (leadingChars ps) else contentOf tag ps

section

variable {cs t inner : List Char} {ps : List Piece} {place : Option (List Char)}

/-- A text that can be cut is scanned to the same pieces, whatever follows it. -/
lemma scan_of_cutPieces (h : cutPieces place cs = some ps) (rest : List Char) :
    scan place (cs ++ rest) = ps ++ scan none rest := by
  fun_induction cutPieces place cs generalizing ps with
  | case1 =>
    obtain rfl := Option.some.inj h
    rfl
  | case2 => cases h
  | case3 cs ih => rw [List.cons_append, scan, if_pos rfl, ih h]
  | case4 => cases h
  | case5 c cs hlt hgt ih =>
    obtain ⟨ps', hps', rfl⟩ := Option.map_eq_some_iff.1 h
    rw [List.cons_append, scan, if_neg hlt, ih hps', List.cons_append]
  | case6 inner cs ih =>
    obtain ⟨ps', hps', rfl⟩ := Option.map_eq_some_iff.1 h
    rw [List.cons_append, scan, if_pos rfl, ih hps', List.cons_append]
  | case7 => cases h
  | case8 inner c cs hgt hlt ih => rw [List.cons_append, scan, if_neg hgt, ih h]

lemma tagTexts_append (ps ps' : List Piece) :
    tagTexts (ps ++ ps') = tagTexts ps ++ tagTexts ps' := by
  fun_induction tagTexts ps with
  | case1 => rfl
  | case2 c ps ih => rw [List.cons_append, tagTexts, ih]
  | case3 inner ps ih => rw [List.cons_append, tagTexts, ih, List.cons_append]

lemma tagTexts_chars (cs : List Char) : tagTexts (cs.map .char) = [] := by
  induction cs with
  | nil => rfl
  | cons c cs ih => rw [List.map_cons, tagTexts, ih]

/-- Pieces without the tag have no part in what is read behind it. -/
lemma contentOf_append {tag : List Char} (h : tag ∉ tagTexts ps) (rest : List Piece) :
    contentOf tag (ps ++ rest) = contentOf tag rest := by
  fun_induction tagTexts ps with
  | case1 => rfl
  | case2 c ps ih => rw [List.cons_append, contentOf, ih h]
  | case3 inner ps ih =>
    rw [List.mem_cons, not_or] at h
    rw [List.cons_append, contentOf, if_neg (Ne.symm h.1), ih h.2]

lemma contentOf_cons (tag : List Char) (ps : List Piece) :
    contentOf tag (.tag tag :: ps) = some (leadingChars ps) := if_pos rfl

/-! ### A tag behind any text -/

lemma scan_inner (hgt : '>' ∉ t) (inner rest : List Char) :
    scan (some inner) (t ++ '>' :: rest) = .tag (inner.reverse ++ t) :: scan none rest := by
  induction t generalizing inner with
  | nil => rw [List.nil_append, scan, if_pos rfl, List.append_nil]
  | cons c t ih =>
    rw [List.mem_cons, not_or] at hgt
    rw [List.cons_append, scan, if_neg (Ne.symm hgt.1), ih hgt.2]
    simp

/-- Inside a tag, another one belongs to it. -/
lemma scan_inner_bracketed (hgt : '>' ∉ t) (inner rest : List Char) :
    scan (some inner) (bracketed t ++ rest) =
      .tag (inner.reverse ++ '<' :: t) :: scan none rest := by
  rw [bracketed, List.cons_append, List.append_assoc, List.singleton_append, ← List.cons_append]
  exact scan_inner (by simpa using hgt) inner rest

lemma scan_bracketed (hgt : '>' ∉ t) (rest : List Char) :
    scan none (bracketed t ++ rest) = .tag t :: scan none rest := by
  rw [bracketed, List.cons_append, List.append_assoc, List.singleton_append, scan, if_pos rfl,
    scan_inner hgt, List.reverse_nil, List.nil_append]

/-- A tag adds one at least to those behind it, wherever it stands. -/
lemma length_tagTexts_lt (hgt : '>' ∉ t) (place : Option (List Char)) (cs rest : List Char) :
    (tagTexts (scan none rest)).length <
      (tagTexts (scan place (cs ++ (bracketed t ++ rest)))).length := by
  induction cs generalizing place with
  | nil =>
    rw [List.nil_append]
    cases place with
    | none => simp [scan_bracketed hgt, tagTexts]
    | some inner => simp [scan_inner_bracketed hgt, tagTexts]
  | cons c cs ih =>
    rw [List.cons_append]
    cases place with
    | none =>
      rw [scan]
      split
      · exact ih _
      · exact ih _
    | some inner =>
      rw [scan]
      split
      · exact (ih none).trans (Nat.lt_succ_self _)
      · exact ih _

/-- Inside a tag, the next one is never the first that is read. -/
lemma tagTexts_inner_ne (hgt : '>' ∉ t) (inner cs rest : List Char) :
    tagTexts (scan (some inner) (cs ++ (bracketed t ++ rest))) ≠
      t :: tagTexts (scan none rest) := by
  induction cs generalizing inner with
  | nil =>
    rw [List.nil_append, scan_inner_bracketed hgt, tagTexts]
    intro heq
    have hlength := congrArg List.length (List.cons.inj heq).1
    rw [List.length_append, List.length_cons] at hlength
    omega
  | cons c cs ih =>
    rw [List.cons_append, scan]
    split
    · intro heq
      have hmore := length_tagTexts_lt hgt none cs rest
      rw [(List.cons.inj heq).2] at hmore
      exact lt_irrefl _ hmore
    · exact ih _

/-- A tag is the first that is read behind a text just when no tag begins in the text. -/
lemma tagTexts_eq_cons_iff (hgt : '>' ∉ t) (cs rest : List Char) :
    tagTexts (scan none (cs ++ (bracketed t ++ rest))) = t :: tagTexts (scan none rest) ↔
      '<' ∉ cs := by
  induction cs with
  | nil => simp [scan_bracketed hgt, tagTexts]
  | cons c cs ih =>
    rw [List.cons_append, scan, List.mem_cons, not_or]
    split
    · next hlt => exact iff_of_false (tagTexts_inner_ne hgt [] cs rest) fun h => h.1 hlt.symm
    · next hlt => exact ih.trans (and_iff_right (Ne.symm hlt)).symm

/-- A text in which no tag begins is scanned to its characters. -/
lemma scan_chars (hlt : '<' ∉ cs) (rest : List Char) :
    scan none (cs ++ rest) = cs.map .char ++ scan none rest := by
  induction cs with
  | nil => rfl
  | cons c cs ih =>
    rw [List.mem_cons, not_or] at hlt
    rw [List.cons_append, scan, if_neg (Ne.symm hlt.1), ih hlt.2, List.map_cons, List.cons_append]

end

/-! ### Pages -/

section

variable {lang title css body : String} {canvas : Canvas}

/-- A page from its beginning to the tag of its title. -/
def openingPieces (lang : String) : List Piece :=
  [.tag "!DOCTYPE html".toList, .tag ("html".toList ++ attributesChars [("lang", lang)]),
    .tag "head".toList, .tag ("meta".toList ++ attributesChars [("charset", "utf-8")])]

def titlePieces (title : String) : List Piece :=
  .tag "title".toList :: ((title.toList.flatMap textChar).map .char ++ [.tag "/title".toList])

/-- A page from its beginning to the tag of its style sheet. -/
def frontPieces (lang title : String) : List Piece :=
  openingPieces lang ++ titlePieces title ++ [.tag "style".toList]

/-- Whatever the data is, a page begins with the same tags, and then comes its style sheet. -/
lemma scan_page : scan none (page lang title css canvas body).toList =
    frontPieces lang title ++ scan none ((css ++ pageRule canvas).toList ++
      (bracketed "/style".toList ++ (bracketed "/head".toList ++ (bracketed "body".toList ++
        (body.toList ++ (bracketed "/body".toList ++ bracketed "/html".toList)))))) := by
  have hlang : '>' ∉ "html".toList ++ attributesChars [("lang", lang)] :=
    (bracket_notMem_tag (by decide) (by simp +decide)).2
  have hslash (tag : String) : '/' :: tag.toList = ("/" ++ tag).toList := by simp
  rw [toList_page]
  simp only [List.append_assoc, hslash]
  rw [scan_bracketed (by decide), scan_bracketed hlang, scan_bracketed (by decide),
    scan_bracketed (by decide), scan_bracketed (by decide), scan_chars (bracket_notMem_line _).1,
    scan_bracketed (by decide), scan_bracketed (by decide)]
  simp [frontPieces, openingPieces, titlePieces]

/-- The tags from the beginning of a page to that of its style sheet. -/
def frontTags (lang : String) : List (List Char) :=
  ["!DOCTYPE html".toList, "html".toList ++ attributesChars [("lang", lang)], "head".toList,
    "meta".toList ++ attributesChars [("charset", "utf-8")], "title".toList, "/title".toList,
    "style".toList]

lemma tagTexts_titlePieces (title : String) :
    tagTexts (titlePieces title) = ["title".toList, "/title".toList] := by
  rw [titlePieces, tagTexts, tagTexts_append, tagTexts_chars]
  rfl

lemma tagTexts_frontPieces (lang title : String) :
    tagTexts (frontPieces lang title) = frontTags lang := by
  rw [frontPieces, tagTexts_append, tagTexts_append, tagTexts_titlePieces]
  rfl

/-- The second tag gives the language as it is. -/
lemma readTag_lang (lang : String) :
    (frontTags lang)[1]?.bind readTag = some (.opening "html" [("lang", lang)]) :=
  readTag_open (by decide) (by simp +decide)

lemma notMem_openingPieces {tag : List Char}
    (h : tag ∉ ["!DOCTYPE html".toList, "head".toList,
      "meta".toList ++ attributesChars [("charset", "utf-8")]])
    (hhtml : tag.head? ≠ some 'h') : tag ∉ tagTexts (openingPieces lang) := by
  simp only [List.mem_cons, List.not_mem_nil, or_false, not_or] at h
  simp only [openingPieces, tagTexts, List.mem_cons, List.not_mem_nil, or_false, not_or]
  refine ⟨h.1, ?_, h.2⟩
  rintro rfl
  exact hhtml rfl

lemma contentOf_title (rest : List Piece) :
    contentOf "title".toList (frontPieces lang title ++ rest) =
      some (title.toList.flatMap textChar) := by
  rw [frontPieces, titlePieces, List.append_assoc, List.append_assoc,
    contentOf_append (notMem_openingPieces (by decide) (by decide)), List.cons_append,
    contentOf_cons, List.append_assoc, List.singleton_append, leadingChars_append]

lemma contentOf_style (rest : List Piece) :
    contentOf "style".toList (frontPieces lang title ++ rest) = some (leadingChars rest) := by
  have htitle : "style".toList ∉ tagTexts (titlePieces title) := by
    rw [tagTexts_titlePieces]
    decide
  rw [frontPieces, List.append_assoc, List.append_assoc,
    contentOf_append (notMem_openingPieces (by decide) (by decide)), contentOf_append htitle,
    List.singleton_append, contentOf_cons]

/-- The head of a page has its own tags and no others before those of the body, and the style sheet
stands in its element as a whole. -/
structure HeadClosed (lang sheet body html : String) : Prop where
  tags : tagTexts (scan none html.toList) =
    frontTags lang ++ ["/style".toList, "/head".toList, "body".toList] ++
      tagTexts (scan none body.toList) ++ ["/body".toList, "/html".toList]
  sheet : contentOf "style".toList (scan none html.toList) = some sheet.toList

/-- Around a body with its own tags, a head is closed just when no tag begins in its style sheet. -/
lemma headClosed_iff {ps : List Piece} (hbody : cutPieces none body.toList = some ps) :
    HeadClosed lang (css ++ pageRule canvas) body (page lang title css canvas body) ↔
      '<' ∉ css.toList := by
  have hsheet : '<' ∉ (css ++ pageRule canvas).toList ↔ '<' ∉ css.toList := by
    have hrule := bracket_notMem_of_isBare (isBare_pageRule canvas) (.inl rfl)
    simp [hrule]
  have hback : tagTexts (scan none (bracketed "/head".toList ++ (bracketed "body".toList ++
      (body.toList ++ (bracketed "/body".toList ++ bracketed "/html".toList))))) =
      "/head".toList :: "body".toList ::
        (tagTexts (scan none body.toList) ++ ["/body".toList, "/html".toList]) := by
    have halone : scan none body.toList = ps := by simpa [scan] using scan_of_cutPieces hbody []
    rw [scan_bracketed (by decide), scan_bracketed (by decide), scan_of_cutPieces hbody,
      scan_bracketed (by decide), ← List.append_nil (bracketed "/html".toList),
      scan_bracketed (by decide), halone]
    simp [tagTexts, tagTexts_append, scan]
  have htags : tagTexts (scan none (page lang title css canvas body).toList) =
      frontTags lang ++ ["/style".toList, "/head".toList, "body".toList] ++
        tagTexts (scan none body.toList) ++ ["/body".toList, "/html".toList] ↔
      '<' ∉ css.toList := by
    rw [scan_page, tagTexts_append, tagTexts_frontPieces, List.append_assoc, List.append_assoc,
      List.append_cancel_left_eq, ← hsheet,
      ← tagTexts_eq_cons_iff (t := "/style".toList) (by decide), hback]
    rfl
  refine ⟨fun h => htags.1 h.tags, fun h => ⟨htags.2 h, ?_⟩⟩
  rw [scan_page, contentOf_style, scan_chars (hsheet.2 h), scan_bracketed (by decide),
    leadingChars_append]

end

/-! ### Compiled documents -/

variable {config : CompileConfig} {s : Schema} {r : FillRequest} {assets : AssetSource}
  {d : Document}

/-- The head of a compiled document is closed just when no tag begins in the style sheet of its
fonts. -/
lemma headClosed_compiled (hd : compile config s r assets = .ok d) :
    ∃ body views, d.html = page config.lang s.title (fontsCss config assets) s.canvas body ∧
      readMarkup body = some views ∧
      (HeadClosed config.lang (fontsCss config assets ++ pageRule s.canvas) body d.html ↔
        '<' ∉ (fontsCss config assets).toList) := by
  obtain ⟨nodes, body, views, -, hhtml, hread, -, -⟩ := exists_body hd
  obtain ⟨ps, hcut, -⟩ := Option.bind_eq_some_iff.1 hread
  refine ⟨body, views, hhtml, hread, ?_⟩
  rw [hhtml]
  exact headClosed_iff hcut

/-- **When data stays inside the head.** Let a document be compiled without a style sheet of its
own. Its language and its title are read back as they are, and its body has properly nested tags.
Before those of the body there are the tags of the head and no others, and the style sheet stands
in its element as a whole, just when no embedded font has a `<` in its family, its style or its
media type. -/
theorem head_closed_iff (hd : compile config s r assets = .ok d) (hcss : config.fontCss = none) :
    ∃ body views, d.html = page config.lang s.title (fontsCss config assets) s.canvas body ∧
      readMarkup body = some views ∧
      (tagTexts (scan none d.html.toList))[1]?.bind readTag =
        some (.opening "html" [("lang", config.lang)]) ∧
      (contentOf "title".toList (scan none d.html.toList)).map unescape =
        some s.title.toList ∧
      (HeadClosed config.lang (fontsCss config assets ++ pageRule s.canvas) body d.html ↔
        ∀ t ∈ fontTexts assets config.fonts, '<' ∉ t.toList) := by
  obtain ⟨body, views, hhtml, hread, hclosed⟩ := headClosed_compiled hd
  have hsheet : fontsCss config assets = (fontRules assets config.fonts).1 := by
    rw [fontsCss, hcss, Option.getD_none, String.append_empty]
  refine ⟨body, views, hhtml, hread, ?_, ?_, ?_⟩
  · rw [hhtml, scan_page, tagTexts_append, tagTexts_frontPieces, ← readTag_lang config.lang]
    rfl
  · rw [hhtml, scan_page, contentOf_title, Option.map_some,
      ← List.append_nil (s.title.toList.flatMap textChar), unescape_flatMap_textChar, unescape,
      List.append_nil]
  · rw [hclosed, hsheet, bracket_mem_fontRules (.inl rfl)]
    push Not
    rfl

/-- Assets with one font. -/
def interAssets (mime key : String) : Option Asset :=
  if key = "inter" then some ⟨mime, [1, 2]⟩ else none

def interConfig : CompileConfig where
  fonts := [{ family := "Inter", asset := "inter" }]

/-- A schema without nodes. -/
def blankSchema : Schema := ⟨{ id := "s", canvas := ⟨1, 1⟩, version := .flat }, by decide +kernel⟩

theorem head_closed_iff_woff :
    ∃ d body, compile interConfig blankSchema {} (interAssets "font/woff2") = .ok d ∧
      HeadClosed "en" (fontsCss interConfig (interAssets "font/woff2") ++ pageRule ⟨1, 1⟩) body
        d.html := by
  obtain ⟨d, hd⟩ : ∃ d, compile interConfig blankSchema {} (interAssets "font/woff2") = .ok d :=
    ⟨_, rfl⟩
  obtain ⟨body, views, -, -, -, -, hclosed⟩ := head_closed_iff hd rfl
  have hfree : (fontTexts (interAssets "font/woff2") interConfig.fonts).all
      (!·.toList.contains '<') = true := by decide +kernel
  refine ⟨d, body, hd, hclosed.2 fun t ht => ?_⟩
  simpa using List.all_eq_true.1 hfree t ht

/-- The media type of a font is written as it stands: one with tags closes the style sheet and opens
a script. -/
theorem media_type_opens_script :
    ∃ d, compile interConfig blankSchema {}
        (interAssets "</style><script>alert(1)</script>") = .ok d ∧
      (tagTexts (scan none d.html.toList))[8]? = some "script".toList ∧
      ∀ lang sheet body, ¬ HeadClosed lang sheet body d.html := by
  obtain ⟨d, hd⟩ : ∃ d, compile interConfig blankSchema {}
      (interAssets "</style><script>alert(1)</script>") = .ok d := ⟨_, rfl⟩
  obtain ⟨body, views, hhtml, -, -⟩ := headClosed_compiled hd
  -- the rule of the font up to the tag of the script
  obtain ⟨front, ⟨rest, hrest⟩, hfront⟩ : ∃ front, front <+: (fontsCss interConfig
        (interAssets "</style><script>alert(1)</script>")).toList ∧
      (cutPieces none front).map tagTexts = some ["/style".toList, "script".toList] :=
    ⟨("@font-face\x7bfont-family:'Inter';font-weight:400;font-style:normal;src:url(data:" ++
        "</style><script>").toList, by decide +kernel, by decide +kernel⟩
  obtain ⟨ps, hcut, htags⟩ := Option.map_eq_some_iff.1 hfront
  have hscript : (tagTexts (scan none d.html.toList))[8]? = some "script".toList := by
    rw [hhtml, scan_page, tagTexts_append, tagTexts_frontPieces, String.toList_append, ← hrest,
      List.append_assoc, List.append_assoc, scan_of_cutPieces hcut, tagTexts_append, htags]
    rfl
  refine ⟨d, hd, hscript, fun lang sheet body hclosed => ?_⟩
  -- in its place stands the end of the head
  have hhead : (tagTexts (scan none d.html.toList))[8]? = some "/head".toList := by
    rw [hclosed.tags]
    rfl
  rw [hhead] at hscript
  exact absurd (Option.some.inj hscript) (by decide)

end VisualTemplate.Document
