import VisualTemplate.Proofs.Markup.Reading
/-!
Written markup shows its own tree.

Texts that show something can be put one after another and into an element; so what a tree shows
follows its recursion. The only condition is on the names of elements and attributes, which are
never taken from data.
-/

namespace VisualTemplate.Document

/-- A text is cut into the pieces, whatever follows it. -/
def Cuts (cs : List Char) (ps : List Piece) : Prop :=
  ∀ rest, cutPieces none (cs ++ rest) = (cutPieces none rest).map (ps ++ ·)

/-- Pieces are nested to the views, wherever they stand. -/
def Nests (ps : List Piece) (vs : List View) : Prop :=
  ∀ opens done rest, nest opens done (ps ++ rest) = nest opens (vs.reverse ++ done) rest

/-- A text shows the views. -/
def Shows (cs : List Char) (vs : List View) : Prop := ∃ ps, Cuts cs ps ∧ Nests ps vs

/-! ### Putting texts together -/

lemma Cuts.append {cs cs' : List Char} {ps ps' : List Piece} (h : Cuts cs ps)
    (h' : Cuts cs' ps') : Cuts (cs ++ cs') (ps ++ ps') := by
  intro rest
  rw [List.append_assoc, h, h', Option.map_map]
  congr 1
  funext qs
  simp

lemma Nests.append {ps ps' : List Piece} {vs vs' : List View} (h : Nests ps vs)
    (h' : Nests ps' vs') : Nests (ps ++ ps') (vs ++ vs') := by
  intro opens done rest
  rw [List.append_assoc, h, h', List.reverse_append, List.append_assoc]

lemma shows_nil : Shows [] [] := ⟨[], fun rest => by simp, fun _ _ _ => rfl⟩

lemma Shows.append {cs cs' : List Char} {vs vs' : List View} (h : Shows cs vs)
    (h' : Shows cs' vs') : Shows (cs ++ cs') (vs ++ vs') := by
  obtain ⟨ps, hcut, hnest⟩ := h
  obtain ⟨ps', hcut', hnest'⟩ := h'
  exact ⟨ps ++ ps', hcut.append hcut', hnest.append hnest'⟩

lemma shows_char {c : Char} (hlt : c ≠ '<') (hgt : c ≠ '>') : Shows [c] [.char c] := by
  refine ⟨[.char c], fun rest => ?_, fun opens done rest => ?_⟩
  · rw [List.singleton_append, cutPieces, if_neg hlt, if_neg hgt]
    rfl
  · rw [List.singleton_append, nest]
    rfl

/-- Characters that are no angle brackets are shown as they are. -/
lemma shows_chars {cs : List Char} (hlt : '<' ∉ cs) (hgt : '>' ∉ cs) :
    Shows cs (cs.map .char) := by
  induction cs with
  | nil => exact shows_nil
  | cons c cs ih =>
    rw [List.mem_cons, not_or] at hlt hgt
    exact (shows_char (Ne.symm hlt.1) (Ne.symm hgt.1)).append (ih hlt.2 hgt.2)

lemma cutPieces_inner {inner : List Char} (hlt : '<' ∉ inner) (hgt : '>' ∉ inner)
    (read rest : List Char) : cutPieces (some read) (inner ++ '>' :: rest) =
      (cutPieces none rest).map (.tag (read.reverse ++ inner) :: ·) := by
  induction inner generalizing read with
  | nil => simp [cutPieces]
  | cons c cs ih =>
    rw [List.mem_cons, not_or] at hlt hgt
    rw [List.cons_append, cutPieces, if_neg (Ne.symm hgt.1), if_neg (Ne.symm hlt.1),
      ih hlt.2 hgt.2]
    simp

/-- A tag as it stands in a text. -/
def bracketed (inner : List Char) : List Char := '<' :: (inner ++ ['>'])

lemma cuts_bracketed {inner : List Char} (hlt : '<' ∉ inner) (hgt : '>' ∉ inner) :
    Cuts (bracketed inner) [.tag inner] := by
  intro rest
  rw [bracketed, List.cons_append, cutPieces, if_pos rfl, List.append_assoc,
    List.singleton_append, cutPieces_inner hlt hgt]
  rfl

lemma shows_single {t : List Char} {name : String} {as : List (String × String)}
    (hlt : '<' ∉ t) (hgt : '>' ∉ t) (h : readTag t = some (.single name as)) :
    Shows (bracketed t) [.element name as []] := by
  refine ⟨[.tag t], cuts_bracketed hlt hgt, fun opens done rest => ?_⟩
  rw [List.singleton_append, nest]
  simp only [h]
  rfl

/-- What stands between an opening and a closing tag is shown inside the element. -/
lemma Shows.element {inner inner' cs : List Char} {name : String}
    {as : List (String × String)} {vs : List View} (hlt : '<' ∉ inner) (hgt : '>' ∉ inner)
    (hlt' : '<' ∉ inner') (hgt' : '>' ∉ inner') (hopen : readTag inner = some (.opening name as))
    (hclose : readTag inner' = some (.closing name)) (h : Shows cs vs) :
    Shows (bracketed inner ++ cs ++ bracketed inner') [.element name as vs] := by
  obtain ⟨ps, hcut, hnest⟩ := h
  refine ⟨[.tag inner] ++ ps ++ [.tag inner'],
    ((cuts_bracketed hlt hgt).append hcut).append (cuts_bracketed hlt' hgt'),
    fun opens done rest => ?_⟩
  rw [List.append_assoc, List.append_assoc, List.singleton_append, nest]
  simp only [hopen]
  rw [hnest, List.singleton_append, nest]
  simp only [hclose, ↓reduceIte, List.append_nil, List.reverse_reverse]
  rfl

/-! ### What a tree shows -/

mutual

/-- The names in a tree have none of the characters that tags are cut by, and those elements have
no closing tag that are written without one. -/
def Markup.IsPlain : Markup → Prop
  | .element tag as cs => (isPlainName tag = true ∧ tag ∉ voidNames) ∧
      (∀ a ∈ as, isPlainName a.1 = true) ∧ allPlain cs
  | .void tag as => (isPlainName tag = true ∧ tag ∈ voidNames) ∧
      ∀ a ∈ as, isPlainName a.1 = true
  | .closed tag as => isPlainName tag = true ∧ ∀ a ∈ as, isPlainName a.1 = true
  | .text _ => True

def allPlain : List Markup → Prop
  | [] => True
  | m :: ms => m.IsPlain ∧ allPlain ms

end

/-- The view of a break between lines. -/
def View.break : View := .element "br" [] []

/-- The views of a line: its escaped characters. -/
def lineViews (line : List Char) : List View := (line.flatMap textChar).map .char

mutual

def Markup.views : Markup → List View
  | .element tag as cs => [.element tag as (allViews cs)]
  | .void tag as => [.element tag as []]
  | .closed tag as => [.element tag as []]
  | .text content => [View.break].intercalate ((Text.lines content.toList).map lineViews)

def allViews : List Markup → List View
  | [] => []
  | m :: ms => m.views ++ allViews ms

end

lemma mem_lines {v : View} {ls : List (List Char)}
    (hv : v ∈ [View.break].intercalate (ls.map lineViews)) : v = .break ∨ ∃ c, v = .char c := by
  have hline {l : List Char} (hv : v ∈ lineViews l) : ∃ c, v = .char c := by
    obtain ⟨c, -, rfl⟩ := List.mem_map.1 hv
    exact ⟨c, rfl⟩
  induction ls with
  | nil => exact absurd hv List.not_mem_nil
  | cons l ls ih =>
    cases ls with
    | nil =>
      rw [List.map_cons, List.map_nil, List.intercalate_singleton] at hv
      exact .inr (hline hv)
    | cons l' ls =>
      rw [List.map_cons, List.map_cons, List.intercalate_cons_cons, List.append_assoc] at hv
      rcases List.mem_append.1 hv with hv | hv
      · exact .inr (hline hv)
      · rcases List.mem_append.1 hv with hv | hv
        · exact .inl (List.mem_singleton.1 hv)
        · exact ih hv

/-- What holds of no views, and goes over to one more character or break, holds of the views of a
text. -/
lemma text_induction {P : List View → Prop} (nil : P [])
    (char : ∀ c vs, P vs → P (.char c :: vs)) (line : ∀ vs, P vs → P (.break :: vs))
    (content : String) : P (Markup.text content).views := by
  have hall (vs : List View) (hvs : ∀ v ∈ vs, v = .break ∨ ∃ c, v = .char c) : P vs := by
    induction vs with
    | nil => exact nil
    | cons v vs ih =>
      rw [List.forall_mem_cons] at hvs
      rcases hvs.1 with rfl | ⟨c, rfl⟩
      · exact line vs (ih hvs.2)
      · exact char c vs (ih hvs.2)
  rw [Markup.views]
  exact hall _ fun v => mem_lines

lemma bracket_notMem_line (line : List Char) :
    '<' ∉ line.flatMap textChar ∧ '>' ∉ line.flatMap textChar := by
  constructor
  all_goals
    intro hc
    obtain ⟨c, -, hc⟩ := List.mem_flatMap.1 hc
  · exact (bracket_notMem_textChar c).1 hc
  · exact (bracket_notMem_textChar c).2 hc

lemma shows_line (line : List Char) : Shows (line.flatMap textChar) (lineViews line) :=
  shows_chars (bracket_notMem_line line).1 (bracket_notMem_line line).2

lemma shows_break : Shows "<br>".toList [View.break] :=
  shows_single (t := ['b', 'r']) (by decide) (by decide) rfl

lemma shows_lines (ls : List (List Char)) :
    Shows ("<br>".toList.intercalate (ls.map fun l => l.flatMap textChar))
      ([View.break].intercalate (ls.map lineViews)) := by
  induction ls with
  | nil => exact shows_nil
  | cons l ls ih =>
    cases ls with
    | nil => simpa using shows_line l
    | cons l' ls =>
      rw [List.map_cons, List.map_cons, List.map_cons, List.map_cons,
        List.intercalate_cons_cons, List.intercalate_cons_cons]
      exact ((shows_line l).append shows_break).append ih

lemma toList_textWithBreaks (content : String) : (textWithBreaks content).toList =
    "<br>".toList.intercalate
      ((Text.lines content.toList).map fun l => l.flatMap textChar) := by
  rw [textWithBreaks, String.toList_intercalate, List.map_map]
  congr 1
  apply List.map_congr_left
  intro l _
  simp

section

variable {tag : String} {as : List (String × String)} (h : isPlainName tag = true)
  (has : ∀ a ∈ as, isPlainName a.1 = true)

include h in
lemma bracket_notMem_name : '<' ∉ tag.toList ∧ '>' ∉ tag.toList :=
  ⟨fun hc => ((plain_chars h).2 _ hc).1 rfl, fun hc => ((plain_chars h).2 _ hc).2.1 rfl⟩

include has in
lemma bracket_notMem_attributes : '<' ∉ attributesChars as ∧ '>' ∉ attributesChars as := by
  have key {b : Char} (hb : b ∉ [' ', '=', '"']) (hesc : ∀ c, b ∉ attributeChar c)
      (hname : ∀ a ∈ as, b ∉ a.1.toList) : b ∉ attributesChars as := by
    rw [attributesChars, List.mem_flatMap]
    rintro ⟨a, ha, hc⟩
    simp only [List.mem_cons, List.mem_append, List.mem_flatMap, List.not_mem_nil, or_false]
      at hb hc
    rcases hc with rfl | hc | rfl | rfl | ⟨c, -, hc⟩ | rfl
    · simp at hb
    · exact hname a ha hc
    · simp at hb
    · simp at hb
    · exact hesc c hc
    · simp at hb
  exact ⟨key (by decide) (fun c => (bracket_notMem_attributeChar c).1)
      fun a ha => (bracket_notMem_name (has a ha)).1,
    key (by decide) (fun c => (bracket_notMem_attributeChar c).2.1)
      fun a ha => (bracket_notMem_name (has a ha)).2⟩

include h has in
lemma bracket_notMem_tag : '<' ∉ tag.toList ++ attributesChars as ∧
    '>' ∉ tag.toList ++ attributesChars as := by
  simp [bracket_notMem_name h, bracket_notMem_attributes has]

end

mutual

/-- The text of a tree shows the tree. -/
theorem shows_write (m : Markup) (h : m.IsPlain) : Shows m.write.toList m.views := by
  match m with
  | .element tag as cs =>
    obtain ⟨⟨htag, hvoid⟩, has, hcs⟩ := by simpa only [Markup.IsPlain] using h
    have hopen : readTag (tag.toList ++ attributesChars as) = some (.opening tag as) := by
      rw [readTag_open htag has, if_neg (by simpa using hvoid)]
    have hbrackets := bracket_notMem_tag htag has
    have hname := bracket_notMem_name htag
    have hshows := (shows_writeAll cs hcs).element hbrackets.1 hbrackets.2
      (by simpa using hname.1) (by simpa using hname.2) hopen (readTag_close tag)
    simpa [Markup.write, Markup.views, bracketed, toList_attributesText] using hshows
  | .void tag as =>
    obtain ⟨⟨htag, hvoid⟩, has⟩ := by simpa only [Markup.IsPlain] using h
    have hopen : readTag (tag.toList ++ attributesChars as) = some (.single tag as) := by
      rw [readTag_open htag has, if_pos (by simpa using hvoid)]
    have hbrackets := bracket_notMem_tag htag has
    have hshows := shows_single hbrackets.1 hbrackets.2 hopen
    simpa [Markup.write, Markup.views, bracketed, toList_attributesText] using hshows
  | .closed tag as =>
    obtain ⟨htag, has⟩ := by simpa only [Markup.IsPlain] using h
    have hbrackets := bracket_notMem_tag htag has
    have hshows := shows_single (t := tag.toList ++ attributesChars as ++ ['/'])
      (by simpa using hbrackets.1) (by simpa using hbrackets.2) (readTag_closed htag has)
    simpa [Markup.write, Markup.views, bracketed, toList_attributesText] using hshows
  | .text content =>
    rw [Markup.write, toList_textWithBreaks, Markup.views]
    exact shows_lines _

theorem shows_writeAll (ms : List Markup) (h : allPlain ms) :
    Shows (writeAll ms).toList (allViews ms) := by
  match ms with
  | [] => exact shows_nil
  | m :: ms =>
    obtain ⟨hm, hms⟩ := by simpa only [allPlain] using h
    rw [writeAll, String.toList_append, allViews]
    exact (shows_write m hm).append (shows_writeAll ms hms)

end

/-- **Written markup is read back as its own tree.** -/
theorem readMarkup_writeAll {ms : List Markup} (h : allPlain ms) :
    readMarkup (writeAll ms) = some (allViews ms) := by
  obtain ⟨ps, hcut, hnest⟩ := shows_writeAll ms h
  have hcut' := hcut []
  have hnest' := hnest [] [] []
  rw [List.append_nil] at hcut' hnest'
  rw [readMarkup, hcut', cutPieces, Option.map_some, Option.bind_some, List.append_nil, hnest',
    nest]
  simp

end VisualTemplate.Document
