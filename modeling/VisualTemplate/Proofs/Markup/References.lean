import VisualTemplate.Proofs.Markup.Sheets
import VisualTemplate.Proofs.Markup.Sketch
/-!
What a text of markup refers to.

A text is cut into its tags and characters, and read for the addresses of its images and for its
styles: those of its elements, the addresses of masks, and its style sheets. Texts are put one after
another and into elements here, and with them the other texts that their styles take over.
-/

namespace VisualTemplate.Document

/-! ### What a text refers to -/

/-- The attributes with the address of an image, each with the name of its element. -/
def sourceNames : List (String × String) := [("img", "src"), ("image", "href")]

/-- The attributes with style declarations or the address of a mask. -/
def styleNames : List String := ["style", "mask"]

def sourcesIn (tag : String) (as : List (String × String)) : List String :=
  (as.filter fun a => sourceNames.contains (tag, a.1)).map (·.2)

def stylesIn (as : List (String × String)) : List (List Char) :=
  (as.filter fun a => styleNames.contains a.1).map (·.2.toList)

/-- The addresses of images in a tag. -/
def Tag.sources : Tag → List String
  | .opening name as => sourcesIn name as
  | .single name as => sourcesIn name as
  | .closing _ => []

/-- The texts of styles in a tag, which include the style sheet that it opens. What follows the tag
is given. -/
def Tag.styles (following : List Char) : Tag → List (List Char)
  | .opening name as => (if name = "style" then [following] else []) ++ stylesIn as
  | .single _ as => stylesIn as
  | .closing _ => []

/-- The characters before the first tag. -/
def leadingChars : List Piece → List Char
  | .char c :: ps => c :: leadingChars ps
  | _ => []

/-- The addresses of images in a text. -/
def sourcesOf : List Piece → List String
  | [] => []
  | .char _ :: ps => sourcesOf ps
  | .tag inner :: ps => (readTag inner).toList.flatMap (·.sources) ++ sourcesOf ps

/-- The styles in a text. -/
def stylesOf : List Piece → List (List Char)
  | [] => []
  | .char _ :: ps => stylesOf ps
  | .tag inner :: ps => (readTag inner).toList.flatMap (·.styles (leadingChars ps)) ++ stylesOf ps

/-- Nothing in a text refers to anything outside of it. -/
structure SelfContained (ps : List Piece) : Prop where
  sources : ∀ v ∈ sourcesOf ps, isInner v.toList = true
  styles : ∀ cs ∈ stylesOf ps, staysInner cs = true

/-! ### Parts of a text -/

/-- Pieces that hold the data of their images, and whose styles stay inside just when the texts
do. -/
structure Holds (ps : List Piece) (texts : List String) : Prop where
  sources : ∀ v ∈ sourcesOf ps, (v.after? "data:").isSome
  whole : ∀ rest, stylesOf (ps ++ rest) = stylesOf ps ++ stylesOf rest
  styles : (stylesOf ps).all staysInner = allInner texts

/-- A text is cut into such pieces. -/
def Embeds (cs : List Char) (texts : List String) : Prop := ∃ ps, Cuts cs ps ∧ Holds ps texts

section

variable {cs cs' inner : List Char} {ps ps' : List Piece} {texts texts' : List String} {t : Tag}

lemma Cuts.pieces (h : Cuts cs ps) : cutPieces none cs = some ps := by
  have hnil := h []
  rwa [List.append_nil, cutPieces, Option.map_some, List.append_nil] at hnil

lemma sourcesOf_append (ps ps' : List Piece) :
    sourcesOf (ps ++ ps') = sourcesOf ps ++ sourcesOf ps' := by
  fun_induction sourcesOf ps with
  | case1 => rfl
  | case2 c ps ih => rw [List.cons_append, sourcesOf, ih]
  | case3 inner ps ih => rw [List.cons_append, sourcesOf, ih, List.append_assoc]

lemma Holds.append (h : Holds ps texts) (h' : Holds ps' texts') :
    Holds (ps ++ ps') (texts ++ texts') := by
  refine ⟨?_, fun rest => ?_, ?_⟩
  · rw [sourcesOf_append]
    exact List.forall_mem_append.2 ⟨h.sources, h'.sources⟩
  · rw [List.append_assoc, h.whole, h'.whole, h.whole, List.append_assoc]
  · rw [h.whole, List.all_append, h.styles, h'.styles, allInner_append]

lemma Embeds.append (h : Embeds cs texts) (h' : Embeds cs' texts') :
    Embeds (cs ++ cs') (texts ++ texts') := by
  obtain ⟨ps, hcut, hholds⟩ := h
  obtain ⟨ps', hcut', hholds'⟩ := h'
  exact ⟨ps ++ ps', hcut.append hcut', hholds.append hholds'⟩

lemma embeds_nil : Embeds [] [] :=
  ⟨[], fun rest => by simp, by simp [sourcesOf], fun _ => rfl, rfl⟩

lemma cuts_chars (hlt : '<' ∉ cs) (hgt : '>' ∉ cs) : Cuts cs (cs.map .char) := by
  induction cs with
  | nil => exact fun rest => by simp
  | cons c cs ih =>
    rw [List.mem_cons, not_or] at hlt hgt
    intro rest
    rw [List.cons_append, cutPieces, if_neg (Ne.symm hlt.1), if_neg (Ne.symm hgt.1),
      ih hlt.2 hgt.2, Option.map_map]
    rfl

lemma sourcesOf_chars (cs : List Char) : sourcesOf (cs.map .char) = [] := by
  induction cs with
  | nil => rfl
  | cons c cs ih => rw [List.map_cons, sourcesOf, ih]

lemma stylesOf_chars (cs : List Char) (rest : List Piece) :
    stylesOf (cs.map .char ++ rest) = stylesOf rest := by
  induction cs with
  | nil => rfl
  | cons c cs ih => rw [List.map_cons, List.cons_append, stylesOf, ih]

lemma leadingChars_append (cs inner : List Char) (rest : List Piece) :
    leadingChars (cs.map .char ++ .tag inner :: rest) = cs := by
  induction cs with
  | nil => rfl
  | cons c cs ih => rw [List.map_cons, List.cons_append, leadingChars, ih]

/-- Characters refer to nothing. -/
lemma embeds_chars (hlt : '<' ∉ cs) (hgt : '>' ∉ cs) : Embeds cs [] := by
  have hstyles : stylesOf (cs.map .char) = [] := by
    rw [← List.append_nil (cs.map Piece.char), stylesOf_chars, stylesOf]
  refine ⟨cs.map .char, cuts_chars hlt hgt, ?_, fun rest => ?_, ?_⟩
  · rw [sourcesOf_chars]
    exact fun v hv => absurd hv List.not_mem_nil
  · rw [stylesOf_chars, hstyles, List.nil_append]
  · rw [hstyles]
    rfl

/-- A tag that opens no style sheet adds its sources and its styles. -/
lemma embeds_tag (hlt : '<' ∉ inner) (hgt : '>' ∉ inner) (hread : readTag inner = some t)
    (hsheet : ∀ following, t.styles following = t.styles [])
    (hsources : ∀ v ∈ t.sources, (v.after? "data:").isSome)
    (hstyles : (t.styles []).all staysInner = allInner texts) :
    Embeds (bracketed inner) texts := by
  have hsourcesOf : sourcesOf [.tag inner] = t.sources := by simp [sourcesOf, hread]
  have hstylesOf (rest : List Piece) :
      stylesOf (.tag inner :: rest) = t.styles [] ++ stylesOf rest := by
    simp [stylesOf, hread, hsheet (leadingChars rest)]
  refine ⟨[.tag inner], cuts_bracketed hlt hgt, ?_, fun rest => ?_, ?_⟩
  · rwa [hsourcesOf]
  · rw [List.singleton_append, hstylesOf, hstylesOf, stylesOf, List.append_nil]
  · rw [hstylesOf, stylesOf, List.append_nil, hstyles]

/-- What is no tag between its brackets adds nothing. -/
lemma embeds_unread (hlt : '<' ∉ inner) (hgt : '>' ∉ inner) (hread : readTag inner = none) :
    Embeds (bracketed inner) [] := by
  refine ⟨[.tag inner], cuts_bracketed hlt hgt, ?_, fun rest => ?_, ?_⟩
  all_goals simp [sourcesOf, stylesOf, hread, allInner]

/-- A style sheet between its tags. -/
lemma embeds_sheet (hlt : '<' ∉ cs) (hgt : '>' ∉ cs) (hcs : staysInner cs = allInner texts) :
    Embeds (bracketed "style".toList ++ cs ++ bracketed ('/' :: "style".toList)) texts := by
  have hopen : readTag "style".toList = some (.opening "style" []) := rfl
  have hclose : readTag ('/' :: "style".toList) = some (.closing "style") := readTag_close "style"
  have hstyles (rest : List Piece) :
      stylesOf (.tag "style".toList :: (cs.map .char ++ .tag ('/' :: "style".toList) :: rest)) =
        cs :: stylesOf rest := by
    rw [stylesOf, stylesOf_chars, stylesOf, leadingChars_append, hopen, hclose]
    simp [Tag.styles, stylesIn]
  have hnil := hstyles []
  have hfront : Cuts (bracketed "style".toList) [.tag "style".toList] :=
    cuts_bracketed (by decide) (by decide)
  have hback : Cuts (bracketed ('/' :: "style".toList)) [.tag ('/' :: "style".toList)] :=
    cuts_bracketed (by decide) (by decide)
  have hcut := (hfront.append (cuts_chars hlt hgt)).append hback
  rw [List.append_assoc [Piece.tag _], List.singleton_append] at hcut
  refine ⟨_, hcut, ?_, fun rest => ?_, ?_⟩
  · rw [sourcesOf, sourcesOf_append, sourcesOf_chars, sourcesOf, sourcesOf, hopen, hclose]
    simp [Tag.sources, sourcesIn]
  · rw [List.cons_append, List.append_assoc, List.singleton_append, hstyles, hnil]
    rfl
  · rw [hnil, stylesOf, List.all_cons, List.all_nil, Bool.and_true, hcs]

/-- Such pieces are self-contained just when the texts stay inside. -/
lemma Holds.inner_iff (h : Holds ps texts) :
    SelfContained ps ↔ allInner texts = true := by
  have hdata {v : String} (hv : (v.after? "data:").isSome) : isInner v.toList = true := by
    rw [String.after?, Option.isSome_map, Option.isSome_iff_exists] at hv
    obtain ⟨rest, hrest⟩ := hv
    rw [Text.append_of_after? hrest, isInner]
    simp
  rw [← h.styles, List.all_eq_true]
  exact ⟨fun hself => hself.styles, fun hstyles => ⟨fun v hv => hdata (h.sources v hv), hstyles⟩⟩

end

/-! ### Attributes and elements -/

/-- Attributes with plain names in an element of a name: images hold their data, and styles stay
inside just when the texts do. -/
structure Refers (tag : String) (as : List (String × String)) (texts : List String) : Prop where
  plain : ∀ a ∈ as, isPlainName a.1 = true
  sources : ∀ v ∈ sourcesIn tag as, (v.after? "data:").isSome
  styles : (stylesIn as).all staysInner = allInner texts

/-- The name of an element that has a closing tag and is no style sheet. -/
def isElementName (tag : String) : Bool :=
  isPlainName tag && !voidNames.contains tag && tag != "style"

/-- The names of attributes that hold no address. -/
def otherNames : List String :=
  ("lang" :: "charset" :: plainNames).filter fun name =>
    !(["src", "href", "style", "mask"].contains name)

section

variable {tag : String} {as bs : List (String × String)} {texts texts' : List String}

lemma Refers.append (h : Refers tag as texts) (h' : Refers tag bs texts') :
    Refers tag (as ++ bs) (texts ++ texts') := by
  refine ⟨List.forall_mem_append.2 ⟨h.plain, h'.plain⟩, ?_, ?_⟩
  · rw [sourcesIn, List.filter_append, List.map_append]
    exact List.forall_mem_append.2 ⟨h.sources, h'.sources⟩
  · have hstyles := h.styles
    have hstyles' := h'.styles
    rw [stylesIn] at hstyles hstyles' ⊢
    rw [List.filter_append, List.map_append, List.all_append, hstyles, hstyles', allInner_append]

lemma refers_others (h : ∀ a ∈ as, a.1 ∈ otherNames) : Refers tag as [] := by
  have hno : ∀ name ∈ otherNames, isPlainName name = true ∧ name ≠ "src" ∧ name ≠ "href" ∧
      name ∉ styleNames := by decide
  have hsources : sourcesIn tag as = [] := by
    rw [sourcesIn, List.map_eq_nil_iff, List.filter_eq_nil_iff]
    intro a ha
    obtain ⟨-, hsrc, hhref, -⟩ := hno _ (h a ha)
    simp [sourceNames, hsrc, hhref]
  have hstyles : stylesIn as = [] := by
    rw [stylesIn, List.map_eq_nil_iff, List.filter_eq_nil_iff]
    intro a ha
    simp [(hno _ (h a ha)).2.2.2]
  refine ⟨fun a ha => (hno _ (h a ha)).1, ?_, ?_⟩
  · rw [hsources]
    exact fun v hv => absurd hv List.not_mem_nil
  · rw [hstyles]
    rfl

lemma refers_source {name value : String} (hname : (tag, name) ∈ sourceNames)
    (hvalue : (value.after? "data:").isSome) : Refers tag [(name, value)] [] := by
  have hplain : ∀ a ∈ sourceNames, isPlainName a.2 = true ∧ a.2 ∉ styleNames := by decide
  obtain ⟨hplain, hstyle⟩ := hplain _ hname
  refine ⟨by simpa using hplain, ?_, ?_⟩
  · simpa [sourcesIn, hname] using hvalue
  · simp [stylesIn, hstyle, allInner]

lemma refers_style {name value : String} (hname : name ∈ styleNames)
    (hvalue : staysInner value.toList = allInner texts) : Refers tag [(name, value)] texts := by
  have hplain : ∀ name ∈ styleNames, isPlainName name = true ∧ name ≠ "src" ∧ name ≠ "href" := by
    decide
  obtain ⟨hplain, hsrc, hhref⟩ := hplain _ hname
  refine ⟨by simpa using hplain, by simp [sourcesIn, sourceNames, hsrc, hhref], ?_⟩
  simpa [stylesIn, hname] using hvalue

lemma refers_styled {s : Style} (h : Takes s texts) : Refers tag (styled s) texts := by
  unfold styled
  split
  · next hs =>
    have hvalues := h.values
    rw [List.isEmpty_iff.1 hs] at hvalues
    exact ⟨by simp, by simp [sourcesIn], hvalues⟩
  · exact refers_style (by decide) h.staysInner_text

lemma Refers.opening (h : Refers tag as texts) (htag : isElementName tag = true) :
    Embeds (bracketed (tag.toList ++ attributesChars as)) texts := by
  simp only [isElementName, Bool.and_eq_true, Bool.not_eq_true', bne_iff_ne] at htag
  obtain ⟨⟨htag, hvoid⟩, hsheet⟩ := htag
  have hopen : readTag (tag.toList ++ attributesChars as) = some (.opening tag as) := by
    rw [readTag_open htag h.plain, hvoid]
    rfl
  have hbrackets := bracket_notMem_tag htag h.plain
  exact embeds_tag hbrackets.1 hbrackets.2 hopen (fun following => by simp [Tag.styles, hsheet])
    h.sources (by simpa [Tag.styles, hsheet] using h.styles)

lemma embeds_closing (htag : isPlainName tag = true) :
    Embeds (bracketed ('/' :: tag.toList)) [] := by
  have hslash := bracket_notMem_name htag
  exact embeds_tag (by simpa using hslash.1) (by simpa using hslash.2) (readTag_close tag)
    (fun _ => rfl) (by simp [Tag.sources]) rfl

/-- An element holds what its attributes and its children hold. -/
lemma Refers.element {ms : List Markup} (h : Refers tag as texts)
    (htag : isElementName tag = true) (hms : Embeds (writeAll ms).toList texts') :
    Embeds (writeAll [.element tag as ms]).toList (texts ++ texts') := by
  have hplain : isPlainName tag = true := by
    simp only [isElementName, Bool.and_eq_true] at htag
    exact htag.1.1
  have helement := ((h.opening htag).append hms).append (embeds_closing hplain)
  simpa [writeAll, Markup.write, bracketed, toList_attributesText] using helement

lemma Refers.img (h : Refers "img" as texts) : Embeds (writeAll [.void "img" as]).toList texts := by
  have hname : isPlainName "img" = true := by decide
  have hopen : readTag ("img".toList ++ attributesChars as) = some (.single "img" as) := by
    rw [readTag_open hname h.plain, if_pos (by decide)]
  have hbrackets := bracket_notMem_tag hname h.plain
  have hembeds : Embeds (bracketed ("img".toList ++ attributesChars as)) texts :=
    embeds_tag hbrackets.1 hbrackets.2 hopen (fun _ => rfl) h.sources h.styles
  simpa [writeAll, Markup.write, bracketed, toList_attributesText] using hembeds

lemma Refers.closed (h : Refers tag as texts) (htag : isPlainName tag = true) :
    Embeds (writeAll [.closed tag as]).toList texts := by
  have hbrackets := bracket_notMem_tag htag h.plain
  have hembeds : Embeds (bracketed (tag.toList ++ attributesChars as ++ ['/'])) texts :=
    embeds_tag (by simpa using hbrackets.1) (by simpa using hbrackets.2)
      (readTag_closed htag h.plain) (fun _ => rfl) h.sources h.styles
  simpa [writeAll, Markup.write, bracketed, toList_attributesText] using hembeds

lemma embeds_line (line : List Char) : Embeds (line.flatMap textChar) [] :=
  embeds_chars (bracket_notMem_line line).1 (bracket_notMem_line line).2

/-- A text is characters and breaks. -/
lemma embeds_text (content : String) : Embeds (writeAll [.text content]).toList [] := by
  have hread : readTag ['b', 'r'] = some (.single "br" []) := rfl
  have hbreak : Embeds "<br>".toList [] :=
    embeds_tag (by decide) (by decide) hread (fun _ => rfl) (by simp [Tag.sources, sourcesIn]) rfl
  have hlines (ls : List (List Char)) :
      Embeds ("<br>".toList.intercalate (ls.map fun l => l.flatMap textChar)) [] := by
    induction ls with
    | nil => exact embeds_nil
    | cons l ls ih =>
      cases ls with
      | nil => simpa using embeds_line l
      | cons l' ls =>
        rw [List.map_cons, List.map_cons, List.intercalate_cons_cons]
        exact ((embeds_line l).append hbreak).append ih
  have hwrite : (writeAll [.text content]).toList =
      "<br>".toList.intercalate ((Text.lines content.toList).map fun l => l.flatMap textChar) := by
    rw [writeAll, writeAll, Markup.write, String.append_empty, toList_textWithBreaks]
  rw [hwrite]
  exact hlines _

end

lemma writeAll_append (ms ns : List Markup) : writeAll (ms ++ ns) = writeAll ms ++ writeAll ns := by
  induction ms with
  | nil => rw [List.nil_append, writeAll, String.empty_append]
  | cons m ms ih => rw [List.cons_append, writeAll, writeAll, ih, String.append_assoc]

/-- Markup holds what its parts hold. -/
lemma Embeds.join {ms ns : List Markup} {texts texts' : List String}
    (h : Embeds (writeAll ms).toList texts) (h' : Embeds (writeAll ns).toList texts') :
    Embeds (writeAll (ms ++ ns)).toList (texts ++ texts') := by
  rw [writeAll_append, String.toList_append]
  exact h.append h'

end VisualTemplate.Document
