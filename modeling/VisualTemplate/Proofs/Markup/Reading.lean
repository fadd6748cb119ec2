import Mathlib.Tactic.Common
import VisualTemplate.Document.Markup
/-!
Markup text read back.

A text is cut at its angle brackets into tags and characters, and the tags are nested by a stack
of the elements that are still open. Neither step knows how the text was written. Whatever stands
in attributes and between tags, a written tree is read back with its own elements and no others,
except for the breaks between lines.
-/

namespace VisualTemplate.Document

/-! ### Reading -/

/-- A text between angle brackets, or a character outside of them. -/
inductive Piece where
  | tag (inner : List Char)
  | char (c : Char)

/-- Cuts a text at its angle brackets. Inside a tag, what stands in it so far is given, last
first. -/
def cutPieces : Option (List Char) → List Char → Option (List Piece)
  | none, [] => some []
  | some _, [] => none
  | none, c :: cs =>
    if c = '<' then cutPieces (some []) cs
    else if c = '>' then none
    else (cutPieces none cs).map (.char c :: ·)
  | some inner, c :: cs =>
    if c = '>' then (cutPieces none cs).map (.tag inner.reverse :: ·)
    else if c = '<' then none
    else cutPieces (some (c :: inner)) cs

/-- A text with the five references read that stand for markup characters. -/
def unescape : List Char → List Char
  | '&' :: 'a' :: 'm' :: 'p' :: ';' :: cs => '&' :: unescape cs
  | '&' :: 'l' :: 't' :: ';' :: cs => '<' :: unescape cs
  | '&' :: 'g' :: 't' :: ';' :: cs => '>' :: unescape cs
  | '&' :: 'q' :: 'u' :: 'o' :: 't' :: ';' :: cs => '"' :: unescape cs
  | '&' :: '#' :: '3' :: '9' :: ';' :: cs => '\'' :: unescape cs
  | c :: cs => c :: unescape cs
  | [] => []

/-- Where the reading of attributes stands. -/
inductive AttributePlace where
  | between
  | name (read : List Char)
  | quote (name : String)
  | value (name : String) (read : List Char)

/-- Reads attributes, each with a blank before it and its value in quotes. -/
def readAttributes : AttributePlace → List Char → Option (List (String × String))
  | .between, [] => some []
  | .between, c :: cs => if c = ' ' then readAttributes (.name []) cs else none
  | .name read, c :: cs =>
    if c = '=' then readAttributes (.quote (.ofList read.reverse)) cs
    else readAttributes (.name (c :: read)) cs
  | .quote name, c :: cs => if c = '"' then readAttributes (.value name []) cs else none
  | .value name read, c :: cs =>
    if c = '"' then
      (readAttributes .between cs).map ((name, .ofList (unescape read.reverse)) :: ·)
    else readAttributes (.value name (c :: read)) cs
  | _, [] => none

inductive Tag where
  | opening (name : String) (attributes : List (String × String))
  | single (name : String) (attributes : List (String × String))
  | closing (name : String)

/-- Elements that have no closing tag. -/
def voidNames : List String := ["img", "br"]

/-- The name of a tag and what follows it. -/
def readName (inner : List Char) : String × List Char :=
  (.ofList (inner.takeWhile (· != ' ')), inner.dropWhile (· != ' '))

/-- Reads a tag: a slash before the name closes an element, one at the end leaves it empty. -/
def readTag (inner : List Char) : Option Tag :=
  if inner.head? = some '/' then some (.closing (.ofList inner.tail))
  else if inner.getLast? = some '/' then
    let (name, rest) := readName inner.dropLast
    (readAttributes .between rest).map (.single name)
  else
    let (name, rest) := readName inner
    (readAttributes .between rest).map fun as =>
      if voidNames.contains name then .single name as else .opening name as

/-- What a text shows: characters and elements. -/
inductive View where
  | char (c : Char)
  | element (name : String) (attributes : List (String × String)) (children : List View)

/-- An element that is still open, with what stands before it, last first. -/
structure Unclosed where
  name : String
  attributes : List (String × String)
  before : List View

/-- Nests pieces below the open elements, innermost first. What the innermost holds so far is
given, last first. -/
def nest : List Unclosed → List View → List Piece → Option (List View)
  | [], done, [] => some done.reverse
  | _ :: _, _, [] => none
  | opens, done, .char c :: ps => nest opens (.char c :: done) ps
  | opens, done, .tag inner :: ps =>
    match readTag inner with
    | none => none
    | some (.opening name as) => nest (⟨name, as, done⟩ :: opens) [] ps
    | some (.single name as) => nest opens (.element name as [] :: done) ps
    | some (.closing name) =>
      match opens with
      | [] => none
      | o :: opens =>
        if o.name = name then
          nest opens (.element o.name o.attributes done.reverse :: o.before) ps
        else none

/-- Reads a text, if its tags are properly nested and balanced. -/
def readMarkup (text : String) : Option (List View) :=
  (cutPieces none text.toList).bind (nest [] [])

/-! ### References -/

lemma unescape_cons {c : Char} (h : c ≠ '&') (cs : List Char) :
    unescape (c :: cs) = c :: unescape cs := by
  rw [unescape]
  all_goals exact fun _ heq => absurd heq h

lemma unescape_textChar (c : Char) (cs : List Char) :
    unescape (textChar c ++ cs) = c :: unescape cs := by
  unfold textChar
  split
  · next h => rw [h]; rfl
  split
  · next h => rw [h]; rfl
  split
  · next h => rw [h]; rfl
  · next h _ _ => exact unescape_cons h cs

lemma unescape_attributeChar (c : Char) (cs : List Char) :
    unescape (attributeChar c ++ cs) = c :: unescape cs := by
  unfold attributeChar
  split
  · next h => rw [h]; rfl
  split
  · next h => rw [h]; rfl
  · exact unescape_textChar c cs

/-- Escaping between tags is undone. -/
lemma unescape_flatMap_textChar (cs rest : List Char) :
    unescape (cs.flatMap textChar ++ rest) = cs ++ unescape rest := by
  induction cs with
  | nil => rfl
  | cons c cs ih =>
    rw [List.flatMap_cons, List.append_assoc, unescape_textChar, ih, List.cons_append]

/-- Escaping in attributes is undone. -/
lemma unescape_flatMap_attributeChar (cs : List Char) :
    unescape (cs.flatMap attributeChar) = cs := by
  induction cs with
  | nil => rfl
  | cons c cs ih => rw [List.flatMap_cons, unescape_attributeChar, ih]

/-! ### What escaping leaves out -/

lemma bracket_notMem_textChar (c : Char) : '<' ∉ textChar c ∧ '>' ∉ textChar c := by
  unfold textChar
  split
  · decide
  split
  · decide
  split
  · decide
  · next hlt hgt =>
    exact ⟨by simpa [eq_comm] using hlt, by simpa [eq_comm] using hgt⟩

lemma bracket_notMem_attributeChar (c : Char) :
    '<' ∉ attributeChar c ∧ '>' ∉ attributeChar c ∧ '"' ∉ attributeChar c := by
  unfold attributeChar
  split
  · decide
  split
  · decide
  · next hquote _ =>
    refine ⟨(bracket_notMem_textChar c).1, (bracket_notMem_textChar c).2, ?_⟩
    unfold textChar
    split
    · decide
    split
    · decide
    split
    · decide
    · simpa [eq_comm] using hquote

/-! ### Tags as they are written -/

/-- A name without the characters that tags are cut by. -/
def isPlainName (name : String) : Bool :=
  !name.isEmpty && name.toList.all fun c => !"<>/= \"".toList.contains c

lemma plain_chars {name : String} (h : isPlainName name = true) :
    name.toList ≠ [] ∧ ∀ c ∈ name.toList,
      c ≠ '<' ∧ c ≠ '>' ∧ c ≠ '/' ∧ c ≠ '=' ∧ c ≠ ' ' ∧ c ≠ '"' := by
  rw [isPlainName, Bool.and_eq_true, List.all_eq_true] at h
  refine ⟨by simpa using h.1, fun c hc => ?_⟩
  simpa using h.2 c hc

/-- The characters of attributes as they are written. -/
def attributesChars (as : List (String × String)) : List Char :=
  as.flatMap fun a =>
    ' ' :: (a.1.toList ++ '=' :: '"' :: (a.2.toList.flatMap attributeChar ++ ['"']))

lemma toList_attributesText (as : List (String × String)) :
    (attributesText as).toList = attributesChars as := by
  induction as with
  | nil => rfl
  | cons a as ih =>
    rw [attributesText, List.map_cons, String.join_cons, String.toList_append]
    rw [attributesText] at ih
    rw [ih, attributesChars, attributesChars, List.flatMap_cons]
    simp [escapeAttribute]

lemma readAttributes_name {name : List Char} (h : '=' ∉ name) (read rest : List Char) :
    readAttributes (.name read) (name ++ '=' :: rest) =
      readAttributes (.quote (.ofList (read.reverse ++ name))) rest := by
  induction name generalizing read with
  | nil => simp [readAttributes]
  | cons c cs ih =>
    rw [List.mem_cons, not_or] at h
    rw [List.cons_append, readAttributes, if_neg (Ne.symm h.1), ih h.2]
    simp

lemma readAttributes_value {value : List Char} (h : '"' ∉ value) (name : String)
    (read rest : List Char) : readAttributes (.value name read) (value ++ '"' :: rest) =
      (readAttributes .between rest).map
        ((name, .ofList (unescape (read.reverse ++ value))) :: ·) := by
  induction value generalizing read with
  | nil => simp [readAttributes]
  | cons c cs ih =>
    rw [List.mem_cons, not_or] at h
    rw [List.cons_append, readAttributes, if_neg (Ne.symm h.1), ih h.2]
    simp

/-- Attributes are read back with their values. -/
lemma readAttributes_chars {as : List (String × String)}
    (h : ∀ a ∈ as, isPlainName a.1 = true) :
    readAttributes .between (attributesChars as) = some as := by
  induction as with
  | nil => rfl
  | cons a as ih =>
    have hname : '=' ∉ a.1.toList := fun hc =>
      ((plain_chars (h a List.mem_cons_self)).2 _ hc).2.2.2.1 rfl
    have hvalue : '"' ∉ a.2.toList.flatMap attributeChar := by
      rw [List.mem_flatMap]
      rintro ⟨c, -, hc⟩
      exact (bracket_notMem_attributeChar c).2.2 hc
    rw [attributesChars, List.flatMap_cons, ← attributesChars, List.cons_append, readAttributes,
      if_pos rfl, List.append_assoc, List.cons_append, readAttributes_name hname,
      List.cons_append, readAttributes, if_pos rfl, List.append_assoc, List.singleton_append,
      readAttributes_value hvalue, ih fun b hb => h b (List.mem_cons_of_mem _ hb)]
    simp [unescape_flatMap_attributeChar]

lemma readName_append {tag : String} (h : isPlainName tag = true)
    (as : List (String × String)) :
    readName (tag.toList ++ attributesChars as) = (tag, attributesChars as) := by
  have hall : ∀ c ∈ tag.toList, (c != ' ') = true := fun c hc => by
    simpa using ((plain_chars h).2 c hc).2.2.2.2.1
  rw [readName, List.takeWhile_append_of_pos hall, List.dropWhile_append_of_pos hall]
  cases as with
  | nil => simp [attributesChars]
  | cons a as => simp [attributesChars]

lemma head?_tag {tag : String} (h : isPlainName tag = true) (cs : List Char) :
    (tag.toList ++ cs).head? ≠ some '/' := by
  obtain ⟨hne, hall⟩ := plain_chars h
  cases hcs : tag.toList with
  | nil => exact absurd hcs hne
  | cons c cs' =>
    have hc : c ≠ '/' := (hall c (by rw [hcs]; exact List.mem_cons_self)).2.2.1
    simpa using hc

lemma getLast?_tag {tag : String} (h : isPlainName tag = true) (as : List (String × String)) :
    (tag.toList ++ attributesChars as).getLast? ≠ some '/' := by
  rcases List.eq_nil_or_concat as with rfl | ⟨as, a, rfl⟩
  · intro hlast
    rw [attributesChars, List.flatMap_nil, List.append_nil] at hlast
    exact ((plain_chars h).2 _ (List.mem_of_getLast? hlast)).2.2.1 rfl
  · obtain ⟨cs, hcs⟩ : ∃ cs, tag.toList ++ attributesChars (as.concat a) = cs ++ ['"'] :=
      ⟨tag.toList ++ attributesChars as ++
        ' ' :: (a.1.toList ++ '=' :: '"' :: a.2.toList.flatMap attributeChar),
        by simp [attributesChars]⟩
    rw [hcs, List.getLast?_concat]
    decide

/-- An opening tag, or the tag of an element that is not closed, is read back. -/
lemma readTag_open {tag : String} {as : List (String × String)} (h : isPlainName tag = true)
    (has : ∀ a ∈ as, isPlainName a.1 = true) :
    readTag (tag.toList ++ attributesChars as) =
      some (if voidNames.contains tag then .single tag as else .opening tag as) := by
  rw [readTag, if_neg (head?_tag h _), if_neg (getLast?_tag h as), readName_append h]
  simp only [readAttributes_chars has, Option.map_some]

/-- A tag that closes itself is read back. -/
lemma readTag_closed {tag : String} {as : List (String × String)} (h : isPlainName tag = true)
    (has : ∀ a ∈ as, isPlainName a.1 = true) :
    readTag (tag.toList ++ attributesChars as ++ ['/']) = some (.single tag as) := by
  rw [readTag, List.append_assoc, if_neg (head?_tag h _), ← List.append_assoc,
    if_pos List.getLast?_concat, List.dropLast_concat, readName_append h]
  simp only [readAttributes_chars has, Option.map_some]

lemma readTag_close (tag : String) : readTag ('/' :: tag.toList) = some (.closing tag) := by
  simp [readTag]

end VisualTemplate.Document
