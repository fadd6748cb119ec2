import VisualTemplate.Proofs.Markup.Written
import VisualTemplate.Proofs.Text.Lines
/-!
Escaped texts decoded.

A text between tags is written with three references and with breaks, and each of the three markup
characters stands nowhere else in it. So a text that itself looks like a break or a reference is
told from one: with breaks and references read, the written text is the text with plain line ends.
-/

namespace VisualTemplate.Document

/-! ### Markup characters in written text -/

/-- The references that a text between tags is written with. -/
def textReferences : List (List Char) := ["&amp;".toList, "&lt;".toList, "&gt;".toList]

/-- Angle brackets stand in breaks only, and ampersands only begin references. -/
structure Encoded (cs : List Char) : Prop where
  opening : ∀ front back, cs = front ++ '<' :: back → ['b', 'r', '>'] <+: back
  closing : ∀ front back, cs = front ++ '>' :: back → ['<', 'b', 'r'] <:+ front
  ampersand : ∀ front back, cs = front ++ '&' :: back → ∃ r ∈ textReferences, r <+: '&' :: back

lemma encoded_nil : Encoded [] := by
  constructor <;> intro front back h <;> simp at h

/-- A character of two texts one after the other is one of either. -/
lemma append_eq_append_cons {as bs front back : List Char} {c : Char}
    (h : as ++ bs = front ++ c :: back) :
    (∃ rest, as = front ++ c :: rest ∧ back = rest ++ bs) ∨
      ∃ rest, front = as ++ rest ∧ bs = rest ++ c :: back := by
  rcases List.append_eq_append_iff.1 h with ⟨rest, hfront, hbs⟩ | ⟨rest, has, hback⟩
  · exact .inr ⟨rest, hfront, hbs⟩
  · cases rest with
    | nil => exact .inr ⟨[], by simpa using has.symm, hback.symm⟩
    | cons x rest =>
      obtain ⟨rfl, rfl⟩ := List.cons.inj hback
      exact .inl ⟨rest, has, rfl⟩

lemma Encoded.append {as bs : List Char} (ha : Encoded as) (hb : Encoded bs) :
    Encoded (as ++ bs) where
  opening front back h := by
    rcases append_eq_append_cons h with ⟨rest, has, rfl⟩ | ⟨rest, rfl, hbs⟩
    · exact (ha.opening _ _ has).trans (List.prefix_append _ _)
    · exact hb.opening _ _ hbs
  closing front back h := by
    rcases append_eq_append_cons h with ⟨rest, has, rfl⟩ | ⟨rest, rfl, hbs⟩
    · exact ha.closing _ _ has
    · exact (hb.closing _ _ hbs).trans (List.suffix_append _ _)
  ampersand front back h := by
    rcases append_eq_append_cons h with ⟨rest, has, rfl⟩ | ⟨rest, rfl, hbs⟩
    · obtain ⟨r, hr, hprefix⟩ := ha.ampersand _ _ has
      exact ⟨r, hr, hprefix.trans (List.prefix_append _ _)⟩
    · exact hb.ampersand _ _ hbs

lemma encoded_of_notMem {cs : List Char} (hlt : '<' ∉ cs) (hgt : '>' ∉ cs) (hamp : '&' ∉ cs) :
    Encoded cs where
  opening _ _ h := absurd (h ▸ List.mem_append_right _ List.mem_cons_self) hlt
  closing _ _ h := absurd (h ▸ List.mem_append_right _ List.mem_cons_self) hgt
  ampersand _ _ h := absurd (h ▸ List.mem_append_right _ List.mem_cons_self) hamp

lemma encoded_reference {name : List Char} (hr : '&' :: name ∈ textReferences) :
    Encoded ('&' :: name) := by
  have hchars : ∀ r ∈ textReferences, '<' ∉ r ∧ '>' ∉ r ∧ '&' ∉ r.tail := by decide
  obtain ⟨hlt, hgt, hamp⟩ := hchars _ hr
  refine ⟨fun _ _ h => absurd (h ▸ List.mem_append_right _ List.mem_cons_self) hlt,
    fun _ _ h => absurd (h ▸ List.mem_append_right _ List.mem_cons_self) hgt,
    fun front back h => ⟨_, hr, ?_⟩⟩
  -- the ampersand is the first character
  cases front with
  | nil => exact h ▸ List.prefix_refl _
  | cons c front =>
    obtain ⟨-, rfl⟩ := List.cons.inj h
    exact absurd (List.mem_append_right _ List.mem_cons_self) hamp

lemma encoded_break : Encoded ['<', 'b', 'r', '>'] := by
  refine ⟨fun front back h => ?_, fun front back h => ?_, fun front back h => ?_⟩
  · cases front with
    | nil => exact (List.cons.inj h).2 ▸ List.prefix_refl _
    | cons c front =>
      have hmem : '<' ∈ ['b', 'r', '>'] :=
        (List.cons.inj h).2 ▸ List.mem_append_right _ List.mem_cons_self
      exact absurd hmem (by decide)
  · have hbreak : ['<', 'b', 'r', '>'] = ['<', 'b', 'r'] ++ ['>'] := rfl
    rcases append_eq_append_cons (hbreak ▸ h) with ⟨rest, hfront, -⟩ | ⟨rest, rfl, hrest⟩
    · have hmem : '>' ∈ ['<', 'b', 'r'] := hfront ▸ List.mem_append_right _ List.mem_cons_self
      exact absurd hmem (by decide)
    · obtain rfl : rest = [] := by
        have hlength := congrArg List.length hrest
        simp only [List.length_append, List.length_cons, List.length_nil] at hlength
        exact List.length_eq_zero_iff.1 (by omega)
      exact List.suffix_refl _
  · have hmem : '&' ∈ ['<', 'b', 'r', '>'] := h ▸ List.mem_append_right _ List.mem_cons_self
    exact absurd hmem (by decide)

lemma encoded_textChar (c : Char) : Encoded (textChar c) := by
  unfold textChar
  split
  · exact encoded_reference (by decide)
  split
  · exact encoded_reference (by decide)
  split
  · exact encoded_reference (by decide)
  · next hamp hlt hgt =>
    exact encoded_of_notMem (by simpa [eq_comm] using hlt) (by simpa [eq_comm] using hgt)
      (by simpa [eq_comm] using hamp)

lemma encoded_line (line : List Char) : Encoded (line.flatMap textChar) := by
  induction line with
  | nil => exact encoded_nil
  | cons c line ih =>
    rw [List.flatMap_cons]
    exact (encoded_textChar c).append ih

lemma encoded_lines (ls : List (List Char)) :
    Encoded ("<br>".toList.intercalate (ls.map (·.flatMap textChar))) := by
  induction ls with
  | nil => exact encoded_nil
  | cons l ls ih =>
    cases ls with
    | nil => simpa using encoded_line l
    | cons l' ls =>
      rw [List.map_cons, List.map_cons, List.intercalate_cons_cons]
      exact ((encoded_line l).append encoded_break).append ih

/-! ### Breaks -/

/-- A text with a line feed in place of each break. -/
def readBreaks : List Char → List Char
  | '<' :: 'b' :: 'r' :: '>' :: cs => '\n' :: readBreaks cs
  | c :: cs => c :: readBreaks cs
  | [] => []

lemma readBreaks_append {line : List Char} (h : '<' ∉ line) (rest : List Char) :
    readBreaks (line ++ rest) = line ++ readBreaks rest := by
  induction line with
  | nil => rfl
  | cons c line ih =>
    rw [List.mem_cons, not_or] at h
    rw [List.cons_append, readBreaks, ih h.2, List.cons_append]
    exact fun _ heq => absurd heq.symm h.1

/-- Breaks between lines are read as line feeds. -/
lemma readBreaks_lines {ls : List (List Char)} (h : ∀ l ∈ ls, '<' ∉ l) :
    readBreaks ("<br>".toList.intercalate ls) = ['\n'].intercalate ls := by
  induction ls with
  | nil => rfl
  | cons l ls ih =>
    rw [List.forall_mem_cons] at h
    cases ls with
    | nil =>
      rw [List.intercalate_singleton, List.intercalate_singleton]
      simpa [readBreaks] using readBreaks_append h.1 []
    | cons l' ls =>
      have hbreak (cs : List Char) : readBreaks ("<br>".toList ++ cs) = '\n' :: readBreaks cs :=
        rfl
      rw [List.intercalate_cons_cons, List.intercalate_cons_cons, List.append_assoc,
        readBreaks_append h.1, hbreak, ih h.2, List.append_assoc]
      rfl

/-- Escaping leaves the line feeds between lines. -/
lemma intercalate_escaped (ls : List (List Char)) :
    ['\n'].intercalate (ls.map (·.flatMap textChar)) =
      (['\n'].intercalate ls).flatMap textChar := by
  induction ls with
  | nil => rfl
  | cons l ls ih =>
    cases ls with
    | nil => simp
    | cons l' ls =>
      have hfeed : ['\n'].flatMap textChar = ['\n'] := rfl
      rw [List.map_cons, List.map_cons, List.intercalate_cons_cons, List.intercalate_cons_cons,
        ← List.map_cons, ih, List.flatMap_append, List.flatMap_append, hfeed]

/-! ### Written texts -/

lemma unescape_readBreaks (s : String) : unescape (readBreaks (textWithBreaks s).toList) =
    ['\n'].intercalate (Text.lines s.toList) := by
  have hbrackets : ∀ l ∈ (Text.lines s.toList).map (·.flatMap textChar), '<' ∉ l := by
    intro l hl
    obtain ⟨line, -, rfl⟩ := List.mem_map.1 hl
    exact (bracket_notMem_line line).1
  rw [toList_textWithBreaks, readBreaks_lines hbrackets, intercalate_escaped]
  simpa [unescape] using unescape_flatMap_textChar (['\n'].intercalate (Text.lines s.toList)) []

lemma apostrophe_notMem_attributeChar (c : Char) : '\'' ∉ attributeChar c := by
  unfold attributeChar
  split
  · decide
  split
  · decide
  · next hapostrophe =>
    unfold textChar
    split
    · decide
    split
    · decide
    split
    · decide
    · simpa [eq_comm] using hapostrophe

/-- **Escaped texts are decodable.** In a text between tags, angle brackets stand in breaks only and
ampersands only begin the three references; with the breaks read as line feeds and the references as
their characters, it is the text with plain line ends and without a last line feed. A text in an
attribute has no angle bracket and no quote of either kind, and with its references read it is the
text. -/
theorem written_decodes (s : String) :
    Encoded (textWithBreaks s).toList ∧
      unescape (readBreaks (textWithBreaks s).toList) =
        Text.dropLineFeed (Text.unifyReturns s.toList) ∧
      ('<' ∉ (escapeAttribute s).toList ∧ '>' ∉ (escapeAttribute s).toList ∧
        '"' ∉ (escapeAttribute s).toList ∧ '\'' ∉ (escapeAttribute s).toList) ∧
      unescape (escapeAttribute s).toList = s.toList := by
  have hattribute : (escapeAttribute s).toList = s.toList.flatMap attributeChar :=
    String.toList_ofList
  refine ⟨?_, ?_, ?_, ?_⟩
  · rw [toList_textWithBreaks]
    exact encoded_lines _
  · rw [unescape_readBreaks, Text.intercalate_lines]
  · have hnone {b : Char} (h : ∀ c, b ∉ attributeChar c) : b ∉ (escapeAttribute s).toList := by
      rw [hattribute, List.mem_flatMap]
      rintro ⟨c, -, hc⟩
      exact h c hc
    exact ⟨hnone fun c => (bracket_notMem_attributeChar c).1,
      hnone fun c => (bracket_notMem_attributeChar c).2.1,
      hnone fun c => (bracket_notMem_attributeChar c).2.2, hnone apostrophe_notMem_attributeChar⟩
  · rw [hattribute, unescape_flatMap_attributeChar]

end VisualTemplate.Document
