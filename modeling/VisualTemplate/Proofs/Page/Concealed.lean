import VisualTemplate.Proofs.Page.Texts
import VisualTemplate.Proofs.Node.Rendered
/-!
What a page conceals.

An element whose style hides it becomes hidden nodes, and nothing below a hidden node is rendered.
But a text element is one leaf for each line, and its lines are cut from all that stands in it,
whatever the styles of the elements in it say. So the rendered texts are those of the pieces of a
page that no hidden element is around, with all that hidden elements inside of a piece hold.
-/

namespace VisualTemplate

/-- What the rendered texts among some nodes and all below them say, in pre-order. -/
def Node.spoken (ns : List Node) : List String := (Node.renderedIn ns).filterMap Node.content?

/-- What the texts of a schema say that are rendered when no variant is chosen. -/
def Schema.spoken (s : Schema) : List String := Node.spoken s.top

namespace Node

lemma spoken_append (ns ms : List Node) : spoken (ns ++ ms) = spoken ns ++ spoken ms := by
  rw [spoken, renderedIn_append, List.filterMap_append, spoken, spoken]

lemma spoken_container {head : Head} (hvisible : head.visible = true) (layout : Layout)
    (ns : List Node) : spoken [.container head layout ns] = spoken ns := by
  rw [spoken, renderedIn, rendered, if_pos hvisible, renderedIn, List.append_nil]
  exact List.filterMap_cons_none rfl

lemma rendered_hide (n : Node) : n.hide.rendered = [] := by
  cases n <;> rfl

/-- Of hidden nodes nothing is said. -/
lemma spoken_map_hide (ns : List Node) : spoken (ns.map hide) = [] := by
  have hnone : renderedIn (ns.map hide) = [] := by
    rw [renderedIn_eq_flatMap, List.flatMap_map, List.flatMap_eq_nil_iff]
    exact fun n _ => rendered_hide n
  rw [spoken, hnone, List.filterMap_nil]

lemma spoken_sublist (ns : List Node) : (spoken ns).Sublist (contents ns) :=
  (sublist_preorders ns).filterMap _

end Node

namespace Html

/-! ### Characters below hidden elements -/

mutual

/-- The characters of a node and of all below it, each with whether a hidden element is around it.
`hidden` says so of the node itself. -/
def Dom.veiled (hidden : Bool) : Dom → List (Char × Bool)
  | .element e cs => Dom.veiledIn (hidden || (Page.styleOf e).isHidden) cs
  | .text s => s.toList.map (·, hidden)
  | .contents cs => Dom.veiledIn hidden cs
  | .other => []

def Dom.veiledIn (hidden : Bool) : List Dom → List (Char × Bool)
  | [] => []
  | d :: ds => d.veiled hidden ++ Dom.veiledIn hidden ds

end

mutual

/-- The elements of a node and of all below it with their children, in order. -/
def Dom.elements : Dom → List (Element × List Dom)
  | .element e cs => (e, cs) :: Dom.elementsIn cs
  | .contents cs => Dom.elementsIn cs
  | .text _ => []
  | .other => []

def Dom.elementsIn : List Dom → List (Element × List Dom)
  | [] => []
  | d :: ds => d.elements ++ Dom.elementsIn ds

end

/-- The characters of some nodes and of all below them. -/
def Dom.charsIn (ds : List Dom) : List Char := (Dom.textsIn ds).flatMap String.toList

lemma Dom.charsIn_cons (d : Dom) (ds : List Dom) :
    Dom.charsIn (d :: ds) = d.texts.flatMap String.toList ++ Dom.charsIn ds := by
  rw [charsIn, textsIn, List.flatMap_append, charsIn]

mutual

lemma map_fst_veiled (hidden : Bool) (d : Dom) :
    (d.veiled hidden).map Prod.fst = d.texts.flatMap String.toList := by
  match d with
  | .element e cs => exact map_fst_veiledIn _ cs
  | .text s => simp [Dom.veiled, Dom.texts, Function.comp_def]
  | .contents cs => exact map_fst_veiledIn _ cs
  | .other => rfl

/-- The characters are those of the texts, whatever is hidden. -/
lemma map_fst_veiledIn (hidden : Bool) (ds : List Dom) :
    (Dom.veiledIn hidden ds).map Prod.fst = Dom.charsIn ds := by
  match ds with
  | [] => rfl
  | d :: ds =>
    rw [Dom.veiledIn, List.map_append, map_fst_veiled hidden d, map_fst_veiledIn hidden ds,
      Dom.charsIn_cons]

end

/-- A hidden element of a list that holds a character. -/
def Hides (c : Char) (p : Element × List Dom) : Prop :=
  (Page.styleOf p.1).isHidden = true ∧ c ∈ Dom.charsIn p.2

mutual

lemma mem_veiled_iff {c : Char} (hidden : Bool) (d : Dom) :
    (c, true) ∈ d.veiled hidden ↔
      hidden = true ∧ c ∈ d.texts.flatMap String.toList ∨ ∃ p ∈ d.elements, Hides c p := by
  match d with
  | .element e cs =>
    rw [Dom.veiled, mem_veiledIn_iff _ cs, Bool.or_eq_true, Dom.elements,
      List.exists_mem_cons_iff, Hides, Dom.texts, Dom.charsIn, or_and_right, or_assoc]
  | .contents cs => exact mem_veiledIn_iff hidden cs
  | .text s =>
    simp [Dom.veiled, Dom.texts, Dom.elements, eq_comm, and_comm]
  | .other => simp [Dom.veiled, Dom.texts, Dom.elements]

/-- A character is marked exactly if a hidden element holds it. -/
lemma mem_veiledIn_iff {c : Char} (hidden : Bool) (ds : List Dom) :
    (c, true) ∈ Dom.veiledIn hidden ds ↔
      hidden = true ∧ c ∈ Dom.charsIn ds ∨ ∃ p ∈ Dom.elementsIn ds, Hides c p := by
  match ds with
  | [] => simp [Dom.veiledIn, Dom.charsIn, Dom.textsIn, Dom.elementsIn]
  | d :: ds =>
    rw [Dom.veiledIn, List.mem_append, mem_veiled_iff hidden d, mem_veiledIn_iff hidden ds,
      Dom.charsIn_cons, Dom.elementsIn, List.mem_append]
    simp only [List.mem_append, or_and_right, exists_or, and_or_left]
    exact or_or_or_comm

end

end Html

namespace Page

open Html

/-! ### What is said -/

mutual

/-- The parts of a page that come out as rendered texts, each as the nodes whose lines they say:
what is in a text element, and a text beside other elements. -/
def pieces : Dom → List (List Dom)
  | .element e cs =>
    if ignoredTags.contains e.tag || (styleOf e).isHidden || e.tag = "img" || e.tag = "svg" then []
    else if isText cs then [cs]
    else piecesIn cs
  | .text s => [[.text s]]
  | .contents _ => []
  | .other => []

def piecesIn : List Dom → List (List Dom)
  | [] => []
  | d :: ds => pieces d ++ piecesIn ds

end

/-- Elements that are left out, are hidden or are pictures have no pieces. -/
lemma pieces_of_silent {e : Element} {cs : List Dom}
    (h : ignoredTags.contains e.tag = true ∨ (styleOf e).isHidden = true ∨ e.tag = "img" ∨
      e.tag = "svg") : pieces (.element e cs) = [] := by
  rw [pieces, if_pos]
  simpa only [Bool.or_eq_true, decide_eq_true_eq, or_assoc] using h

lemma pieces_of_reached {e : Element} {cs : List Dom} (hkept : ¬ ignoredTags.contains e.tag = true)
    (hshown : ¬ (styleOf e).isHidden = true) (himg : e.tag ≠ "img") (hsvg : e.tag ≠ "svg") :
    pieces (.element e cs) = if isText cs then [cs] else piecesIn cs := by
  rw [pieces, if_neg]
  simpa only [Bool.or_eq_true, decide_eq_true_eq, not_or] using ⟨⟨⟨hkept, hshown⟩, himg⟩, hsvg⟩

/-- The characters of the pieces, each with whether an element of its piece hides it. -/
def told (ds : List Dom) : List (Char × Bool) := (piecesIn ds).flatMap (Dom.veiledIn false)

mutual

lemma veiled_sublist (d : Dom) :
    ((pieces d).flatMap (Dom.veiledIn false)).Sublist (d.veiled false) := by
  match d with
  | .element e cs =>
    rw [pieces]
    split
    · exact List.nil_sublist _
    · next hreached =>
      have hshown : (styleOf e).isHidden = false := by
        simp only [Bool.or_eq_true, not_or, Bool.not_eq_true] at hreached
        exact hreached.1.1.2
      rw [Dom.veiled, hshown, Bool.or_false]
      split
      · rw [List.flatMap_singleton]
      · exact told_sublist cs
  | .text s => simp [pieces, Dom.veiledIn]
  | .contents cs => exact List.nil_sublist _
  | .other => exact List.nil_sublist _

/-- No hidden element is around a piece. -/
lemma told_sublist (ds : List Dom) : (told ds).Sublist (Dom.veiledIn false ds) := by
  match ds with
  | [] => exact List.nil_sublist _
  | d :: ds =>
    rw [told, piecesIn, List.flatMap_append, Dom.veiledIn]
    exact (veiled_sublist d).append (told_sublist ds)

end

/-! ### Lines and pieces -/

mutual

lemma filterMap_marked_eq (d : Dom) : (marked d).filterMap id = d.texts.flatMap String.toList := by
  match d with
  | .element e cs =>
    rw [marked, List.filterMap_append, filterMap_markedIn_eq cs, Dom.texts, Dom.charsIn]
    split <;> rfl
  | .text s => simp [marked, Dom.texts]
  | .contents cs => exact filterMap_markedIn_eq cs
  | .other => rfl

/-- Between the line breaks stand the characters of the texts. -/
lemma filterMap_markedIn_eq (ds : List Dom) : (markedIn ds).filterMap id = Dom.charsIn ds := by
  match ds with
  | [] => rfl
  | d :: ds =>
    rw [markedIn, List.filterMap_append, filterMap_marked_eq d, filterMap_markedIn_eq ds,
      Dom.charsIn_cons]

end

/-- A text outside of text elements is one line, or none if it is blank. -/
lemma lines_singleton_text (t : String) :
    lines [.text t] =
      if (Text.collapse t.toList).isEmpty then [] else [.ofList (Text.collapse t.toList)] := by
  have hparts : (markedIn [.text t]).splitOn none = [t.toList.map some] := by
    rw [markedIn, marked, markedIn, List.append_nil, List.splitOn_eq_splitOnP,
      List.splitOnP_eq_singleton]
    simp
  have hline : (t.toList.map some).filterMap id = t.toList := by simp
  rw [lines, hparts, List.map_singleton, hline]
  cases Text.collapse t.toList <;> rfl

/-- The lines of the pieces hold their characters and nothing else. -/
lemma ink_told (ds : List Dom) :
    Text.ink (((piecesIn ds).flatMap lines).flatMap String.toList) =
      Text.ink ((told ds).map Prod.fst) := by
  rw [told]
  induction piecesIn ds with
  | nil => rfl
  | cons piece rest ih =>
    rw [List.flatMap_cons, List.flatMap_append, Text.ink_append, ih, ink_lines,
      filterMap_markedIn_eq, List.flatMap_cons, List.map_append, Text.ink_append, map_fst_veiledIn]

/-- Nothing that is hidden is told exactly if the hidden elements inside of text elements are
blank. -/
lemma told_blank_iff (ds : List Dom) :
    (∀ c, (c, true) ∈ told ds → Text.isBlank c = true) ↔
      ∀ piece ∈ piecesIn ds, ∀ p ∈ Dom.elementsIn piece, (styleOf p.1).isHidden = true →
        ∀ t ∈ Dom.textsIn p.2, t.isBlank = true := by
  have hmem (c : Char) : (c, true) ∈ told ds ↔
      ∃ piece ∈ piecesIn ds, ∃ p ∈ Dom.elementsIn piece, Hides c p := by
    simp only [told, List.mem_flatMap, mem_veiledIn_iff, Bool.false_eq_true, false_and, false_or]
  constructor
  · intro hblank piece hpiece p hp hhidden t ht
    refine List.all_eq_true.2 fun c hc => hblank c ((hmem c).2 ⟨piece, hpiece, p, hp, hhidden, ?_⟩)
    exact List.mem_flatMap.2 ⟨t, ht, hc⟩
  · intro hblank c hc
    obtain ⟨piece, hpiece, p, hp, hhidden, hchar⟩ := (hmem c).1 hc
    obtain ⟨t, ht, hc⟩ := List.mem_flatMap.1 hchar
    exact List.all_eq_true.1 (hblank piece hpiece p hp hhidden t ht) c hc

/-! ### The walk -/

lemma spoken_drawing (c : MarkupConfig) (s : Progress) (style : InlineStyle) (p : Place) :
    Node.spoken (drawing c s style p).1 = [] := by
  have hsaid := Node.spoken_sublist (drawing c s style p).1
  rw [contents_drawing] at hsaid
  exact List.sublist_nil.1 hsaid

variable [Engine]

lemma spoken_linesOf (s : Progress) (settings : TextSettings) (style : InlineStyle)
    (width height : Length) (contents : List String) :
    Node.spoken (linesOf s settings style width height contents).1 = contents := by
  induction contents generalizing s with
  | nil => rfl
  | cons content rest ih => exact congrArg (content :: ·) (ih _)

lemma spoken_text (s : Progress) (settings : TextSettings) (style : InlineStyle) (ds : List Dom) :
    Node.spoken (text s settings style ds).1 = lines ds := by
  unfold text
  split
  · next content hlines => rw [hlines, spoken_linesOf]
  · exact spoken_linesOf ..

mutual

lemma spoken_nodes (c : MarkupConfig) (around : List Element) (settings : TextSettings)
    (s : Progress) (d : Dom) :
    Node.spoken (nodes c around settings s d).1 = (pieces d).flatMap lines := by
  match d with
  | .text t =>
    rw [nodes, pieces, List.flatMap_singleton, lines_singleton_text]
    split
    · rfl
    · exact spoken_linesOf ..
  | .element e cs =>
    rw [nodes]
    split
    · next hignored =>
      rw [pieces_of_silent (.inl hignored)]
      rfl
    · next hignored =>
      dsimp only
      by_cases hhidden : (styleOf e).isHidden = true
      · -- whatever comes of the element is hidden
        rw [if_pos hhidden, pieces_of_silent (.inr (.inl hhidden))]
        exact Node.spoken_map_hide _
      · rw [if_neg hhidden]
        split
        · next himg =>
          rw [pieces_of_silent (.inr (.inr (.inl himg)))]
          rfl
        · next himg =>
          split
          · next hsvg =>
            rw [pieces_of_silent (.inr (.inr (.inr hsvg)))]
            exact spoken_drawing ..
          · next hsvg =>
            rw [pieces_of_reached hignored hhidden himg hsvg]
            split
            · rw [List.flatMap_singleton]
              exact spoken_text ..
            · rw [← spoken_nodesIn c (e :: around)]
              exact Node.spoken_container rfl ..
  | .contents cs => rfl
  | .other => rfl

/-- The rendered texts of a part of a page say the lines of its pieces. -/
lemma spoken_nodesIn (c : MarkupConfig) (around : List Element) (settings : TextSettings)
    (s : Progress) (ds : List Dom) :
    Node.spoken (nodesIn c around settings s ds).1 = (piecesIn ds).flatMap lines := by
  match ds with
  | [] => rfl
  | d :: ds =>
    rw [nodesIn, piecesIn, List.flatMap_append, ← spoken_nodes c around settings s d,
      ← spoken_nodesIn c around settings _ ds]
    exact Node.spoken_append ..

end

lemma spoken_frame (c : MarkupConfig) (s : Progress) (root : Place) :
    Node.spoken [(frame c s root).1] = (piecesIn root.children).flatMap lines := by
  unfold frame
  dsimp only
  rw [Node.spoken_container rfl]
  split
  · exact (Node.spoken_container rfl ..).trans (spoken_nodesIn ..)
  · exact spoken_nodesIn ..

end Page

open Html

/-- The rendered texts of an imported page say the lines of its pieces. -/
lemma Html.Document.exists_spoken [Engine] {config : MarkupConfig} {id : String} {d : Html.Document}
    {i : Import} (h : d.toImport config id = .ok i) :
    ∃ root, Page.root? config.canvas d = some root ∧
      i.schema.spoken = (Page.piecesIn root.children).flatMap Page.lines := by
  obtain ⟨root, s, hroot, htop⟩ := top_toImport h
  refine ⟨root, hroot, ?_⟩
  rw [Schema.spoken, htop, Page.spoken_frame]

/-- **What a page conceals is told by text elements only.** The texts of an imported schema that are
rendered when no variant is chosen say the lines of the pieces of the page, in order. Their
characters are found in the page in the same order, blanks apart, and no hidden element is around a
piece. So none of them stands below a hidden element exactly if the hidden elements inside of the
pieces hold nothing but blanks. -/
theorem Html.Document.toImport_spoken [Engine] {config : MarkupConfig} {id : String}
    {d : Html.Document} {i : Import} (h : d.toImport config id = .ok i) :
    ∃ root, Page.root? config.canvas d = some root ∧
      i.schema.spoken = (Page.piecesIn root.children).flatMap Page.lines ∧
      Text.ink (i.schema.spoken.flatMap String.toList) =
        Text.ink ((Page.told root.children).map Prod.fst) ∧
      (Page.told root.children).Sublist (Dom.veiledIn false root.children) ∧
      ((∀ c, (c, true) ∈ Page.told root.children → Text.isBlank c = true) ↔
        ∀ piece ∈ Page.piecesIn root.children, ∀ p ∈ Dom.elementsIn piece,
          (Page.styleOf p.1).isHidden = true → ∀ t ∈ Dom.textsIn p.2, t.isBlank = true) := by
  obtain ⟨root, hroot, hspoken⟩ := exists_spoken h
  refine ⟨root, hroot, hspoken, ?_, Page.told_sublist _, Page.told_blank_iff _⟩
  rw [hspoken, Page.ink_told]

namespace Page

lemma root?_of_head (canvas : Canvas) (d : Html.Document) {p : Place} {ps : List Place}
    (hplaces : d.places = p :: ps)
    (hsorted : d.places.Pairwise fun p q => p.element.serial ≤ q.element.serial)
    (hsize : hasSize canvas p.element = true) : root? canvas d = some p := by
  rw [root?, Html.Document.inOrder_eq hsorted, hplaces]
  exact List.find?_cons_of_pos hsize

end Page

/-- All that has the letter in it is to be replaced. -/
def slip : MarkupConfig := { canvas := ⟨2, 1⟩, placeholderMarkers := ["e"] }

/-- A page with a text and a box that is not displayed. -/
def noticePage : Html.Document where
  children := [.element (.make 0 (html "div") [⟨.plain, "style", "width:2px;height:1px"⟩])
    [.element (.make 1 (html "p") []) [.text "Hello"],
      .element (.make 2 (html "div") [⟨.plain, "style", "display:none"⟩]) [.text "secret"]]]

theorem Html.Document.toImport_spoken_notice :
    ∃ i root, noticePage.toImport slip "card" = .ok i ∧
      Page.root? slip.canvas noticePage = some root ∧ i.schema.spoken = ["Hello"] ∧
      ((Dom.veiledIn false root.children).filter (·.2)).map Prod.fst = "secret".toList ∧
      ∀ c, (c, true) ∈ Page.told root.children → Text.isBlank c = true := by
  have hplaces : noticePage.places.Pairwise fun p q => p.element.serial ≤ q.element.serial := by
    decide +kernel
  have hroot := Page.root?_of_head slip.canvas noticePage rfl hplaces (by decide +kernel)
  have hcheck : (noticePage.toImport slip "card").toOption.any (fun _ => true) = true := by
    simp only [Html.Document.toImport, Page.root?, Page.title?, Html.Document.inOrder_eq hplaces]
    decide +kernel
  obtain ⟨i, hi, -⟩ := exists_ok_of_any hcheck
  obtain ⟨root, hroot', hspoken, -, -, hblank⟩ := toImport_spoken hi
  obtain rfl := Option.some.inj (hroot.symm.trans hroot')
  refine ⟨i, _, hi, hroot, ?_, by decide +kernel, hblank.2 ?_⟩
  · rw [hspoken]
    decide +kernel
  · decide +kernel

/-- A page with a text that holds a word that is not displayed. -/
def secretPage : Html.Document where
  children := [.element (.make 0 (html "div") [⟨.plain, "style", "width:2px;height:1px"⟩])
    [.element (.make 1 (html "p") [])
      [.text "Hello ",
        .element (.make 2 (html "span") [⟨.plain, "style", "display:none"⟩]) [.text "secret"]]]]

/-- A hidden word inside of a text element is said by a rendered text. -/
theorem Html.Document.hidden_word_spoken :
    ∃ i root, secretPage.toImport slip "card" = .ok i ∧
      Page.root? slip.canvas secretPage = some root ∧ i.schema.spoken = ["Hello secret"] ∧
      ((Dom.veiledIn false root.children).filter (·.2)).map Prod.fst = "secret".toList := by
  have hplaces : secretPage.places.Pairwise fun p q => p.element.serial ≤ q.element.serial := by
    decide +kernel
  have hroot := Page.root?_of_head slip.canvas secretPage rfl hplaces (by decide +kernel)
  have hcheck : (secretPage.toImport slip "card").toOption.any (fun _ => true) = true := by
    simp only [Html.Document.toImport, Page.root?, Page.title?, Html.Document.inOrder_eq hplaces]
    decide +kernel
  obtain ⟨i, hi, -⟩ := exists_ok_of_any hcheck
  obtain ⟨root, hroot', hspoken⟩ := exists_spoken hi
  obtain rfl := Option.some.inj (hroot.symm.trans hroot')
  refine ⟨i, _, hi, hroot, ?_, by decide +kernel⟩
  rw [hspoken]
  decide +kernel

end VisualTemplate
