import VisualTemplate.Proofs.Schema.Reload
/-!
The texts of a page come over whole.

An element is cut into lines at its line breaks if there is nothing but text in it, and walked into
otherwise. Either way each character that is shown comes into one text of the schema, and the order
of the texts is that of the page. Blanks count only as what stands between two words.
-/

namespace VisualTemplate

namespace Text

variable {α : Type} {p : α → Bool}

lemma flatten_splitOnP (xs : List α) : (xs.splitOnP p).flatten = xs.filter (!p ·) := by
  induction xs with
  | nil => rfl
  | cons x xs ih =>
    rw [List.splitOnP_cons_eq_if_modifyHead, List.filter_cons]
    cases hx : p x with
    | true => simpa using ih
    | false =>
      obtain ⟨part, parts, hparts⟩ := List.exists_cons_of_ne_nil (List.splitOnP_ne_nil p xs)
      rw [hparts] at ih ⊢
      simpa using ih

lemma forall_mem_splitOnP (xs : List α) :
    ∀ part ∈ xs.splitOnP p, ∀ x ∈ part, p x = false := by
  intro part hpart x hx
  have hmem : x ∈ (xs.splitOnP p).flatten := List.mem_flatten.2 ⟨part, hpart, hx⟩
  rw [flatten_splitOnP] at hmem
  simpa using (List.mem_filter.1 hmem).2

/-- The characters that are not blank. -/
def ink (cs : List Char) : List Char := cs.filter (!isBlank ·)

lemma ink_append (as bs : List Char) : ink (as ++ bs) = ink as ++ ink bs := List.filter_append ..

lemma ink_intercalate (ws : List (List Char)) :
    ink ([' '].intercalate ws) = ink ws.flatten := by
  induction ws with
  | nil => rfl
  | cons w ws ih =>
    cases ws with
    | nil => simp
    | cons v vs =>
      have hblank : ink [' '] = [] := by decide
      rw [List.intercalate_cons_cons, ink_append, ink_append, ih, hblank, List.append_nil,
        List.flatten_cons (l := w), ink_append]

lemma flatten_words (cs : List Char) : (words cs).flatten = ink cs := by
  have hink : ink cs = (cs.splitOnP isBlank).flatten := (flatten_splitOnP cs).symm
  rw [hink, words, fields]
  induction cs.splitOnP isBlank with
  | nil => rfl
  | cons part parts ih =>
    cases part with
    | nil => simpa using ih
    | cons c part => simpa using ih

lemma ink_ink (cs : List Char) : ink (ink cs) = ink cs := by
  simp [ink]

lemma ink_collapse (cs : List Char) : ink (collapse cs) = ink cs := by
  rw [collapse, ink_intercalate, flatten_words, ink_ink]

/-- One word or more with single spaces between them. -/
def IsPhrase (cs : List Char) : Prop :=
  ∃ ws, ws ≠ [] ∧ (∀ w ∈ ws, w ≠ [] ∧ ∀ c ∈ w, isBlank c = false) ∧ cs = [' '].intercalate ws

lemma isPhrase_collapse {cs : List Char} (h : collapse cs ≠ []) : IsPhrase (collapse cs) := by
  refine ⟨words cs, fun hnone => h (by rw [collapse, hnone]; rfl), fun w hw => ?_, rfl⟩
  obtain ⟨hpart, hne⟩ := List.mem_filter.1 hw
  exact ⟨by simpa using hne, forall_mem_splitOnP cs w hpart⟩

end Text

/-- What a text node says. -/
def Node.content? : Node → Option String
  | .leaf _ (.text t) => some t.content
  | _ => none

/-- What the texts of some nodes and of all below them say, in pre-order. -/
def Node.contents (ns : List Node) : List String := (Node.preorders ns).filterMap Node.content?

/-- The contents of the texts of a schema, in pre-order. -/
def Schema.contents (s : Schema) : List String := Node.contents s.top

namespace Node

lemma contents_append (ns ms : List Node) : contents (ns ++ ms) = contents ns ++ contents ms := by
  simp [contents, preorders_eq_flatMap, List.filterMap_append]

lemma contents_container (head : Head) (layout : Layout) (ns : List Node) :
    contents [.container head layout ns] = contents ns := by
  rw [contents, preorders, preorder, preorders, List.append_nil]
  exact List.filterMap_cons_none rfl

lemma contents_hide (n : Node) : contents [n.hide] = contents [n] := by
  cases n with
  | container head layout ns => exact (contents_container ..).trans (contents_container ..).symm
  | leaf head leaf => cases leaf <;> rfl

lemma contents_map_hide (ns : List Node) : contents (ns.map hide) = contents ns := by
  induction ns with
  | nil => rfl
  | cons n ns ih =>
    rw [List.map_cons, ← List.singleton_append, contents_append, contents_hide, ih,
      ← contents_append, List.singleton_append]

end Node

namespace Html

/-! ### What a page shows -/

/-- Elements of whose texts nothing is shown. -/
def silentTags : List String :=
  ["script", "style", "head", "meta", "link", "title", "template", "noscript", "iframe", "img",
    "svg"]

mutual

/-- The characters of a node and of all below it, but for what is below silent elements or held by
templates. -/
def Dom.shown : Dom → List Char
  | .element e cs => if silentTags.contains e.tag then [] else Dom.shownIn cs
  | .text s => s.toList
  | .contents _ => []
  | .other => []

def Dom.shownIn : List Dom → List Char
  | [] => []
  | d :: ds => d.shown ++ Dom.shownIn ds

end

mutual

/-- Line breaks are empty, and contents are held by templates. -/
def Dom.isProper (inTemplate : Bool) : Dom → Bool
  | .element e cs => (e.tag != "br" || cs.isEmpty) && Dom.areProper (e.tag == "template") cs
  | .contents cs => inTemplate && Dom.areProper false cs
  | .text _ => true
  | .other => true

def Dom.areProper (inTemplate : Bool) : List Dom → Bool
  | [] => true
  | d :: ds => d.isProper inTemplate && Dom.areProper inTemplate ds

end

/-- A document as markup is read: line breaks are empty, and contents are held by templates. -/
def Document.IsProper (d : Document) : Prop :=
  Dom.areProper false d.children = true ∧ Dom.areProper false d.detached = true

instance : DecidablePred Document.IsProper := fun d =>
  inferInstanceAs (Decidable
    (Dom.areProper false d.children = true ∧ Dom.areProper false d.detached = true))

lemma Dom.areProper_eq_true {inTemplate : Bool} {ds : List Dom} :
    Dom.areProper inTemplate ds = true ↔ ∀ d ∈ ds, d.isProper inTemplate = true := by
  induction ds with
  | nil => simp [areProper]
  | cons d ds ih => simp [areProper, ih]

lemma Dom.isProper_element {inTemplate : Bool} {e : Element} {cs : List Dom} :
    Dom.isProper inTemplate (.element e cs) = true ↔
      (e.tag = "br" → cs = []) ∧ Dom.areProper (e.tag == "template") cs = true := by
  simp [isProper, ← imp_iff_not_or]

mutual

lemma isProper_places {inTemplate : Bool} {d : Dom} (h : d.isProper inTemplate = true)
    (parent : Option Place) (around : List Element) (before after : List Sibling) :
    ∀ p ∈ d.places parent around before after,
      Dom.areProper (p.tag == "template") p.children = true := by
  match d with
  | .element e cs =>
    have hcs := (Dom.isProper_element.1 h).2
    rw [Dom.places]
    exact List.forall_mem_cons.2 ⟨hcs, isProper_placesIn hcs _ _ _⟩
  | .contents cs =>
    rw [Dom.isProper, Bool.and_eq_true] at h
    rw [Dom.places]
    exact isProper_placesIn h.2 _ _ _
  | .text s => simp [Dom.places]
  | .other => simp [Dom.places]

/-- What is below an element of a proper part of a page is proper. -/
lemma isProper_placesIn {inTemplate : Bool} {ds : List Dom} (h : Dom.areProper inTemplate ds = true)
    (parent : Option Place) (around : List Element) (before : List Sibling) :
    ∀ p ∈ placesIn parent around before ds,
      Dom.areProper (p.tag == "template") p.children = true := by
  match ds with
  | [] => simp [placesIn]
  | d :: ds =>
    rw [Dom.areProper, Bool.and_eq_true] at h
    rw [placesIn]
    exact List.forall_mem_append.2
      ⟨isProper_places h.1 _ _ _ _, isProper_placesIn h.2 _ _ _⟩

end

lemma Document.IsProper.of_mem {d : Document} (h : d.IsProper) {p : Place} (hp : p ∈ d.inOrder) :
    Dom.areProper (p.tag == "template") p.children = true := by
  rw [inOrder, List.mem_mergeSort, places, List.mem_append, List.mem_flatMap] at hp
  rcases hp with hp | ⟨t, ht, hp⟩
  · exact isProper_placesIn h.1 _ _ _ p hp
  · have hproper := Dom.areProper_eq_true.1 h.2 t ht
    cases t with
    | element e cs => exact isProper_placesIn (Dom.isProper_element.1 hproper).2 _ _ _ p hp
    | text s => exact absurd hp List.not_mem_nil
    | other => exact absurd hp List.not_mem_nil
    | contents cs => exact absurd hp List.not_mem_nil

end Html

namespace Page

open Html

/-! ### Texts and their lines -/

/-- The texts of some nodes say what stands in a text, each of them as a phrase. -/
structure Says (ns : List Node) (cs : List Char) : Prop where
  ink : Text.ink ((Node.contents ns).flatMap String.toList) = Text.ink cs
  phrases : ∀ content ∈ Node.contents ns, Text.IsPhrase content.toList

namespace Says

variable {ns ms : List Node} {cs ds : List Char}

/-- Nodes that are no texts say nothing. -/
lemma of_contents (h : Node.contents ns = []) : Says ns [] where
  ink := by rw [h]; rfl
  phrases := by simp [h]

lemma append (h : Says ns cs) (h' : Says ms ds) : Says (ns ++ ms) (cs ++ ds) where
  ink := by
    rw [Node.contents_append, List.flatMap_append, Text.ink_append, h.ink, h'.ink, Text.ink_append]
  phrases := by
    rw [Node.contents_append]
    exact List.forall_mem_append.2 ⟨h.phrases, h'.phrases⟩

lemma container (h : Says ns cs) (head : Head) (layout : Layout) :
    Says [.container head layout ns] cs where
  ink := by rw [Node.contents_container, h.ink]
  phrases := by
    rw [Node.contents_container]
    exact h.phrases

lemma shown (h : Says ns cs) (hidden : Bool) :
    Says (if hidden then ns.map Node.hide else ns) cs := by
  split
  · exact ⟨by rw [Node.contents_map_hide, h.ink], by rw [Node.contents_map_hide]; exact h.phrases⟩
  · exact h

end Says

/-- The lines of a text hold its characters and nothing else, whatever the line breaks are. -/
lemma ink_lines (ds : List Dom) :
    Text.ink ((lines ds).flatMap String.toList) = Text.ink ((markedIn ds).filterMap id) := by
  have hmarks : (markedIn ds).filterMap id =
      ((markedIn ds).splitOn none).flatMap (·.filterMap id) := by
    rw [List.flatMap_def, ← List.filterMap_flatten, List.splitOn_eq_splitOnP,
      Text.flatten_splitOnP, List.filterMap_filter]
    exact List.filterMap_congr fun mark _ => by cases mark <;> rfl
  rw [hmarks, lines]
  generalize (markedIn ds).splitOn none = parts
  induction parts with
  | nil => rfl
  | cons part parts ih =>
    rw [List.flatMap_cons, Text.ink_append, ← ih, ← Text.ink_collapse (part.filterMap id)]
    rw [List.map_cons, List.filter_cons]
    -- a blank line has no characters to lose
    cases hline : Text.collapse (part.filterMap id) with
    | nil => rfl
    | cons c cs =>
      have hne : (!(c :: cs).isEmpty) = true := rfl
      rw [if_pos hne, List.map_cons, List.flatMap_cons, String.toList_ofList, Text.ink_append]

lemma isPhrase_of_mem_lines (ds : List Dom) :
    ∀ content ∈ lines ds, Text.IsPhrase content.toList := by
  intro content hcontent
  obtain ⟨line, hline, rfl⟩ := List.mem_map.1 hcontent
  obtain ⟨hmem, hne⟩ := List.mem_filter.1 hline
  obtain ⟨part, -, rfl⟩ := List.mem_map.1 hmem
  rw [String.toList_ofList]
  exact Text.isPhrase_collapse (by simpa using hne)

/-- What a line may hold is never silent. -/
lemma not_silent_of_inline : ∀ tag ∈ inlineTags, silentTags.contains tag = false := by decide

lemma ne_template_of_inline : ∀ tag ∈ inlineTags, (tag == "template") = false := by decide

mutual

lemma filterMap_marked {d : Dom} (hproper : d.isProper false = true) (hinline : isInline d = true) :
    (marked d).filterMap id = d.shown := by
  match d with
  | .element e cs =>
    obtain ⟨hbreak, hcs⟩ := Dom.isProper_element.1 hproper
    rw [isInline, Bool.and_eq_true, List.contains_iff_mem] at hinline
    rw [ne_template_of_inline _ hinline.1] at hcs
    rw [marked, Dom.shown, not_silent_of_inline _ hinline.1, List.filterMap_append,
      filterMap_markedIn hcs hinline.2]
    split <;> rfl
  | .text s => simp [marked, Dom.shown]
  | .contents cs => cases hproper
  | .other => rfl

/-- All characters of a text element are shown. -/
lemma filterMap_markedIn {ds : List Dom} (hproper : Dom.areProper false ds = true)
    (hinline : areInline ds = true) : (markedIn ds).filterMap id = Dom.shownIn ds := by
  match ds with
  | [] => rfl
  | d :: ds =>
    rw [Dom.areProper, Bool.and_eq_true] at hproper
    rw [areInline, Bool.and_eq_true] at hinline
    rw [markedIn, Dom.shownIn, List.filterMap_append, filterMap_marked hproper.1 hinline.1,
      filterMap_markedIn hproper.2 hinline.2]

end

/-! ### The walk -/

/-- An element of which nothing comes is silent or a line break. -/
lemma ignored_iff (tag : String) : tag ∈ ignoredTags ↔
    tag = "br" ∨ tag ∈ silentTags ∧ tag ≠ "img" ∧ tag ≠ "svg" := by
  constructor
  · intro h
    revert tag
    decide
  · rintro (rfl | ⟨h, himg, hsvg⟩)
    · decide
    · simp only [silentTags, List.mem_cons, List.not_mem_nil, or_false] at h
      simp only [ignoredTags, List.mem_cons, List.not_mem_nil, or_false]
      tauto

lemma contents_drawing (c : MarkupConfig) (s : Progress) (style : InlineStyle) (p : Place) :
    Node.contents (drawing c s style p).1 = [] := by
  unfold drawing
  split
  · rfl
  · split <;> rfl

variable [Engine]

lemma contents_linesOf (s : Progress) (settings : TextSettings) (style : InlineStyle)
    (width height : Length) (contents : List String) :
    Node.contents (linesOf s settings style width height contents).1 = contents := by
  induction contents generalizing s with
  | nil => rfl
  | cons content rest ih => exact congrArg (content :: ·) (ih _)

lemma contents_text (s : Progress) (settings : TextSettings) (style : InlineStyle) (ds : List Dom) :
    Node.contents (text s settings style ds).1 = lines ds := by
  unfold text
  split
  · next content hlines => rw [hlines, contents_linesOf]
  · exact contents_linesOf ..

lemma says_text (s : Progress) (settings : TextSettings) (style : InlineStyle) (ds : List Dom) :
    Says (text s settings style ds).1 ((markedIn ds).filterMap id) where
  ink := by rw [contents_text, ink_lines]
  phrases := by
    rw [contents_text]
    exact isPhrase_of_mem_lines ds

mutual

lemma says_nodes (c : MarkupConfig) (around : List Element) (settings : TextSettings)
    (s : Progress) {inTemplate : Bool} {d : Dom} (h : d.isProper inTemplate = true) :
    Says (nodes c around settings s d).1 d.shown := by
  match d with
  | .text t =>
    rw [nodes, Dom.shown]
    split
    · next hblank =>
      have hink : Text.ink t.toList = [] := by
        rw [← Text.ink_collapse, List.isEmpty_iff.1 hblank]
        rfl
      exact ⟨hink.symm, by simp [Node.contents, Node.preorders]⟩
    · next hshown =>
      have hcontents :=
        contents_linesOf s settings {} .auto .auto [.ofList (Text.collapse t.toList)]
      refine ⟨?_, ?_⟩
      · rw [hcontents, List.flatMap_singleton, String.toList_ofList, Text.ink_collapse]
      · rw [hcontents, List.forall_mem_singleton, String.toList_ofList]
        exact Text.isPhrase_collapse (by simpa using hshown)
  | .element e cs =>
    obtain ⟨hbreak, hcs⟩ := Dom.isProper_element.1 h
    rw [nodes, Dom.shown]
    split
    · next hignored =>
      rw [List.contains_iff_mem, ignored_iff] at hignored
      rcases hignored with hbr | ⟨hsilent, -⟩
      · rw [hbreak hbr, Dom.shownIn, ite_self]
        exact .of_contents rfl
      · rw [if_pos (List.contains_iff_mem.2 hsilent)]
        exact .of_contents rfl
    · next hignored =>
      rw [List.contains_iff_mem, ignored_iff, not_or] at hignored
      dsimp only
      refine Says.shown ?_ _
      split
      · next himg =>
        rw [himg]
        exact .of_contents rfl
      · next himg =>
        split
        · next hsvg =>
          rw [hsvg]
          exact .of_contents (contents_drawing ..)
        · next hsvg =>
          have hspeaks : ¬ e.tag ∈ silentTags := fun hsilent => hignored.2 ⟨hsilent, himg, hsvg⟩
          have htemplate : (e.tag == "template") = false := by
            rw [beq_eq_false_iff_ne]
            exact fun heq => hspeaks (heq ▸ by decide)
          rw [if_neg (fun h => hspeaks (List.contains_iff_mem.1 h))]
          split
          · next htext =>
            rw [isText, Bool.and_eq_true] at htext
            rw [htemplate] at hcs
            rw [← filterMap_markedIn hcs htext.1]
            exact says_text ..
          · exact (says_nodesIn c (e :: around) _ _ hcs).container _ _
  | .contents cs =>
    rw [nodes, Dom.shown]
    exact .of_contents rfl
  | .other =>
    rw [nodes, Dom.shown]
    exact .of_contents rfl

/-- What comes of a part of a page says what is shown in it. -/
lemma says_nodesIn (c : MarkupConfig) (around : List Element) (settings : TextSettings)
    (s : Progress) {inTemplate : Bool} {ds : List Dom}
    (h : Dom.areProper inTemplate ds = true) :
    Says (nodesIn c around settings s ds).1 (Dom.shownIn ds) := by
  match ds with
  | [] =>
    rw [nodesIn]
    exact .of_contents rfl
  | d :: ds =>
    rw [Dom.areProper, Bool.and_eq_true] at h
    rw [nodesIn, Dom.shownIn]
    exact (says_nodes c around settings s h.1).append (says_nodesIn c around settings _ h.2)

end

lemma says_frame (c : MarkupConfig) (s : Progress) (root : Place)
    (h : Dom.areProper (root.tag == "template") root.children = true) :
    Says [(frame c s root).1] (Dom.shownIn root.children) := by
  unfold frame
  dsimp only
  refine Says.container ?_ _ _
  split
  · exact (says_nodesIn c _ _ _ h).container _ _
  · exact says_nodesIn c _ _ _ h

end Page

open Html

/-- An imported page has its root's frame at the top. -/
lemma Html.Document.frame_toImport [Engine] {config : MarkupConfig} {id : String}
    {d : Html.Document} {i : Import} (h : d.toImport config id = .ok i) :
    ∃ root inference, Page.root? config.canvas d = some root ∧
      Inference.ofConfig config = .ok inference ∧
      i.schema.top = [(Page.frame config { inference } root).1] := by
  unfold toImport at h
  split at h
  · cases h
  · next root hroot =>
    obtain ⟨inference, hinference, h⟩ := Except.bind_eq_ok_iff.1 h
    obtain ⟨⟨variants, unmatched⟩, -, h⟩ := Except.bind_eq_ok_iff.1 h
    obtain ⟨s, hs, h⟩ := Except.bind_eq_ok_iff.1 h
    refine ⟨root, inference, hroot, hinference, ?_⟩
    rw [← Except.ok.inj h, Schema.top, (Draft.check_eq_ok_iff.1 hs).1]
    rfl

lemma Html.Document.top_toImport [Engine] {config : MarkupConfig} {id : String} {d : Html.Document}
    {i : Import} (h : d.toImport config id = .ok i) :
    ∃ root s, Page.root? config.canvas d = some root ∧
      i.schema.top = [(Page.frame config s root).1] := by
  obtain ⟨root, inference, hroot, -, htop⟩ := frame_toImport h
  exact ⟨root, { inference }, hroot, htop⟩

/-- **The texts of a page come over whole.** The contents of the texts of an imported schema are
what is shown below the root of the page, in the same order and nothing of it twice, when blanks are
left out of both. Each content is one word or more with single spaces between them. -/
theorem Html.Document.toImport_contents [Engine] {config : MarkupConfig} {id : String}
    {d : Html.Document} {i : Import} (h : d.toImport config id = .ok i) (hproper : d.IsProper) :
    ∃ root, Page.root? config.canvas d = some root ∧
      Text.ink (i.schema.contents.flatMap String.toList) = Text.ink (Dom.shownIn root.children) ∧
      ∀ content ∈ i.schema.contents, Text.IsPhrase content.toList := by
  obtain ⟨root, s, hroot, htop⟩ := top_toImport h
  have hsays := Page.says_frame config s root
    (hproper.of_mem (List.mem_of_find?_eq_some hroot))
  rw [← htop] at hsays
  exact ⟨root, hroot, hsays.ink, hsays.phrases⟩

/-- A page with a text of two lines, a picture with a title and a box of text and script. -/
def letterPage : Html.Document where
  children := [.element (.make 0 (html "div") [⟨.plain, "style", "width:1px;height:1px"⟩])
    [.element (.make 1 (html "p") [])
        [.text " Dear  ", .element (.make 2 (html "b") []) [.text "\nreader,"],
          .element (.make 3 (html "br") []) [], .text "hello"],
      .element (.make 4 (html "svg") []) [.element (.make 5 (html "title") []) [.text "Stamp"]],
      .element (.make 6 (html "div") [])
        [.text "Here", .element (.make 7 (html "script") []) [.text "0"],
          .element (.make 8 (html "p") []) [.text "we are"]]]]

/-- All that has the letter in it is to be replaced. -/
def letterConfig : MarkupConfig := { canvas := ⟨1, 1⟩, placeholderMarkers := ["e"] }

theorem Html.Document.toImport_contents_letter :
    ∃ i root, letterPage.toImport letterConfig "letter" = .ok i ∧ letterPage.IsProper ∧
      Page.root? letterConfig.canvas letterPage = some root ∧
      i.schema.contents = ["Dear reader,", "hello", "Here", "we are"] ∧
      Text.ink (Dom.shownIn root.children) = "Dearreader,helloHereweare".toList := by
  have hplaces : letterPage.places.Pairwise fun p q => p.element.serial ≤ q.element.serial := by
    decide +kernel
  have hcheck : (letterPage.toImport letterConfig "letter").toOption.any
      (fun i => i.schema.contents == ["Dear reader,", "hello", "Here", "we are"]) = true := by
    simp only [Html.Document.toImport, Page.root?, Page.title?, Html.Document.inOrder_eq hplaces]
    decide +kernel
  obtain ⟨i, hi, hcontents⟩ := exists_ok_of_any hcheck
  obtain ⟨root, hroot, hink, -⟩ := toImport_contents hi (by decide +kernel)
  rw [beq_iff_eq] at hcontents
  refine ⟨i, root, hi, by decide +kernel, hroot, hcontents, ?_⟩
  rw [← hink, hcontents]
  decide +kernel

end VisualTemplate
