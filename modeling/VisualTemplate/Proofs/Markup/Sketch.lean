import VisualTemplate.Proofs.Markup.Written
/-!
Sketches of what markup shows.

A sketch keeps the tags, the ids of nodes and the texts, and forgets all other attributes.
-/

namespace VisualTemplate.Document

/-! ### Sketches -/

/-- An element with the id of its node, the text directly in it and the elements in it. -/
inductive Sketch where
  | element (tag : String) (id : Option String) (text : String) (children : List Sketch)

/-- The characters directly among views, with breaks read as line feeds. -/
def dataOf : List View → List Char
  | [] => []
  | .char c :: vs => c :: dataOf vs
  | .element name _ _ :: vs => if name = "br" then '\n' :: dataOf vs else dataOf vs

mutual

def View.sketch : View → List Sketch
  | .char _ => []
  | .element name as cs =>
    if name = "br" then []
    else [.element name (as.lookup "data-node-id") (.ofList (unescape (dataOf cs))) (sketches cs)]

/-- The sketches of the elements among views. Breaks belong to the text. -/
def sketches : List View → List Sketch
  | [] => []
  | v :: vs => v.sketch ++ sketches vs

end

lemma sketches_append (vs ws : List View) : sketches (vs ++ ws) = sketches vs ++ sketches ws := by
  induction vs with
  | nil => rfl
  | cons v vs ih => rw [List.cons_append, sketches, sketches, ih, List.append_assoc]

lemma dataOf_append (vs ws : List View) : dataOf (vs ++ ws) = dataOf vs ++ dataOf ws := by
  induction vs with
  | nil => rfl
  | cons v vs ih =>
    cases v with
    | char c => rw [List.cons_append, dataOf, dataOf, ih, List.cons_append]
    | element name as cs =>
      rw [List.cons_append, dataOf, dataOf, ih]
      split <;> rfl

/-! ### Texts -/

/-- A text with all its line breaks read as line feeds, without one at its end. -/
def joinedLines (content : String) : String :=
  .ofList (['\n'].intercalate (Text.lines content.toList))

lemma dataOf_lineViews (line : List Char) : dataOf (lineViews line) = line.flatMap textChar := by
  have key (cs : List Char) : dataOf (cs.map .char) = cs := by
    induction cs with
    | nil => rfl
    | cons c cs ih => rw [List.map_cons, dataOf, ih]
  exact key _

/-- The characters of a written text are those of its lines. -/
lemma unescape_dataOf_lines (ls : List (List Char)) (rest : List Char) :
    unescape (dataOf ([View.break].intercalate (ls.map lineViews)) ++ rest) =
      ['\n'].intercalate ls ++ unescape rest := by
  induction ls with
  | nil => rfl
  | cons l ls ih =>
    cases ls with
    | nil =>
      simp only [List.map_cons, List.map_nil, List.intercalate_singleton, dataOf_lineViews]
      exact unescape_flatMap_textChar l rest
    | cons l' ls =>
      have hbreak : dataOf [View.break] = ['\n'] := rfl
      rw [List.map_cons, List.map_cons, List.intercalate_cons_cons, List.intercalate_cons_cons,
        dataOf_append, dataOf_append, dataOf_lineViews, hbreak, List.append_assoc,
        List.append_assoc, unescape_flatMap_textChar, List.singleton_append,
        unescape_cons (by decide), ← List.map_cons, ih]
      simp

/-- A text has no elements to sketch. -/
lemma sketches_text (content : String) : sketches (Markup.text content).views = [] := by
  refine text_induction (P := fun vs => sketches vs = []) rfl (fun c vs ih => ?_)
    (fun vs ih => ?_) content
  · rw [sketches, ih]
    rfl
  · rw [sketches, ih]
    rfl

/-! ### Markup with a known sketch -/

/-- The tree is written with plain names, has the sketches and no text beside its elements. -/
structure Draws (ms : List Markup) (ss : List Sketch) : Prop where
  plain : allPlain ms
  sketched : sketches (allViews ms) = ss
  silent : dataOf (allViews ms) = []

lemma draws_nil : Draws [] [] := ⟨by simp [allPlain], rfl, rfl⟩

lemma allPlain_append {ms ns : List Markup} : allPlain (ms ++ ns) ↔ allPlain ms ∧ allPlain ns := by
  induction ms with
  | nil => simp [allPlain]
  | cons m ms ih => rw [List.cons_append, allPlain, allPlain, ih, and_assoc]

lemma allViews_append (ms ns : List Markup) : allViews (ms ++ ns) = allViews ms ++ allViews ns := by
  induction ms with
  | nil => rfl
  | cons m ms ih => rw [List.cons_append, allViews, allViews, ih, List.append_assoc]

lemma allViews_element (tag : String) (as : List (String × String)) (ms : List Markup) :
    allViews [.element tag as ms] = [.element tag as (allViews ms)] := by
  rw [allViews, allViews, List.append_nil, Markup.views]

lemma allViews_void (tag : String) (as : List (String × String)) :
    allViews [.void tag as] = [.element tag as []] := by
  rw [allViews, allViews, List.append_nil, Markup.views]

lemma allViews_closed (tag : String) (as : List (String × String)) :
    allViews [.closed tag as] = [.element tag as []] := by
  rw [allViews, allViews, List.append_nil, Markup.views]

lemma Draws.append {ms ns : List Markup} {ss ts : List Sketch} (h : Draws ms ss)
    (h' : Draws ns ts) : Draws (ms ++ ns) (ss ++ ts) := by
  refine ⟨allPlain_append.2 ⟨h.plain, h'.plain⟩, ?_, ?_⟩
  · rw [allViews_append, sketches_append, h.sketched, h'.sketched]
  · rw [allViews_append, dataOf_append, h.silent, h'.silent, List.append_nil]

/-- The names that elements and attributes are written with. -/
def plainNames : List String :=
  ["div", "img", "svg", "defs", "mask", "path", "image", "rect", "ellipse", "data-node-id",
    "data-schema-id", "style", "src", "alt", "xmlns", "width", "height", "viewBox", "id", "d",
    "fill", "transform", "href", "x", "y", "preserveAspectRatio", "rx", "ry", "cx", "cy", "stroke",
    "stroke-width"]

lemma isPlainName_of_mem {name : String} (h : name ∈ plainNames) : isPlainName name = true := by
  have all : ∀ name ∈ plainNames, isPlainName name = true := by decide
  exact all name h

/-- Attributes with plain names, none of them the id of a node. -/
def Anonymous (as : List (String × String)) : Prop :=
  ∀ a ∈ as, a.1 ∈ plainNames ∧ a.1 ≠ "data-node-id"

@[simp] lemma anonymous_nil : Anonymous [] := by simp [Anonymous]

@[simp] lemma anonymous_cons {a : String × String} {as : List (String × String)} :
    Anonymous (a :: as) ↔ (a.1 ∈ plainNames ∧ a.1 ≠ "data-node-id") ∧ Anonymous as :=
  List.forall_mem_cons

@[simp] lemma anonymous_append {as bs : List (String × String)} :
    Anonymous (as ++ bs) ↔ Anonymous as ∧ Anonymous bs := List.forall_mem_append

@[simp] lemma anonymous_styled (s : Style) : Anonymous (styled s) := by
  unfold styled
  split <;> simp [plainNames]

/-- Attributes with plain names and the id of a node, if they have one. -/
structure Identifies (as : List (String × String)) (id : Option String) : Prop where
  plain : ∀ a ∈ as, isPlainName a.1 = true
  id : as.lookup "data-node-id" = id

lemma Anonymous.identifies {as : List (String × String)} (h : Anonymous as) :
    Identifies as none := by
  refine ⟨fun a ha => isPlainName_of_mem (h a ha).1, ?_⟩
  rw [List.lookup_eq_none_iff]
  intro a ha
  rw [bne_iff_ne]
  exact (h a ha).2.symm

lemma Anonymous.identifies_cons {as : List (String × String)} (h : Anonymous as) (id : String) :
    Identifies (("data-node-id", id) :: as) (some id) := by
  refine ⟨List.forall_mem_cons.2 ⟨isPlainName_of_mem (by simp [plainNames]), ?_⟩, by simp⟩
  exact h.identifies.plain

section

variable {tag : String} {id : Option String} {as : List (String × String)} {ms : List Markup}
  {ss : List Sketch}

lemma Draws.element (htag : tag ∈ plainNames) (hvoid : tag ∉ voidNames)
    (has : Identifies as id) (h : Draws ms ss) :
    Draws [.element tag as ms] [.element tag id "" ss] := by
  have hbr : tag ≠ "br" := by
    rintro rfl
    exact hvoid (by decide)
  refine ⟨?_, ?_, ?_⟩
  · simp only [allPlain, Markup.IsPlain, and_true]
    exact ⟨⟨isPlainName_of_mem htag, hvoid⟩, has.plain, h.plain⟩
  · simp [allViews, Markup.views, sketches, View.sketch, hbr, h.sketched, h.silent, unescape,
      has.id]
  · simp [allViews, Markup.views, dataOf, hbr]

lemma draws_img (has : Identifies as id) :
    Draws [.void "img" as] [.element "img" id "" []] := by
  refine ⟨?_, ?_, ?_⟩
  · simp only [allPlain, Markup.IsPlain, and_true]
    exact ⟨⟨isPlainName_of_mem (by decide), by decide⟩, has.plain⟩
  · simp [allViews, Markup.views, sketches, View.sketch, dataOf, unescape, has.id]
  · simp [allViews, Markup.views, dataOf]

lemma draws_closed (htag : tag ∈ plainNames) (has : Identifies as id) :
    Draws [.closed tag as] [.element tag id "" []] := by
  have hbr : tag ≠ "br" := by
    rintro rfl
    exact absurd htag (by decide)
  refine ⟨?_, ?_, ?_⟩
  · simp only [allPlain, Markup.IsPlain, and_true]
    exact ⟨isPlainName_of_mem htag, has.plain⟩
  · simp [allViews, Markup.views, sketches, View.sketch, dataOf, unescape, hbr, has.id]
  · simp [allViews, Markup.views, dataOf, hbr]

/-- A text is sketched with its joined lines. -/
lemma draws_text (has : Identifies as id) (content : String) :
    Draws [.element "div" as [.text content]]
      [.element "div" id (joinedLines content) []] := by
  have hdata := unescape_dataOf_lines (Text.lines content.toList) []
  rw [List.append_nil, unescape, List.append_nil] at hdata
  refine ⟨?_, ?_, ?_⟩
  · simp only [allPlain, Markup.IsPlain, and_true]
    exact ⟨⟨isPlainName_of_mem (by decide), by decide⟩, has.plain⟩
  · have hsketches := sketches_text content
    rw [Markup.views] at hsketches
    simp [allViews, Markup.views, sketches, View.sketch, hsketches, hdata, joinedLines, has.id]
  · simp [allViews, Markup.views, dataOf]

end

end VisualTemplate.Document
