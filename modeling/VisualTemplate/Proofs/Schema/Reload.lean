import VisualTemplate.Command
import VisualTemplate.Proofs.Design.Places
import VisualTemplate.Proofs.Page.Depth
import VisualTemplate.Proofs.Schema.Refusal
/-!
Imports written and loaded again.

No import looks at the size of its numbers or at the depth of its nodes. A number that is not finite
is written as `null`, and a text that nests its containers too deep cannot be read; else the schema
that is loaded from the written one equals it. The nodes of a design are a flat list, so there the
depth does not matter.
-/

namespace VisualTemplate

open Json

/-- What is said of a schema that passes the gate. -/
def Schema.report (s : Schema) : String :=
  s!"{s.id}: valid version-{s.version.number} schema, canvas {s.canvas.text}, {s.preorder.length} nodes"

/-- One schema is loaded from the text of another. It equals the other, with its list of bindings
and its text, and a file with the text passes the check and is loaded by the commands. -/
structure Schema.Reloads [Engine] (s t : Schema) : Prop where
  loaded : ofText s.toText = .ok t
  equal : (t == s) = true
  bindings_eq : t.bindings = s.bindings
  toText_eq : t.toText = s.toText
  schema_eq : ∀ (read : Command.Reader) (path : String), read path = .ok s.toText →
    read.schema path = .ok t
  validate_eq : ∀ (read : Command.Reader) (path : String), read path = .ok s.toText →
    Command.actions read (.validate path) = .ok [.say s.report]

/-- No schema is loaded from the text. -/
def Schema.Refused (s : Schema) : Prop := ∀ t, ofText s.toText ≠ .ok t

/-- The finite numbers of a schema are read back from their texts. -/
def Schema.FiniteReread (s : Schema) : Prop :=
  ∀ x ∈ s.draft.singles, x.isFinite = true → SingleRereads x

instance : DecidablePred Schema.FiniteReread := fun s =>
  inferInstanceAs (Decidable (∀ x ∈ s.draft.singles, x.isFinite = true → SingleRereads x))

namespace Schema

variable {s t : Schema}

lemma report_eq (h : t.draft = s.draft.settled) : t.report = s.report := by
  have hlength : t.preorder.length = s.preorder.length := by
    rw [preorder, h, Draft.preorder_settled, List.length_map, preorder]
  rw [report, hlength, id, version, canvas, h]
  rfl

lemma schema_of_file {read : Command.Reader} {path text : String} (hfile : read path = .ok text)
    (h : ofText text = .ok t) : read.schema path = .ok t := by
  rw [Command.Reader.schema, Command.Reader.file, hfile]
  show Command.during (.load path) (ofText text) = _
  rw [h]
  rfl

/-- A schema is loaded again if its numbers are finite and it nests its containers not too deep. -/
lemma exists_reloads [Engine] (hnesting : s.toValue.nesting ≤ depthLimit)
    (hfinite : AllFinite s.draft.singles)
    (hread : s.FiniteReread) : ∃ t, s.Reloads t := by
  obtain ⟨t, hload, ht, htext⟩ :=
    exists_ofText_toText hnesting fun x hx => hread x hx (hfinite x hx)
  refine ⟨t, hload, beq_of_settled hfinite ht, bindings_of_settled ht, htext,
    fun read path hfile => schema_of_file hfile hload, fun read path hfile => ?_⟩
  rw [Command.actions, schema_of_file hfile hload, ← report_eq ht]
  rfl

/-- A schema is refused if a needed number is not finite or it nests its containers too deep. -/
lemma refused (hread : s.FiniteReread)
    (h : ¬ AllFinite s.draft.needed ∨ depthLimit < s.toValue.nesting) : s.Refused := by
  intro t ht
  have hlegible := allLegible_of_reread hread
  rcases h with hlost | hdeep
  · exact hlost (allFinite_needed_of_ofText hlegible ht)
  · exact absurd (nesting_le_of_ofText hlegible ht) (by omega)

end Schema

/-! ### What imports make -/

/-- A design becomes a flat schema. -/
lemma Design.Export.version_toImport {config : DesignConfig} {id : String} {e : Design.Export}
    {i : Import} (h : e.toImport config id = .ok i) : i.schema.draft.version = .flat := by
  obtain ⟨root, -, -, hs, -⟩ := toImport_eq_ok_iff.1 h
  rw [(Draft.check_eq_ok_iff.1 hs).1]
  rfl

/-- **Imports are loaded again, unless a number is not finite or the nodes are too deep.** The
schema of a design is loaded again if its numbers are finite. The schema of a page is loaded again
if its numbers are finite and its containers are not nested too deep, as they never are below a root
of at most sixty levels. Both are refused if a number other than a line height or a share is not
finite, and that of a page if it is too deep. -/
theorem Import.reloads [Engine] (id : String) :
    (∀ (config : DesignConfig) (e : Design.Export) (i : Import), e.toImport config id = .ok i →
      i.schema.FiniteReread →
        (AllFinite i.schema.draft.singles → ∃ t, i.schema.Reloads t) ∧
        (¬ AllFinite i.schema.draft.needed → i.schema.Refused)) ∧
    ∀ (config : MarkupConfig) (d : Html.Document) (i : Import), d.toImport config id = .ok i →
      i.schema.FiniteReread →
        (AllFinite i.schema.draft.singles → i.schema.toValue.nesting ≤ depthLimit →
          ∃ t, i.schema.Reloads t) ∧
        (∀ root, Page.root? config.canvas d = some root →
          Html.Dom.heightIn root.children ≤ 60 → i.schema.toValue.nesting ≤ depthLimit) ∧
        (¬ AllFinite i.schema.draft.needed ∨ depthLimit < i.schema.toValue.nesting →
          i.schema.Refused) := by
  constructor
  · intro config e i h hread
    have hflat := Schema.nesting_le_of_flat (Design.Export.version_toImport h)
    exact ⟨fun hfinite => Schema.exists_reloads (hflat.trans (by decide)) hfinite hread,
      fun hlost => Schema.refused hread (.inl hlost)⟩
  · intro config d i h hread
    refine ⟨fun hfinite hnesting => Schema.exists_reloads hnesting hfinite hread,
      fun root hroot hheight => ?_, Schema.refused hread⟩
    have hle := Html.Document.nesting_toImport_le h hroot
    have hlimit : 2 * 60 + 6 ≤ depthLimit := by decide
    omega

/-! ### Samples -/

/-- An export with one bar of a given width. -/
def bannerText (width : Float) : String :=
  Value.compact (.object [("name", .string "Banner"), ("width", .nat 10), ("height", .nat 10),
    ("nodes", .array [.object [("id", .string "root"), ("type", .string "FRAME"),
      ("children", .array [.object [("id", .string "bar"), ("type", .string "RECTANGLE"),
        ("width", .number (.double width)), ("height", .nat 1)]])]])])

lemma bannerText_narrow : ∃ e i, Design.Export.decoder.parse (bannerText 2.5) = .ok e ∧
    e.toImport {} "banner" = .ok i ∧ i.schema.FiniteReread ∧
      AllFinite i.schema.draft.singles := by
  have hcheck : ((Design.Export.decoder.parse (bannerText 2.5)).toOption.any fun e =>
      (e.toImport {} "banner").toOption.any fun i =>
        decide (i.schema.FiniteReread ∧ AllFinite i.schema.draft.singles)) = true := by
    decide +kernel
  obtain ⟨e, he, hcheck⟩ := exists_ok_of_any hcheck
  obtain ⟨i, hi, hcheck⟩ := exists_ok_of_any hcheck
  exact ⟨e, i, he, hi, of_decide_eq_true hcheck⟩

lemma bannerText_endless : ∃ e i, Design.Export.decoder.parse (bannerText 1e39) = .ok e ∧
    e.toImport {} "banner" = .ok i ∧ i.schema.FiniteReread ∧
      ¬ AllFinite i.schema.draft.needed := by
  have hcheck : ((Design.Export.decoder.parse (bannerText 1e39)).toOption.any fun e =>
      (e.toImport {} "banner").toOption.any fun i =>
        decide (i.schema.FiniteReread ∧ ¬ AllFinite i.schema.draft.needed)) = true := by
    decide +kernel
  obtain ⟨e, he, hcheck⟩ := exists_ok_of_any hcheck
  obtain ⟨i, hi, hcheck⟩ := exists_ok_of_any hcheck
  exact ⟨e, i, he, hi, of_decide_eq_true hcheck⟩

/-- An image in so many boxes. -/
def boxed : ℕ → Html.Dom
  | 0 => .element (.make 0 (Html.html "img") []) []
  | n + 1 => .element (.make 0 (Html.html "div") []) [boxed n]

/-- A page of one pixel. -/
def boxedPage (n : ℕ) : Html.Document where
  children := [.element (.make 0 (Html.html "div") [⟨.plain, "style", "width:1px;height:1px"⟩])
    [boxed n]]

def pixel : MarkupConfig := { canvas := ⟨1, 1⟩ }

/-- Elements that were made in order need no sorting. -/
lemma Html.Document.inOrder_eq {d : Html.Document}
    (h : d.places.Pairwise fun p q => p.element.serial ≤ q.element.serial) : d.inOrder = d.places :=
  List.mergeSort_of_pairwise (by simpa using h)

lemma boxedPage_shallow : ∃ i root, (boxedPage 1).toImport pixel "page" = .ok i ∧
    Page.root? pixel.canvas (boxedPage 1) = some root ∧ Html.Dom.heightIn root.children ≤ 60 ∧
      i.schema.FiniteReread ∧ AllFinite i.schema.draft.singles := by
  have hplaces : (boxedPage 1).places.Pairwise fun p q => p.element.serial ≤ q.element.serial := by
    decide +kernel
  have hroot : ((Page.root? pixel.canvas (boxedPage 1)).any fun root =>
      decide (Html.Dom.heightIn root.children ≤ 60)) = true := by
    rw [Page.root?, Html.Document.inOrder_eq hplaces]
    decide +kernel
  have hcheck : (((boxedPage 1).toImport pixel "page").toOption.any fun i =>
      decide (i.schema.FiniteReread ∧ AllFinite i.schema.draft.singles)) = true := by
    simp only [Html.Document.toImport, Page.root?, Page.title?, Html.Document.inOrder_eq hplaces]
    decide +kernel
  obtain ⟨i, hi, hcheck⟩ := exists_ok_of_any hcheck
  obtain ⟨root, hroot, hheight⟩ := (Option.any_eq_true _ _).1 hroot
  exact ⟨i, root, hi, hroot, of_decide_eq_true hheight, of_decide_eq_true hcheck⟩

lemma boxedPage_deep : ∃ i, (boxedPage 62).toImport pixel "page" = .ok i ∧
    i.schema.FiniteReread ∧ depthLimit < i.schema.toValue.nesting := by
  have hplaces : (boxedPage 62).places.Pairwise fun p q => p.element.serial ≤ q.element.serial := by
    decide +kernel
  have hcheck : (((boxedPage 62).toImport pixel "page").toOption.any fun i =>
      decide (i.schema.FiniteReread ∧ depthLimit < i.schema.toValue.nesting)) = true := by
    simp only [Html.Document.toImport, Page.root?, Page.title?, Html.Document.inOrder_eq hplaces]
    decide +kernel
  obtain ⟨i, hi, hcheck⟩ := exists_ok_of_any hcheck
  exact ⟨i, hi, of_decide_eq_true hcheck⟩

theorem Import.reloads_banner_page :
    (∃ e i t, Design.Export.decoder.parse (bannerText 2.5) = .ok e ∧
      e.toImport {} "banner" = .ok i ∧ i.schema.Reloads t) ∧
    (∃ e i, Design.Export.decoder.parse (bannerText 1e39) = .ok e ∧
      e.toImport {} "banner" = .ok i ∧ i.schema.Refused) ∧
    (∃ i t, (boxedPage 1).toImport pixel "page" = .ok i ∧ i.schema.Reloads t) ∧
    ∃ i, (boxedPage 62).toImport pixel "page" = .ok i ∧ i.schema.Refused := by
  obtain ⟨e, i, he, hi, hread, hfinite⟩ := bannerText_narrow
  obtain ⟨e', i', he', hi', hread', hlost⟩ := bannerText_endless
  obtain ⟨p, root, hp, hroot, hheight, hreadp, hfinitep⟩ := boxedPage_shallow
  obtain ⟨q, hq, hreadq, hdeep⟩ := boxedPage_deep
  obtain ⟨t, ht⟩ := ((Import.reloads "banner").1 {} e i hi hread).1 hfinite
  have hpage := (Import.reloads "page").2 pixel (boxedPage 1) p hp hreadp
  obtain ⟨u, hu⟩ := hpage.1 hfinitep (hpage.2.1 root hroot hheight)
  exact ⟨⟨e, i, t, he, hi, ht⟩,
    ⟨e', i', he', hi', ((Import.reloads "banner").1 {} e' i' hi' hread').2 hlost⟩,
    ⟨p, u, hp, hu⟩, q, hq,
    ((Import.reloads "page").2 pixel (boxedPage 62) q hq hreadq).2.2 (.inr hdeep)⟩

/-- Both adapters make schemas that cannot be loaded from what is written. -/
theorem Import.exists_refused :
    (∃ e i, Design.Export.decoder.parse (bannerText 1e39) = .ok e ∧
      e.toImport {} "banner" = .ok i ∧ ∀ t, Schema.ofText i.schema.toText ≠ .ok t) ∧
    ∃ i, (boxedPage 62).toImport pixel "page" = .ok i ∧
      ∀ t, Schema.ofText i.schema.toText ≠ .ok t := by
  obtain ⟨e, i, he, hi, hread, hlost⟩ := bannerText_endless
  obtain ⟨q, hq, hreadq, hdeep⟩ := boxedPage_deep
  exact ⟨⟨e, i, he, hi, Schema.refused hread (.inl hlost)⟩, q, hq,
    Schema.refused hreadq (.inr hdeep)⟩

end VisualTemplate
