import VisualTemplate.Proofs.Path.Slices
import VisualTemplate.Proofs.Table
import VisualTemplate.Style.Inline
/-!
Inline styles put together.

A style is cut at its semicolons outside brackets, and at nothing else. A text that leaves no
bracket open carries the depth 0 over to what stands behind it, so its pieces are cut off as if
nothing followed. Hence a style with another one behind it has the declarations of both, of which
the later ones count, and styles without a property in common may stand in any order.
-/

namespace VisualTemplate.InlineStyle

/-! ### Depth -/

/-- The depth of brackets behind a text. -/
def depthBehind (depth : ℕ) (cs : List Char) : ℕ := cs.foldl depthAfter depth

@[simp] lemma depthBehind_cons (depth : ℕ) (c : Char) (cs : List Char) :
    depthBehind depth (c :: cs) = depthBehind (depthAfter depth c) cs := rfl

/-- The text leaves no bracket open. -/
def Closes (cs : List Char) : Prop := depthBehind 0 cs = 0

instance (cs : List Char) : Decidable (Closes cs) := inferInstanceAs (Decidable (_ = _))

/-! ### Pieces -/

lemma split_cut (cs : List Char) : split 0 (';' :: cs) = [] :: split 0 cs := by simp [split]

lemma split_ne_nil (depth : ℕ) (cs : List Char) : split depth cs ≠ [] := by
  cases cs with
  | nil => simp [split]
  | cons c cs =>
    rw [split]
    split
    · simp
    · split <;> simp

/-- A character that is no cut belongs to the first piece. -/
lemma split_cons {depth : ℕ} {c : Char} (h : ¬ (c = ';' ∧ depth = 0)) (cs : List Char) :
    split depth (c :: cs) = (split (depthAfter depth c) cs).modifyHead (c :: ·) := by
  rw [split, if_neg h]
  cases hsplit : split (depthAfter depth c) cs with
  | nil => exact absurd hsplit (split_ne_nil _ _)
  | cons w ws => rfl

lemma intercalate_cons_cons (c : Char) (w : List Char) (ws : List (List Char)) :
    [';'].intercalate ((c :: w) :: ws) = c :: [';'].intercalate (w :: ws) := by
  cases ws <;> simp

/-- Nothing is lost at the cuts but their semicolons. -/
lemma intercalate_split (depth : ℕ) (cs : List Char) :
    [';'].intercalate (split depth cs) = cs := by
  induction cs generalizing depth with
  | nil => rfl
  | cons c cs ih =>
    by_cases h : c = ';' ∧ depth = 0
    · obtain ⟨rfl, rfl⟩ := h
      rw [split_cut, List.intercalate_cons_of_ne_nil (split_ne_nil _ _), ih]
      rfl
    · have hrest := ih (depthAfter depth c)
      rw [split_cons h]
      cases hsplit : split (depthAfter depth c) cs with
      | nil => exact absurd hsplit (split_ne_nil _ _)
      | cons w ws =>
        rw [List.modifyHead_cons, intercalate_cons_cons, ← hsplit, hrest]

/-- Behind a text that leaves no bracket open, a semicolon is a cut. -/
lemma split_append {depth : ℕ} {front : List Char} (h : depthBehind depth front = 0)
    (back : List Char) :
    split depth (front ++ ';' :: back) = split depth front ++ split 0 back := by
  induction front generalizing depth with
  | nil =>
    obtain rfl : depth = 0 := h
    rw [List.nil_append, split_cut]
    rfl
  | cons c front ih =>
    by_cases hcut : c = ';' ∧ depth = 0
    · obtain ⟨rfl, rfl⟩ := hcut
      have hfront : depthBehind 0 front = 0 := h
      rw [List.cons_append, split_cut, split_cut, ih hfront, List.cons_append]
    · rw [List.cons_append, split_cons hcut, split_cons hcut, ih h]
      cases hsplit : split (depthAfter depth c) front with
      | nil => exact absurd hsplit (split_ne_nil _ _)
      | cons w ws => rfl

/-- What stands before a cut leaves no bracket open. -/
lemma depthBehind_of_split {depth : ℕ} {cs : List Char} {ps qs : List (List Char)}
    (h : split depth cs = ps ++ qs) (hps : ps ≠ []) (hqs : qs ≠ []) :
    depthBehind depth ([';'].intercalate ps) = 0 := by
  induction cs generalizing depth ps with
  | nil =>
    have hlength := congrArg List.length h
    have hpos := List.length_pos_iff.2 hps
    have hpos' := List.length_pos_iff.2 hqs
    simp only [split, List.length_append, List.length_cons, List.length_nil] at hlength
    omega
  | cons c cs ih =>
    by_cases hcut : c = ';' ∧ depth = 0
    · obtain ⟨rfl, rfl⟩ := hcut
      rw [split_cut] at h
      obtain ⟨ps, rfl, hrest⟩ := (List.cons_eq_append_iff.1 h).resolve_left fun hnil => hps hnil.1
      by_cases hnil : ps = []
      · rw [hnil]
        rfl
      · rw [List.intercalate_cons_of_ne_nil hnil]
        exact ih hrest hnil
    · rw [split_cons hcut] at h
      obtain ⟨w, ws, hsplit⟩ := List.exists_cons_of_ne_nil (split_ne_nil (depthAfter depth c) cs)
      rw [hsplit, List.modifyHead_cons] at h
      obtain ⟨ps, rfl, rfl⟩ := (List.cons_eq_append_iff.1 h).resolve_left fun hnil => hps hnil.1
      rw [intercalate_cons_cons, depthBehind_cons]
      have hpieces : split (depthAfter depth c) cs = (w :: ps) ++ qs := hsplit
      exact ih hpieces (by simp)

/-- The text is cut behind its front: some of the pieces make up the front. -/
def CutBehind (front cs : List Char) : Prop :=
  ∃ ps qs, split 0 cs = ps ++ qs ∧ ps ≠ [] ∧ qs ≠ [] ∧ [';'].intercalate ps = front

lemma intercalate_append {ps qs : List (List Char)} (hps : ps ≠ []) (hqs : qs ≠ []) :
    [';'].intercalate (ps ++ qs) = [';'].intercalate ps ++ ';' :: [';'].intercalate qs := by
  induction ps with
  | nil => exact absurd rfl hps
  | cons p ps ih =>
    by_cases hnil : ps = []
    · rw [hnil, List.singleton_append, List.intercalate_cons_of_ne_nil hqs,
        List.intercalate_singleton, List.append_assoc]
      rfl
    · rw [List.cons_append, List.intercalate_cons_of_ne_nil (by simp [hnil]), ih hnil,
        List.intercalate_cons_of_ne_nil hnil]
      simp

/-- The cuts are the semicolons outside brackets. -/
lemma cutBehind_iff {front back : List Char} {c : Char} :
    CutBehind front (front ++ c :: back) ↔ c = ';' ∧ Closes front := by
  constructor
  · rintro ⟨ps, qs, hsplit, hps, hqs, hfront⟩
    have hall : [';'].intercalate (ps ++ qs) = front ++ c :: back := by
      rw [← hsplit, intercalate_split]
    rw [intercalate_append hps hqs, hfront] at hall
    have hcut : ';' = c := (List.cons.inj (List.append_cancel_left hall)).1
    exact ⟨hcut.symm, hfront ▸ depthBehind_of_split hsplit hps hqs⟩
  · rintro ⟨rfl, hcloses⟩
    exact ⟨split 0 front, split 0 back, split_append hcloses back, split_ne_nil _ _,
      split_ne_nil _ _, intercalate_split _ _⟩

/-! ### Pieces as slices of bytes -/

/-- The pieces of a text, each taken as a slice of the whole text from the byte where it starts up
to the byte where a cut is found. -/
def sliceFrom (whole : List Char) (depth start place : ℕ) :
    List Char → Option (List (List Char))
  | [] => (Text.from? whole start).map ([·])
  | c :: cs =>
    if c = ';' ∧ depth = 0 then do
      let piece ← Text.slice? whole start place
      return piece :: (← sliceFrom whole 0 (place + 1) (place + 1) cs)
    else sliceFrom whole (depthAfter depth c) start (place + c.utf8Size) cs

/-- With a part of the first piece read, the slices are the pieces of the rest and that part. -/
lemma sliceFrom_eq (depth : ℕ) (front part cs : List Char) :
    sliceFrom (front ++ (part ++ cs)) depth (Text.byteLength front)
      (Text.byteLength (front ++ part)) cs = some ((split depth cs).modifyHead (part ++ ·)) := by
  induction cs generalizing depth front part with
  | nil =>
    rw [sliceFrom, Text.from?_append]
    rfl
  | cons c cs ih =>
    by_cases hcut : c = ';' ∧ depth = 0
    · obtain ⟨rfl, rfl⟩ := hcut
      have hplace : Text.byteLength (front ++ part) + 1 =
          Text.byteLength (front ++ (part ++ [';'])) := by
        rw [← List.append_assoc, Text.byteLength_append _ [';']]
        rfl
      have hwhole : front ++ (part ++ ';' :: cs) = front ++ (part ++ [';']) ++ ([] ++ cs) := by simp
      have hrest := ih 0 (front ++ (part ++ [';'])) []
      rw [List.append_nil, ← hwhole, ← hplace] at hrest
      rw [sliceFrom, if_pos ⟨rfl, rfl⟩, Text.slice?_append, hrest, split_cut]
      obtain ⟨w, ws, hsplit⟩ := List.exists_cons_of_ne_nil (split_ne_nil 0 cs)
      simp [hsplit]
    · have hplace : Text.byteLength (front ++ part) + c.utf8Size =
          Text.byteLength (front ++ (part ++ [c])) := by
        rw [← List.append_assoc, Text.byteLength_append _ [c], Text.byteLength_cons]
        rfl
      have hrest := ih (depthAfter depth c) front (part ++ [c])
      have hwhole : front ++ (part ++ c :: cs) = front ++ (part ++ [c] ++ cs) := by simp
      rw [sliceFrom, if_neg hcut, hplace, hwhole, hrest, split_cons hcut]
      obtain ⟨w, ws, hsplit⟩ := List.exists_cons_of_ne_nil (split_ne_nil (depthAfter depth c) cs)
      simp [hsplit]

/-- No slice ends within a character, and the slices are the pieces. -/
lemma sliceFrom_start (cs : List Char) : sliceFrom cs 0 0 0 cs = some (split 0 cs) := by
  have h := sliceFrom_eq 0 [] [] cs
  obtain ⟨w, ws, hsplit⟩ := List.exists_cons_of_ne_nil (split_ne_nil 0 cs)
  simpa [hsplit, Text.byteLength] using h

/-! ### Declarations -/

/-- The declarations of a text in the order in which they stand. -/
def declared (s : String) : List (String × String) := (split 0 s.toList).filterMap declaration?

/-- Of several declarations of a property the last one counts. -/
lemma get?_ofText (s property : String) :
    (ofText s).get? property = (declared s).reverse.lookup property := Table.get?_ofList_eq _ _

lemma ofText_append {a : String} (h : Closes a.toList) (b : String) :
    (ofText (a ++ ";" ++ b)).declarations =
      (ofText a).declarations.union (ofText b).declarations := by
  have hchars : (a ++ ";" ++ b).toList = a.toList ++ ';' :: b.toList := by simp
  rw [ofText, ofText, ofText, hchars, split_append h, List.filterMap_append, Table.ofList_append]

/-- No property is declared in both styles. -/
def Independent (s t : InlineStyle) : Prop :=
  ∀ property, s.get? property = none ∨ t.get? property = none

instance : Std.Symm Independent := ⟨fun _ _ h property => (h property).symm⟩

/-- The declarations of some styles, those of the later ones on top. -/
def overlaid (t : Table String) (ss : List InlineStyle) : Table String :=
  ss.foldl (fun t s => t.union s.declarations) t

/-- Texts that leave no bracket open are read one after the other. -/
lemma overlaid_map_ofText {ps : List String} (h : ∀ p ∈ ps, Closes p.toList) (t : Table String) :
    overlaid t (ps.map ofText) = t.union (ofText (";".intercalate ps)).declarations := by
  induction ps generalizing t with
  | nil => rfl
  | cons p ps ih =>
    rw [List.forall_mem_cons] at h
    cases ps with
    | nil => rfl
    | cons q qs =>
      have hjoined : ";".intercalate (p :: q :: qs) = p ++ ";" ++ ";".intercalate (q :: qs) :=
        String.toList_injective (by simp)
      rw [hjoined, ofText_append h.1, ← Table.union_assoc, ← ih h.2]
      rfl

/-- Styles without a property in common may be laid on one another in any order. -/
lemma union_right_comm {s t : InlineStyle} (h : Independent s t) (u : Table String) :
    (u.union s.declarations).union t.declarations =
      (u.union t.declarations).union s.declarations := by
  refine Table.ext_get? fun property => ?_
  simp only [Table.get?_union]
  have hnone : s.declarations.get? property = none ∨ t.declarations.get? property = none :=
    h property
  rcases hnone with hnone | hnone <;> simp [hnone]

lemma overlaid_perm {ss ts : List InlineStyle} (h : ss.Perm ts) (hind : ss.Pairwise Independent)
    (u : Table String) : overlaid u ss = overlaid u ts := by
  refine h.foldl_eq' (fun s hs t ht u => ?_) u
  by_cases heq : s = t
  · rw [heq]
  · exact union_right_comm (hind.forall hs ht heq) u

lemma ofText_perm {ps qs : List String} (h : ps.Perm qs) (hcloses : ∀ p ∈ ps, Closes p.toList)
    (hind : (ps.map ofText).Pairwise Independent) :
    ofText (";".intercalate ps) = ofText (";".intercalate qs) := by
  have hcloses' : ∀ q ∈ qs, Closes q.toList := fun q hq => hcloses q (h.mem_iff.2 hq)
  have heq := overlaid_perm (h.map ofText) hind .empty
  rw [overlaid_map_ofText hcloses, overlaid_map_ofText hcloses', Table.empty_union,
    Table.empty_union] at heq
  exact congrArg InlineStyle.mk heq

/-! ### Styles put together -/

/-- **Styles compose.** The pieces of a text, joined by semicolons, are the text; each is a slice of
it that ends at no byte within a character; and the text is cut behind a front just if a semicolon
follows there and the front leaves no bracket open. So a style behind a text that leaves no bracket
open is read apart and laid on the style of the text. The last declaration of a property counts, and
styles that close their brackets and have no property in common may stand in any order. -/
theorem ofText_composes :
    (∀ a b : String, Closes a.toList → (ofText (a ++ ";" ++ b)).declarations =
      (ofText a).declarations.union (ofText b).declarations) ∧
    (∀ cs : List Char, [';'].intercalate (split 0 cs) = cs ∧
      sliceFrom cs 0 0 0 cs = some (split 0 cs)) ∧
    (∀ (front back : List Char) (c : Char),
      CutBehind front (front ++ c :: back) ↔ c = ';' ∧ Closes front) ∧
    (∀ s property : String, (ofText s).get? property = (declared s).reverse.lookup property) ∧
    (∀ ps qs : List String, ps.Perm qs → (∀ p ∈ ps, Closes p.toList) →
      (ps.map ofText).Pairwise Independent →
      ofText (";".intercalate ps) = ofText (";".intercalate qs)) :=
  ⟨fun _ b h => ofText_append h b, fun cs => ⟨intercalate_split 0 cs, sliceFrom_start cs⟩,
    fun _ _ _ => cutBehind_iff, get?_ofText, fun _ _ => ofText_perm⟩

theorem ofText_composes_picture :
    Closes "fill:url(a;b)".toList ∧
      (ofText ("fill:url(a;b)" ++ ";" ++ "Fill: red !important")).get? "fill" = some "red" ∧
      ["fill:url(a;b)", "gap:1px"].Perm ["gap:1px", "fill:url(a;b)"] ∧
      (∀ p ∈ ["fill:url(a;b)", "gap:1px"], Closes p.toList) ∧
      (["fill:url(a;b)", "gap:1px"].map ofText).Pairwise Independent ∧
      ofText "fill:url(a;b);gap:1px" = ofText "gap:1px;fill:url(a;b)" := by
  obtain ⟨hcompose, -, -, -, hreorder⟩ := ofText_composes
  have hcloses : Closes "fill:url(a;b)".toList := by decide
  have hperm : ["fill:url(a;b)", "gap:1px"].Perm ["gap:1px", "fill:url(a;b)"] := .swap _ _ _
  have hall : ∀ p ∈ ["fill:url(a;b)", "gap:1px"], Closes p.toList := by decide
  have hind : (["fill:url(a;b)", "gap:1px"].map ofText).Pairwise Independent := by
    have hfill : declared "fill:url(a;b)" = [("fill", "url(a;b)")] := by decide +kernel
    have hgap : declared "gap:1px" = [("gap", "1px")] := by decide +kernel
    refine List.pairwise_pair.2 fun property => ?_
    rw [get?_ofText, get?_ofText, hfill, hgap]
    by_cases h : property = "fill"
    · exact .inr (by simp [h])
    · exact .inl (by simp [h])
  refine ⟨hcloses, ?_, hperm, hall, hind, hreorder _ _ hperm hall hind⟩
  rw [get?, hcompose _ _ hcloses]
  decide +kernel

end VisualTemplate.InlineStyle
