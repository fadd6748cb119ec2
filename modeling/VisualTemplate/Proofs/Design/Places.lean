import VisualTemplate.Design
import VisualTemplate.Proofs.Schema.Gate
/-!
The places of a design, and what each of them leaves.

A place is a layer with the layers above it. Which places are reached and what becomes of their
layers is said here without the walk that collects the nodes. A clipped group hides all that is in
it, and of any other group only its own fill is left. The walk leaves what is left of the reached
places, one after another; so what holds of the nodes of each place holds of all that it leaves. An
imported design has these nodes, if the gate takes them, and the assets of the payloads.
-/

namespace VisualTemplate.Design

lemma filterMap_cons_toList {α β : Type} (f : α → Option β) (x : α) (xs : List α) :
    (x :: xs).filterMap f = (f x).toList ++ xs.filterMap f := by
  rw [List.filterMap_cons]
  cases f x <;> rfl

namespace Layer

/-! ### Layers and what they show -/

/-- One of the fills is a visible image with a reference. -/
def HasImage (l : Layer) : Prop :=
  ∃ f ∈ l.own.fills, f.visible = true ∧ f.kind = .image ∧ f.imageRef.isSome = true

/-- One of the fills is a visible plain colour. -/
def HasColor (l : Layer) : Prop :=
  ∃ f ∈ l.own.fills, f.visible = true ∧ f.kind = .solid ∧ f.color.isSome = true

instance : DecidablePred HasImage := fun l =>
  inferInstanceAs (Decidable (∃ f ∈ l.own.fills,
    f.visible = true ∧ f.kind = .image ∧ f.imageRef.isSome = true))

instance : DecidablePred HasColor := fun l =>
  inferInstanceAs (Decidable (∃ f ∈ l.own.fills,
    f.visible = true ∧ f.kind = .solid ∧ f.color.isSome = true))

/-- The layer has two children, one a shape without an image, the other a rectangle with one. -/
def IsMasked (l : Layer) : Prop :=
  ∃ shape image, (l.children = [shape, image] ∨ l.children = [image, shape]) ∧
    (shape.kind.isShape = true ∧ ¬ shape.HasImage) ∧ image.kind = .rectangle ∧ image.HasImage

lemma image?_isSome (l : Layer) : l.image?.isSome = true ↔ l.HasImage := by
  simp [image?, Fill.isImage, HasImage, and_assoc]

lemma color?_isSome (l : Layer) : l.color?.isSome = true ↔ l.HasColor := by
  simp [color?, Fill.firstColor?, Fill.color?, HasColor, and_assoc]

lemma role_eq_shape {l : Layer} :
    l.role = .shape ↔ l.kind.isShape = true ∧ ¬ l.HasImage := by
  rw [← image?_isSome, role]
  cases l.image?.isSome <;> cases l.kind <;> decide

lemma role_eq_image {l : Layer} : l.role = .image ↔ l.kind = .rectangle ∧ l.HasImage := by
  rw [← image?_isSome, role]
  cases l.image?.isSome <;> cases l.kind <;> decide

/-- A pair is found just where there is one. -/
lemma maskedPair?_isSome (l : Layer) :
    (maskedPair? role l.children).isSome = true ↔ l.IsMasked := by
  simp only [IsMasked, ← role_eq_shape, ← role_eq_image]
  constructor
  · intro h
    obtain ⟨⟨shape, image⟩, h⟩ := Option.isSome_iff_exists.1 h
    unfold maskedPair? at h
    split at h
    · next a b hcs =>
      split at h
      · next ha hb => exact ⟨a, b, .inl hcs, ha, hb⟩
      · next ha hb => exact ⟨b, a, .inr hcs, hb, ha⟩
      · cases h
    · cases h
  · rintro ⟨shape, image, hcs | hcs, hs, hi⟩ <;> simp [hcs, maskedPair?, hs, hi]

instance : DecidablePred IsMasked := fun l =>
  decidable_of_iff _ l.maskedPair?_isSome

/-- A group that is walked into. -/
def Opens (l : Layer) : Prop := l.kind.isContainer = true ∧ ¬ l.IsMasked

instance : DecidablePred Opens := fun l =>
  inferInstanceAs (Decidable (l.kind.isContainer = true ∧ ¬ l.IsMasked))

/-- What a layer becomes. -/
inductive Product where
  | text
  | clipped
  | image
  | fill
  | shape
  deriving DecidableEq

/-- What becomes of a layer that is reached. The root and the groups that are walked into leave
their fill and nothing else. -/
def product? (isRoot : Bool) (l : Layer) : Option Product :=
  if isRoot = true ∨ l.Opens then
    if l.HasImage then some .image else if l.HasColor then some .fill else none
  else if l.kind = .text then some .text
  else if l.kind.isContainer = true then some .clipped
  else if l.HasImage then some .image
  else if l.kind.isShape = true then some .shape
  else none

lemma product?_of_isMasked {l : Layer} (hc : l.kind.isContainer = true) (hm : l.IsMasked) :
    l.product? false = some .clipped := by
  have hclosed : ¬ (false = true ∨ l.Opens) := by
    rintro (h | h)
    · cases h
    · exact h.2 hm
  have htext : l.kind ≠ .text := fun h => by simp [h, Kind.isContainer] at hc
  rw [product?, if_neg hclosed, if_neg htext, if_pos hc]

lemma product?_eq_clipped {l : Layer} {isRoot : Bool} (h : l.product? isRoot = some .clipped) :
    isRoot = false ∧ l.kind.isContainer = true ∧ l.IsMasked := by
  unfold product? at h
  split at h
  · split at h
    · cases h
    · split at h <;> cases h
  · next hclosed =>
    rw [not_or, Bool.not_eq_true] at hclosed
    split at h
    · cases h
    · split at h
      · next hcontainer =>
        exact ⟨hclosed.1, hcontainer, not_not.1 fun hm => hclosed.2 ⟨hcontainer, hm⟩⟩
      · split at h
        · cases h
        · split at h <;> cases h

lemma children_of_maskedPair? {cs : List Layer} {shape image : Layer}
    (h : maskedPair? role cs = some (shape, image)) :
    (cs = [shape, image] ∨ cs = [image, shape]) ∧ shape.role = .shape ∧ image.role = .image := by
  unfold maskedPair? at h
  split at h
  · next a b =>
    split at h
    · next ha hb =>
      cases h
      exact ⟨.inl rfl, ha, hb⟩
    · next ha hb =>
      cases h
      exact ⟨.inr rfl, hb, ha⟩
    · cases h
  · cases h

lemma not_hasImage {l : Layer} (h : l.image? = none) : ¬ l.HasImage := by
  rw [← image?_isSome, h]
  exact Bool.false_ne_true

lemma not_hasColor {l : Layer} (h : l.color? = none) : ¬ l.HasColor := by
  rw [← color?_isSome, h]
  exact Bool.false_ne_true

/-! ### The places of a design -/

mutual

/-- A layer and all below it in pre-order, each with the layers above it, the nearest first. -/
def places (above : List Layer) : Layer → List (Layer × List Layer)
  | .mk o cs => (.mk o cs, above) :: placesIn (.mk o cs :: above) cs

def placesIn (above : List Layer) : List Layer → List (Layer × List Layer)
  | [] => []
  | l :: ls => l.places above ++ placesIn above ls

end

/-- All layers between a layer and the root are walked into. The root itself always is. -/
def Reached (p : Layer × List Layer) : Prop := ∀ m ∈ p.2.dropLast, m.Opens

instance : DecidablePred Reached := fun p =>
  inferInstanceAs (Decidable (∀ m ∈ p.2.dropLast, m.Opens))

/-- A layer is visible together with all layers above it. -/
def shown (p : Layer × List Layer) : Bool := p.2.all (·.own.visible) && p.1.own.visible

/-- The place that a node comes from, and what the layer there becomes. -/
abbrev Emission := (Layer × List Layer) × Product

def emission? (p : Layer × List Layer) : Option Emission :=
  if Reached p then (p.1.product? p.2.isEmpty).map (p, ·) else none

/-- The places below a root that leave a node, in pre-order. -/
def emissions (root : Layer) : List Emission := (root.places []).filterMap emission?

lemma mem_emissions {root : Layer} {p : Layer × List Layer} {k : Product} :
    (p, k) ∈ root.emissions ↔
      p ∈ root.places [] ∧ Reached p ∧ p.1.product? p.2.isEmpty = some k := by
  rw [emissions, List.mem_filterMap]
  constructor
  · rintro ⟨q, hq, h⟩
    unfold emission? at h
    split at h
    · next hreached =>
      obtain ⟨k, hk, h⟩ := Option.map_eq_some_iff.1 h
      cases h
      exact ⟨hq, hreached, hk⟩
    · cases h
  · rintro ⟨hp, hreached, hk⟩
    exact ⟨p, hp, by rw [emission?, if_pos hreached, hk]; rfl⟩

/-- The field that the layer above a place hands down. The root hands down none. -/
def handed : List Layer → Option String
  | group :: _ :: _ => Surroundings.handedDown group
  | _ => none

mutual

lemma suffix_of_mem_places {above : List Layer} {l : Layer} {p : Layer × List Layer}
    (h : p ∈ l.places above) : above <:+ p.2 := by
  match l with
  | .mk o cs =>
    rcases List.mem_cons.1 h with rfl | h
    · exact List.suffix_refl above
    · exact (List.suffix_cons _ above).trans (suffix_of_mem_placesIn h)

/-- The layers above a place go on upwards with those above the places it was found from. -/
lemma suffix_of_mem_placesIn {above : List Layer} {ls : List Layer} {p : Layer × List Layer}
    (h : p ∈ placesIn above ls) : above <:+ p.2 := by
  match ls with
  | [] => exact absurd h List.not_mem_nil
  | l :: ls =>
    rcases List.mem_append.1 h with h | h
    · exact suffix_of_mem_places h
    · exact suffix_of_mem_placesIn h

end

lemma child_mem_placesIn {above : List Layer} {cs : List Layer} {c : Layer} (h : c ∈ cs) :
    (c, above) ∈ placesIn above cs := by
  induction cs with
  | nil => exact absurd h List.not_mem_nil
  | cons d cs ih =>
    rcases List.mem_cons.1 h with rfl | h
    · obtain ⟨o, ds⟩ := c
      exact List.mem_append_left _ List.mem_cons_self
    · exact List.mem_append_right _ (ih h)

/-- The layers in a group that is walked into are reached if the group is. -/
lemma reached_child {p : Layer × List Layer} (hreached : Reached p) (hroot : p.2 ≠ [])
    (hopens : p.1.Opens) (c : Layer) : Reached (c, p.1 :: p.2) := by
  intro m hm
  rw [List.dropLast_cons_of_ne_nil hroot] at hm
  exact List.forall_mem_cons.2 ⟨hopens, hreached⟩ m hm

mutual

lemma sublist_places {above : List Layer} {l : Layer} {p : Layer × List Layer}
    (h : p ∈ l.places above) : (p.1.places p.2).Sublist (l.places above) := by
  match l with
  | .mk o cs =>
    rcases List.mem_cons.1 h with rfl | h
    · exact List.Sublist.refl _
    · exact .cons _ (sublist_placesIn h)

/-- The places of a layer that stands at a place are places too. -/
lemma sublist_placesIn {above : List Layer} {ls : List Layer} {p : Layer × List Layer}
    (h : p ∈ placesIn above ls) : (p.1.places p.2).Sublist (placesIn above ls) := by
  match ls with
  | [] => exact absurd h List.not_mem_nil
  | l :: ls =>
    rcases List.mem_append.1 h with h | h
    · exact (sublist_places h).trans (List.sublist_append_left ..)
    · exact (sublist_placesIn h).trans (List.sublist_append_right ..)

end

/-- Below a layer that is not walked into nothing is reached. -/
lemma not_reached_of_closed {above : List Layer} (h : ∃ m ∈ above.dropLast, ¬ m.Opens)
    {ls : List Layer} {p : Layer × List Layer} (hp : p ∈ placesIn above ls) : ¬ Reached p := by
  obtain ⟨m, hm, hclosed⟩ := h
  obtain ⟨front, hfront⟩ := suffix_of_mem_placesIn hp
  have hne : above ≠ [] := fun hnil => by simp [hnil] at hm
  intro hreached
  refine hclosed (hreached m ?_)
  rw [← hfront, List.dropLast_append_of_ne_nil hne]
  exact List.mem_append_right _ hm

lemma handed_eq_some {above : List Layer} {f : String}
    (h : handed above = some f) : ∃ group m rest t, above = group :: m :: rest ∧
      group.children = [t] ∧ t.kind = .text ∧ group.field? = some f := by
  unfold handed at h
  split at h
  · next group m rest =>
    unfold Surroundings.handedDown at h
    split at h
    · next t hchildren =>
      split at h
      · next htext => exact ⟨group, m, rest, t, rfl, hchildren, htext, h⟩
      · cases h
    · cases h
  · cases h

mutual

lemma parent_of_mem_places {above : List Layer} {l : Layer} {p : Layer × List Layer}
    (h : p ∈ l.places above) : p = (l, above) ∨ ∃ m rest, p.2 = m :: rest ∧ p.1 ∈ m.children := by
  match l with
  | .mk o cs =>
    rcases List.mem_cons.1 h with rfl | h
    · exact .inl rfl
    · rcases parent_of_mem_placesIn h with ⟨hmem, habove⟩ | h
      · exact .inr ⟨.mk o cs, above, habove, hmem⟩
      · exact .inr h

/-- A place stands among the children of the layer above it. -/
lemma parent_of_mem_placesIn {above : List Layer} {ls : List Layer} {p : Layer × List Layer}
    (h : p ∈ placesIn above ls) :
    (p.1 ∈ ls ∧ p.2 = above) ∨ ∃ m rest, p.2 = m :: rest ∧ p.1 ∈ m.children := by
  match ls with
  | [] => exact absurd h List.not_mem_nil
  | l :: ls =>
    rcases List.mem_append.1 h with h | h
    · rcases parent_of_mem_places h with rfl | h
      · exact .inl ⟨List.mem_cons_self, rfl⟩
      · exact .inr h
    · rcases parent_of_mem_placesIn h with ⟨hmem, habove⟩ | h
      · exact .inl ⟨List.mem_cons_of_mem _ hmem, habove⟩
      · exact .inr h

end

/-- Only a text is handed a marker. -/
lemma handed_eq_none {root : Layer} {p : Layer × List Layer} (hp : p ∈ root.places [])
    (h : p.1.kind ≠ .text) : handed p.2 = none := by
  rw [← Option.not_isSome_iff_eq_none, Option.isSome_iff_exists]
  rintro ⟨f, hf⟩
  obtain ⟨group, m, rest, t, habove, hchildren, htext, -⟩ := handed_eq_some hf
  rcases parent_of_mem_places hp with rfl | ⟨m', rest', habove', hmem⟩
  · cases habove
  · rw [habove, List.cons.injEq] at habove'
    rw [← habove'.1, hchildren, List.mem_singleton] at hmem
    exact h (hmem ▸ htext)

end Layer

/-! ### The walk, place by place -/

namespace Surroundings

open Layer

variable {s : Surroundings}

variable (s) in
/-- What is left of a reached place itself, whatever is below it. -/
def left (p : Layer × List Layer) : Flat :=
  if p.2.isEmpty = true ∨ p.1.Opens then s.background p.1 (shown p)
  else if p.1.kind.isContainer then
    match maskedPair? role p.1.children with
    | some (shape, image) =>
      s.clipped p.1 shape image ((p.1.field?.or (handed p.2)).or (image.field?.or shape.field?))
        (shown p)
    | none => {}
  else s.leafOf p.1 (p.1.field?.or (handed p.2)) (shown p)

variable (s) in
/-- What is left of those places of a list that are reached. -/
def leftOf (ps : List (Layer × List Layer)) : Flat :=
  ⟨(ps.filter fun p => Reached p).flatMap fun p => (s.left p).nodes,
    (ps.filter fun p => Reached p).flatMap fun p => (s.left p).diagnostics⟩

lemma leftOf_append (ps qs : List (Layer × List Layer)) :
    s.leftOf (ps ++ qs) = (s.leftOf ps).append (s.leftOf qs) := by
  simp [leftOf, Flat.append]

lemma leftOf_cons {p : Layer × List Layer} (h : Reached p) (ps : List (Layer × List Layer)) :
    s.leftOf (p :: ps) = (s.left p).append (s.leftOf ps) := by
  simp [leftOf, Flat.append, h]

lemma leftOf_closed {above : List Layer} (h : ∃ m ∈ above.dropLast, ¬ m.Opens)
    (ls : List Layer) : s.leftOf (placesIn above ls) = {} := by
  have hnone : (placesIn above ls).filter (fun p => Reached p) = [] :=
    List.filter_eq_nil_iff.2 fun p hp => by simpa using not_reached_of_closed h hp
  simp [leftOf, hnone]

lemma append_empty (f : Flat) : f.append {} = f := by
  simp [Flat.append]

lemma left_of_opens {p : Layer × List Layer} (h : p.2.isEmpty = true ∨ p.1.Opens) :
    s.left p = s.background p.1 (shown p) := if_pos h

lemma left_of_leaf {p : Layer × List Layer} (hroot : p.2 ≠ [])
    (h : ¬ p.1.kind.isContainer = true) :
    s.left p = s.leafOf p.1 (p.1.field?.or (handed p.2)) (shown p) := by
  have hclosed : ¬ (p.2.isEmpty = true ∨ p.1.Opens) := by
    rw [List.isEmpty_iff]
    exact not_or.2 ⟨hroot, fun hopens => h hopens.1⟩
  rw [left, if_neg hclosed, if_neg h]

lemma left_of_pair {p : Layer × List Layer} (hroot : p.2 ≠ [])
    (h : p.1.kind.isContainer = true) {shape image : Layer}
    (hpair : maskedPair? role p.1.children = some (shape, image)) :
    s.left p = s.clipped p.1 shape image
      ((p.1.field?.or (handed p.2)).or (image.field?.or shape.field?)) (shown p) := by
  have hmasked : p.1.IsMasked := p.1.maskedPair?_isSome.1 (by rw [hpair]; rfl)
  have hclosed : ¬ (p.2.isEmpty = true ∨ p.1.Opens) := by
    rw [List.isEmpty_iff]
    exact not_or.2 ⟨hroot, fun hopens => hopens.2 hmasked⟩
  rw [left, if_neg hclosed, if_pos h, hpair]

mutual

lemma visit_eq {above : List Layer} (hroot : above ≠ []) (hopen : ∀ m ∈ above.dropLast, m.Opens)
    (l : Layer) : s.visit (handed above) (above.all (·.own.visible)) l =
      s.leftOf (l.places above) := by
  match l with
  | .mk o cs =>
    have hreached : Reached (.mk o cs, above) := hopen
    have hdrop : (Layer.mk o cs :: above).dropLast = .mk o cs :: above.dropLast :=
      List.dropLast_cons_of_ne_nil hroot
    have hvisible : (above.all (·.own.visible) && o.visible) =
        (Layer.mk o cs :: above).all (·.own.visible) := by
      rw [List.all_cons, Bool.and_comm]
      rfl
    have hpair := maskedPair?_isSome (.mk o cs)
    rw [places, visit, leftOf_cons hreached]
    split
    · next hcontainer =>
      split
      · -- a pair is left as one clipped image, and nothing below it is reached
        next shape image hsome =>
        have hmasked : (Layer.mk o cs).IsMasked := hpair.1 (by simp [children, hsome])
        rw [leftOf_closed ⟨_, hdrop ▸ List.mem_cons_self, fun h => h.2 hmasked⟩ cs, append_empty,
          left_of_pair (p := (.mk o cs, above)) hroot hcontainer hsome]
        rfl
      · -- any other group leaves its fill, and then what is in it
        next hnone =>
        have hopens : (Layer.mk o cs).Opens := by
          refine ⟨hcontainer, fun hmasked => ?_⟩
          have hsome := hpair.2 hmasked
          rw [children, hnone] at hsome
          cases hsome
        have hhanded : handedDown (.mk o cs) = handed (.mk o cs :: above) := by
          cases above with
          | nil => exact absurd rfl hroot
          | cons m above => rfl
        have hbelow := visitAll_eq (List.cons_ne_nil (Layer.mk o cs) above)
          (hdrop ▸ List.forall_mem_cons.2 ⟨hopens, hopen⟩) cs
        rw [left_of_opens (p := (.mk o cs, above)) (.inr hopens), ← hbelow, ← hvisible, hhanded]
        rfl
    · next hleaf =>
      rw [leftOf_closed ⟨_, hdrop ▸ List.mem_cons_self, fun h => hleaf h.1⟩ cs, append_empty,
        left_of_leaf hroot hleaf]
      rfl

/-- A walk leaves what is left of the places that are reached, one after another. -/
lemma visitAll_eq {above : List Layer} (hroot : above ≠ [])
    (hopen : ∀ m ∈ above.dropLast, m.Opens) (ls : List Layer) :
    s.visitAll (handed above) (above.all (·.own.visible)) ls = s.leftOf (placesIn above ls) := by
  match ls with
  | [] => rfl
  | l :: ls =>
    rw [placesIn, leftOf_append, visitAll, visit_eq hroot hopen l, visitAll_eq hroot hopen ls]

end

end Surroundings

/-- What the leaves of an export depend on besides their layers. -/
def Surroundings.around (tokens : Tokens) (assets : Assets) (e : Export) (root : Layer) :
    Surroundings where
  tokens := tokens
  knows := assets.contains
  path? id := (e.drawings.get? id).bind Vector.path?
  viewBox? id := (e.drawings.get? id).bind Vector.viewBox?
  origin := ⟨root.own.x, root.own.y⟩

/-- All leaves of an export are left of the places that are reached. -/
lemma flatten_eq (tokens : Tokens) (assets : Assets) (e : Export) (root : Layer) :
    flatten tokens assets e root =
      (Surroundings.around tokens assets e root).leftOf (root.places []) := by
  obtain ⟨o, cs⟩ := root
  have hreached : Layer.Reached (.mk o cs, []) := fun m hm => absurd hm List.not_mem_nil
  have hbelow : o.visible = [Layer.mk o cs].all (·.own.visible) := by
    rw [List.all_cons, List.all_nil, Bool.and_true]
    rfl
  rw [flatten, Layer.places, Surroundings.leftOf_cons hreached,
    Surroundings.left_of_opens (.inl rfl)]
  congr 1
  show Surroundings.visitAll _ (Layer.handed [Layer.mk o cs]) o.visible cs = _
  rw [hbelow]
  exact Surroundings.visitAll_eq (List.cons_ne_nil _ _) (fun m hm => absurd hm List.not_mem_nil) cs

/-! ### What is left of one place -/

open Layer

/-- What is left of a place, by what its layer becomes. -/
inductive Surroundings.Leaves (s : Surroundings) (p : Layer × List Layer) :
    Option Product → Flat → Prop
  | nothing : Leaves s p none {}
  | text : Leaves s p (some .text) ⟨[s.text p.1 (p.1.field?.or (handed p.2)) (shown p)], []⟩
  | clipped {shape image : Layer} (pair : maskedPair? role p.1.children = some (shape, image)) :
      Leaves s p (some .clipped)
        (s.clipped p.1 shape image (p.1.field?.or (image.field?.or shape.field?)) (shown p))
  | image {f : Fill} (fill : p.1.image? = some f) :
      Leaves s p (some .image) (s.image p.1 f p.1.field? (shown p))
  | fill {c : Color} (color : p.1.color? = some c) :
      Leaves s p (some .fill) ⟨[s.place p.1 (shown p) (.shape
        { width := p.1.own.width
          height := p.1.own.height
          shape := .rectangle (p.1.own.cornerRadius.getD 0)
          fill := some (s.paint c) })], []⟩
  | shape : Leaves s p (some .shape) ⟨[s.shape p.1 (shown p)], []⟩

namespace Surroundings

variable {s : Surroundings} {p : Layer × List Layer}

lemma leaves_background (isRoot : Bool) (h : isRoot = true ∨ p.1.Opens) :
    s.Leaves p (p.1.product? isRoot) (s.background p.1 (shown p)) := by
  rw [product?, if_pos h]
  unfold background
  dsimp only
  cases hi : p.1.image? with
  | some f =>
    rw [if_pos ((image?_isSome _).1 (Option.isSome_of_eq_some hi))]
    exact .image hi
  | none =>
    rw [if_neg (not_hasImage hi)]
    cases hc : p.1.color? with
    | some c =>
      rw [if_pos ((color?_isSome _).1 (Option.isSome_of_eq_some hc))]
      exact .fill hc
    | none =>
      rw [if_neg (not_hasColor hc)]
      exact .nothing

lemma leaves_leafOf (h : ¬ p.1.kind.isContainer = true)
    (hhanded : p.1.kind ≠ .text → handed p.2 = none) :
    s.Leaves p (p.1.product? false) (s.leafOf p.1 (p.1.field?.or (handed p.2)) (shown p)) := by
  have hclosed : ¬ (false = true ∨ p.1.Opens) := by
    rintro (h' | h')
    · cases h'
    · exact h h'.1
  rw [product?, if_neg hclosed, if_neg h]
  unfold leafOf
  split
  · exact .text
  · next htext =>
    rw [hhanded htext, Option.or_none]
    cases hi : p.1.image? with
    | some f =>
      rw [if_pos ((image?_isSome _).1 (Option.isSome_of_eq_some hi))]
      exact .image hi
    | none =>
      rw [if_neg (not_hasImage hi)]
      dsimp only
      split
      · exact .shape
      · exact .nothing

/-- What is left of a place is what its layer becomes. -/
lemma leaves_left (hhanded : p.1.kind ≠ .text → handed p.2 = none) :
    s.Leaves p (p.1.product? p.2.isEmpty) (s.left p) := by
  by_cases hopens : p.2.isEmpty = true ∨ p.1.Opens
  · rw [left_of_opens hopens]
    exact leaves_background _ hopens
  · have hroot : p.2 ≠ [] := fun h => hopens (.inl (List.isEmpty_iff.2 h))
    rw [List.isEmpty_eq_false_iff.2 hroot]
    by_cases hcontainer : p.1.kind.isContainer = true
    · have hmasked : p.1.IsMasked := not_not.1 fun h => hopens (.inr ⟨hcontainer, h⟩)
      obtain ⟨⟨shape, image⟩, hpair⟩ := Option.isSome_iff_exists.1 (p.1.maskedPair?_isSome.2 hmasked)
      have htext : p.1.kind ≠ .text := fun h => by simp [h, Kind.isContainer] at hcontainer
      rw [product?_of_isMasked hcontainer hmasked, left_of_pair hroot hcontainer hpair,
        hhanded htext, Option.or_none]
      exact .clipped hpair
    · rw [left_of_leaf hroot hcontainer]
      exact leaves_leafOf hcontainer hhanded

end Surroundings

/-- **All nodes of an export, place by place.** What holds of nothing, of what is left of each place
and of two parts together, holds of all that the walk over an export leaves. -/
theorem flatten_induction {tokens : Tokens} {assets : Assets} {e : Export} {root : Layer}
    {motive : List Emission → Flat → Prop} (nil : motive [] {})
    (append : ∀ xs ys f g, motive xs f → motive ys g → motive (xs ++ ys) (f.append g))
    (leaves : ∀ p k f, (Surroundings.around tokens assets e root).Leaves p k f →
      motive (k.map (p, ·)).toList f) :
    motive root.emissions (flatten tokens assets e root) := by
  rw [flatten_eq, emissions]
  have hhanded : ∀ p ∈ root.places [], p.1.kind ≠ .text → handed p.2 = none :=
    fun p hp => handed_eq_none hp
  generalize root.places [] = ps at hhanded ⊢
  induction ps with
  | nil => exact nil
  | cons p ps ih =>
    rw [List.forall_mem_cons] at hhanded
    by_cases hreached : Reached p
    · rw [filterMap_cons_toList, Surroundings.leftOf_cons hreached, emission?, if_pos hreached]
      exact append _ _ _ _ (leaves _ _ _ (Surroundings.leaves_left hhanded.1)) (ih hhanded.2)
    · have hemission : emission? p = none := if_neg hreached
      rw [List.filterMap_cons_none hemission]
      simpa [Surroundings.leftOf, hreached] using ih hhanded.2

/-! ### Imports -/

/-- The assets are those of the payloads, under the same keys. -/
lemma get?_assetsOf {es : List (String × String)} {assets : Assets} (h : assetsOf es = .ok assets)
    (key : String) :
    assets.get? key = (es.lookup key).bind fun payload => (Asset.ofPayload payload).toOption := by
  induction es generalizing assets with
  | nil =>
    obtain rfl := Except.ok.inj h
    rfl
  | cons x es ih =>
    obtain ⟨name, payload⟩ := x
    obtain ⟨a, ha, h⟩ := Except.bind_eq_ok_iff.1 h
    obtain ⟨rest, hrest, h⟩ := Except.bind_eq_ok_iff.1 h
    obtain rfl := Except.ok.inj h
    rw [Table.get?_insert, List.lookup_cons]
    by_cases hkey : key = name
    · simp [hkey, ha, Except.toOption]
    · have hne : (key == name) = false := by simpa using hkey
      rw [if_neg hkey, hne, ih hrest]

/-- The assets of an export are there if all payloads can be read. -/
lemma exists_assetsOf_iff {es : List (String × String)} :
    (∃ assets, assetsOf es = .ok assets) ↔ ∀ x ∈ es, ∃ a, Asset.ofPayload x.2 = .ok a := by
  induction es with
  | nil => exact ⟨fun _ x hx => absurd hx List.not_mem_nil, fun _ => ⟨_, rfl⟩⟩
  | cons x es ih =>
    rw [List.forall_mem_cons, ← ih]
    constructor
    · rintro ⟨assets, h⟩
      obtain ⟨a, ha, h⟩ := Except.bind_eq_ok_iff.1 h
      obtain ⟨rest, hrest, -⟩ := Except.bind_eq_ok_iff.1 h
      exact ⟨⟨a, ha⟩, rest, hrest⟩
    · rintro ⟨⟨a, ha⟩, rest, hrest⟩
      refine ⟨rest.insert x.1 a, ?_⟩
      rw [assetsOf, ha, hrest]
      rfl

/-- An asset is there under a key just if the payload there is read as the asset. -/
lemma get?_assets {t : Table String} {assets : Assets} (h : assetsOf t.entries = .ok assets)
    {key : String} {a : Asset} : assets.get? key = some a ↔
      ∃ payload, t.get? key = some payload ∧ Asset.ofPayload payload = .ok a := by
  rw [get?_assetsOf h, ← Table.get?, Option.bind_eq_some_iff]
  refine exists_congr fun payload => and_congr_right fun _ => ?_
  cases Asset.ofPayload payload <;> simp [Except.toOption]

/-- All references to payloads are references to assets, and none else. -/
lemma contains_assets {t : Table String} {assets : Assets} (h : assetsOf t.entries = .ok assets)
    (key : String) : assets.contains key = t.contains key := by
  rw [Bool.eq_iff_iff, Table.contains_iff, Table.contains_iff]
  constructor
  · rintro ⟨a, ha⟩
    obtain ⟨payload, hpayload, -⟩ := (get?_assets h).1 ha
    exact ⟨payload, hpayload⟩
  · rintro ⟨payload, hpayload⟩
    obtain ⟨a, ha⟩ := exists_assetsOf_iff.1 ⟨assets, h⟩ _ (Table.mem_entries_iff.2 hpayload)
    exact ⟨a, (get?_assets h).2 ⟨payload, hpayload, ha⟩⟩

/-- What an export with this root is as a schema, before it is checked. -/
def Export.draft (config : DesignConfig) (id : String) (e : Export) (root : Layer)
    (assets : Assets) : Draft where
  id := id
  title := config.title.getD e.name
  canvas := canvasOf e root
  version := .flat
  nodes := (flatten config.tokens assets e root).nodes
  tokens := config.tokens
  variants := config.variants

/-- An export is imported if it has one root, its assets can be read and its draft is accepted. -/
lemma Export.toImport_eq_ok_iff {config : DesignConfig} {id : String} {e : Export} {i : Import} :
    e.toImport config id = .ok i ↔ ∃ root, e.layers = [root] ∧
      assetsOf e.images.entries = .ok i.assets ∧
      (e.draft config id root i.assets).build = .ok i.schema ∧
      i.diagnostics = (flatten config.tokens i.assets e root).diagnostics := by
  unfold toImport
  constructor
  · intro h
    split at h
    · next root hlayers =>
      obtain ⟨assets, hassets, h⟩ := Except.bind_eq_ok_iff.1 h
      obtain ⟨s, hs, h⟩ := Except.bind_eq_ok_iff.1 h
      obtain rfl := Except.ok.inj h
      exact ⟨root, hlayers, hassets, hs, rfl⟩
    · cases h
  · rintro ⟨root, hlayers, hassets, hs, hdiagnostics⟩
    obtain ⟨s, assets, diagnostics⟩ := i
    dsimp only at hassets hs hdiagnostics
    subst hdiagnostics
    rw [hlayers]
    exact Except.bind_eq_ok_iff.2 ⟨assets, hassets, Except.bind_eq_ok_iff.2 ⟨s, hs, rfl⟩⟩

/-- An imported design has the nodes of the walk. -/
lemma Export.exists_top {config : DesignConfig} {id : String} {e : Export} {i : Import}
    (h : e.toImport config id = .ok i) : ∃ root, e.layers = [root] ∧
      i.schema.top = (flatten config.tokens i.assets e root).nodes := by
  obtain ⟨root, hlayers, -, hs, -⟩ := toImport_eq_ok_iff.1 h
  exact ⟨root, hlayers, by rw [Schema.top, (Draft.check_eq_ok_iff.1 hs).1]; rfl⟩

end VisualTemplate.Design
