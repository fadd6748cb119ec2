import VisualTemplate.Proofs.Design.Visibility
/-!
The order of the two layers of a masked pair.

What is made of a layer depends on the layer's own data and on what is made of its children, and a
pair is the same pair in either order. So the two layers of a pair may be exchanged, wherever it
stands below the root, and the import is the same, errors and reports included.
-/

namespace VisualTemplate.Design

namespace Layer

/-- The second layer is the first one with the two children of one group exchanged that is a masked
pair: the layer itself or a group anywhere below it. -/
inductive Exchanged : Layer → Layer → Prop
  | here {o : Own} {a b : Layer} (container : o.kind.isContainer = true)
      (pair : (Layer.mk o [a, b]).IsMasked) : Exchanged (.mk o [a, b]) (.mk o [b, a])
  | inside {o : Own} {front back : List Layer} {l l' : Layer} (h : Exchanged l l') :
      Exchanged (.mk o (front ++ l :: back)) (.mk o (front ++ l' :: back))

/-- Two lists of roots are the same but for one pair below a root, which is exchanged. -/
inductive ExchangedBelow : List Layer → List Layer → Prop
  | mk {o : Own} {before after front back : List Layer} {l l' : Layer} (h : Exchanged l l') :
      ExchangedBelow (before ++ .mk o (front ++ l :: back) :: after)
        (before ++ .mk o (front ++ l' :: back) :: after)

lemma Exchanged.own_eq {l l' : Layer} (h : Exchanged l l') : l.own = l'.own := by
  cases h <;> rfl

lemma role_congr {l l' : Layer} (h : l.own = l'.own) : l.role = l'.role := by
  obtain ⟨o, cs⟩ := l
  obtain ⟨o', cs'⟩ := l'
  obtain rfl : o = o' := h
  rfl

lemma maskedPair?_of_length {cs : List Layer} (h : cs.length ≠ 2) : maskedPair? role cs = none := by
  unfold maskedPair?
  split
  · exact absurd rfl h
  · rfl

/-- Layers of the same data make up the same pairs. -/
lemma maskedPair?_congr {cs cs' : List Layer} (h : cs.map own = cs'.map own) :
    (maskedPair? role cs).map (fun pair => (pair.1.own, pair.2.own)) =
      (maskedPair? role cs').map fun pair => (pair.1.own, pair.2.own) := by
  have hlength : cs.length = cs'.length := by simpa using congrArg List.length h
  by_cases htwo : cs.length = 2
  · obtain ⟨a, b, rfl⟩ := List.length_eq_two.1 htwo
    obtain ⟨a', b', rfl⟩ := List.length_eq_two.1 (hlength.symm.trans htwo)
    obtain ⟨ha, hb⟩ : a.own = a'.own ∧ b.own = b'.own := by simpa using h
    simp only [maskedPair?, role_congr ha, role_congr hb]
    cases a'.role <;> cases b'.role <;> simp [ha, hb]
  · rw [maskedPair?_of_length htwo, maskedPair?_of_length (hlength ▸ htwo)]

end Layer

open Layer

namespace Surroundings

variable {s : Surroundings}

lemma clipped_congr {group group' shape shape' image image' : Layer}
    (hgroup : group.own = group'.own) (hshape : shape.own = shape'.own)
    (himage : image.own = image'.own) (field : Option String) (visible : Bool) :
    s.clipped group shape image field visible = s.clipped group' shape' image' field visible := by
  obtain ⟨_, _⟩ := group
  obtain ⟨_, _⟩ := group'
  obtain ⟨_, _⟩ := shape
  obtain ⟨_, _⟩ := shape'
  obtain ⟨_, _⟩ := image
  obtain ⟨_, _⟩ := image'
  obtain rfl := hgroup
  obtain rfl := hshape
  obtain rfl := himage
  rfl

lemma visitAll_append (inherited : Option String) (shown : Bool) (ls ms : List Layer) :
    s.visitAll inherited shown (ls ++ ms) =
      (s.visitAll inherited shown ls).append (s.visitAll inherited shown ms) := by
  induction ls with
  | nil => simp [visitAll, Flat.append]
  | cons l ls ih =>
    rw [List.cons_append, visitAll, visitAll, ih]
    simp [Flat.append]

lemma handedDown_congr {o : Own} {cs cs' : List Layer} (h : cs.map own = cs'.map own) :
    handedDown (.mk o cs) = handedDown (.mk o cs') := by
  have hlength : cs.length = cs'.length := by simpa using congrArg List.length h
  have hnone {ds : List Layer} (hds : ds.length ≠ 1) : handedDown (.mk o ds) = none := by
    unfold handedDown
    split
    · next only hone => exact absurd (congrArg List.length hone) hds
    · rfl
  by_cases hone : cs.length = 1
  · obtain ⟨⟨c, ds⟩, rfl⟩ := List.length_eq_one_iff.1 hone
    obtain ⟨⟨c', ds'⟩, rfl⟩ := List.length_eq_one_iff.1 (hlength.symm.trans hone)
    obtain rfl : c = c' := by simpa [own] using h
    rfl
  · rw [hnone hone, hnone (hlength ▸ hone)]

/-- A layer leaves the same if its children have the same data and leave the same. -/
lemma visit_congr {o : Own} {cs cs' : List Layer} (howns : cs.map own = cs'.map own)
    (hbelow : ∀ inherited shown, s.visitAll inherited shown cs = s.visitAll inherited shown cs')
    (inherited : Option String) (shown : Bool) :
    s.visit inherited shown (.mk o cs) = s.visit inherited shown (.mk o cs') := by
  by_cases hcontainer : (Layer.mk o cs).kind.isContainer = true
  · have hcontainer' : (Layer.mk o cs').kind.isContainer = true := hcontainer
    have hpairs := maskedPair?_congr howns
    rw [visit, visit, if_pos hcontainer, if_pos hcontainer']
    cases hpair : maskedPair? role cs with
    | some pair =>
      rw [hpair] at hpairs
      obtain ⟨pair', hpair', howns'⟩ := Option.map_eq_some_iff.1 hpairs.symm
      obtain ⟨hshape, himage⟩ := Prod.mk.inj howns'
      have hfields : pair.2.field?.or pair.1.field? = pair'.2.field?.or pair'.1.field? := by
        rw [field?, field?, field?, field?, hshape, himage]
      rw [hpair']
      dsimp only
      rw [hfields]
      exact clipped_congr rfl hshape.symm himage.symm _ _
    | none =>
      rw [hpair] at hpairs
      rw [Option.map_eq_none_iff.1 hpairs.symm, handedDown_congr howns, hbelow]
      rfl
  · have hcontainer' : ¬ (Layer.mk o cs').kind.isContainer = true := hcontainer
    rw [visit, visit, if_neg hcontainer, if_neg hcontainer']
    rfl

/-- Exchanging a pair changes nothing that a layer leaves. -/
lemma visit_exchanged {l l' : Layer} (h : Exchanged l l') (inherited : Option String)
    (shown : Bool) : s.visit inherited shown l = s.visit inherited shown l' := by
  induction h generalizing inherited shown with
  | @here o a b hcontainer hmasked =>
    obtain ⟨⟨shape, image⟩, hpair⟩ := Option.isSome_iff_exists.1 ((maskedPair?_isSome _).2 hmasked)
    have hkind : (Layer.mk o [a, b]).kind.isContainer = true := hcontainer
    have hkind' : (Layer.mk o [b, a]).kind.isContainer = true := hcontainer
    have hswapped : maskedPair? role [b, a] = some (shape, image) :=
      (maskedPair?_swap role b a).trans hpair
    have hpair : maskedPair? role [a, b] = some (shape, image) := hpair
    rw [visit, visit, if_pos hkind, if_pos hkind', hpair, hswapped]
    exact clipped_congr rfl rfl rfl _ _
  | @inside o front back l l' h ih =>
    refine visit_congr (by simp [h.own_eq]) (fun inherited shown => ?_) inherited shown
    rw [visitAll_append, visitAll_append, visitAll, visitAll, ih]

end Surroundings

/-! ### Imports -/

lemma Export.toImport_of_length {e : Export} (h : e.layers.length ≠ 1) (config : DesignConfig)
    (id : String) :
    e.toImport config id = .error (.importing (.rootCount e.layers.length)) := by
  unfold toImport
  split
  · next root hroot => exact absurd (congrArg List.length hroot) h
  · rfl

/-- The import depends on the one root by its data and by what the layers below it leave. -/
lemma Export.toImport_congr {e : Export} {o : Own} {cs cs' : List Layer}
    (hbelow : ∀ s : Surroundings, ∀ inherited shown,
      s.visitAll inherited shown cs = s.visitAll inherited shown cs')
    (config : DesignConfig) (id : String) :
    { e with layers := [.mk o cs] }.toImport config id =
      { e with layers := [.mk o cs'] }.toImport config id := by
  have hflat (assets : Assets) : flatten config.tokens assets
        { e with layers := [.mk o cs] } (.mk o cs) =
      flatten config.tokens assets { e with layers := [.mk o cs'] } (.mk o cs') := by
    unfold flatten
    dsimp only [children]
    rw [hbelow]
    rfl
  unfold toImport
  dsimp only
  simp only [hflat]
  rfl

/-! ### What is clipped -/

/-- The node is a clipped image. -/
def IsClipped (n : Node) : Prop := ∃ s, n = .leaf n.head (.svg s)

/-- A node is a clipped image just if the group that it is drawn from is a pair below the root. -/
lemma isClipped_iff {s : Surroundings} {root : Layer} {x : Emission} {n : Node}
    (hx : x ∈ root.emissions) (h : s.Drawn x n) :
    IsClipped n ↔ x.1.2 ≠ [] ∧ x.1.1.kind.isContainer = true ∧ x.1.1.IsMasked := by
  obtain ⟨p, k⟩ := x
  obtain ⟨leaf, rfl, hleaf⟩ := h
  have hclipped : IsClipped (s.place p.1 (shown p) leaf) ↔ k = .clipped := by
    cases hleaf <;> simp [IsClipped, Surroundings.place, Node.head]
  rw [hclipped]
  constructor
  · rintro rfl
    exact (mem_emissions_clipped.1 hx).2.2
  · rintro ⟨hroot, hcontainer, hmasked⟩
    have hproduct := (mem_emissions.1 hx).2.2
    rw [List.isEmpty_eq_false_iff.2 hroot, product?_of_isMasked hcontainer hmasked] at hproduct
    exact (Option.some.inj hproduct).symm

/-- **A masked pair has no order.** The import is the same, or fails in the same way, if the two
layers of a pair below the root are exchanged. And no group is clipped but the pairs: an imported
design has a clipped image for each reached pair below the root and for nothing else, and the layers
in any other group that is reached are reached as well. -/
theorem Export.toImport_exchanged (config : DesignConfig) (id : String) (e : Export) :
    (∀ layers, ExchangedBelow e.layers layers →
      { e with layers }.toImport config id = e.toImport config id) ∧
      ∀ i root, e.toImport config id = .ok i → e.layers = [root] →
        List.Forall₂ (fun x n => IsClipped n ↔
          x.1.2 ≠ [] ∧ x.1.1.kind.isContainer = true ∧ x.1.1.IsMasked)
            root.emissions i.schema.top ∧
          ∀ p ∈ root.places [], Reached p → p.2 = [] ∨ p.1.kind.isContainer = true ∧ ¬ p.1.IsMasked →
            ∀ c ∈ p.1.children,
              (c, p.1 :: p.2) ∈ root.places [] ∧ Reached (c, p.1 :: p.2) := by
  refine ⟨fun layers h => ?_, fun i root hi hroot => ⟨?_, fun p hp hreached hopens c hc => ?_⟩⟩
  · obtain ⟨name, width, height, nodes, drawings, images⟩ := e
    dsimp only at h
    cases h with
    | @mk o before after front back l l' h =>
      by_cases hone : before = [] ∧ after = []
      · obtain ⟨rfl, rfl⟩ := hone
        refine (toImport_congr (fun s inherited shown => ?_) config id).symm
        rw [Surroundings.visitAll_append, Surroundings.visitAll_append, Surroundings.visitAll,
          Surroundings.visitAll, Surroundings.visit_exchanged h]
      · -- with more than one root both fail, and on the same number of roots
        have hlength {r : Layer} : (before ++ r :: after).length ≠ 1 := by
          rw [List.length_append, List.length_cons]
          rw [← List.length_eq_zero_iff, ← List.length_eq_zero_iff] at hone
          omega
        rw [toImport_of_length hlength, toImport_of_length hlength]
        simp
  · obtain ⟨root', hlayers, htop⟩ := exists_top hi
    obtain rfl := (List.cons.inj (hroot.symm.trans hlayers)).1
    have hdrawn := drawn_flatten config.tokens i.assets e root
    rw [← htop] at hdrawn
    exact ((List.forall₂_and_left _ _).2 ⟨fun _ hx => hx, hdrawn⟩).imp
      fun x n hxn => isClipped_iff hxn.1 hxn.2
  · have hplace : (c, p.1 :: p.2) ∈ p.1.places p.2 := by
      obtain ⟨⟨o, cs⟩, above⟩ := p
      exact List.mem_cons_of_mem _ (child_mem_placesIn hc)
    refine ⟨(sublist_places hp).subset hplace, ?_⟩
    by_cases habove : p.2 = []
    · rw [habove]
      exact fun m hm => absurd hm List.not_mem_nil
    · exact reached_child hreached habove (hopens.resolve_left habove) c

/-- The hidden group of the poster is the same clipped image with its layers in either order. -/
theorem Export.toImport_exchanged_poster : ∃ layers, ExchangedBelow poster.layers layers ∧
    layers.flatMap (fun l => (l.places []).map (·.1.id)) =
      ["root", "team", "hole", "face", "row", "title", "dot"] ∧
    { poster with layers }.toImport {} "poster" = poster.toImport {} "poster" ∧
    ∃ i, { poster with layers }.toImport {} "poster" = .ok i ∧
      i.schema.top.filterMap (fun n => match n with
        | .leaf h (.svg s) => some (h.id, s.image)
        | _ => none) = [("team", some "face.png")] := by
  have hexchanged : ExchangedBelow poster.layers _ :=
    @ExchangedBelow.mk _ [] [] [] [_] _ _ (.here rfl (by decide +kernel))
  have hsame := (Export.toImport_exchanged {} "poster" poster).1 _ hexchanged
  have hcheck : (poster.toImport {} "poster").toOption.any (fun i =>
      i.schema.top.filterMap (fun n => match n with
        | .leaf h (.svg s) => some (h.id, s.image)
        | _ => none) == [("team", some "face.png")]) = true := by
    decide +kernel
  obtain ⟨i, hi, himages⟩ := exists_ok_of_any hcheck
  exact ⟨_, hexchanged, by decide +kernel, hsame, i, hsame.trans hi, beq_iff_eq.1 himages⟩

end VisualTemplate.Design
