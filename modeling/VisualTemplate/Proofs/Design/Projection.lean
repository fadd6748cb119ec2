import VisualTemplate.Proofs.Design.Places
/-!
The nodes of a flat schema are layers of its design, in pre-order.

They are the reached layers that have something to show, one node for each, at the layer's offset
from the root and visible if the layer is together with all above it.
-/

namespace VisualTemplate.Design

namespace Layer

/-- A leaf of the kind of a product. A fill is a rectangle. -/
inductive Product.Fits : Product → Leaf → Prop
  | text {t : TextLeaf} : Fits .text (.text t)
  | clipped {s : SvgLeaf} : Fits .clipped (.svg s)
  | image {i : ImageLeaf} : Fits .image (.image i)
  | fill {s : ShapeLeaf} {radius : Float32} (rectangle : s.shape = .rectangle radius) :
    Fits .fill (.shape s)
  | shape {s : ShapeLeaf} : Fits .shape (.shape s)

/-- What a place leaves in the schema: the layer, whether it is shown, and what it becomes. -/
def trace? (p : Layer × List Layer) : Option (Layer × Bool × Product) :=
  if Reached p then (p.1.product? p.2.isEmpty).map fun k => (p.1, shown p, k) else none

/-- The layers below a root that leave a node, in pre-order. -/
def traces (root : Layer) : List (Layer × Bool × Product) := (root.places []).filterMap trace?

/-- The node shows the layer: it has the layer's id, its place relative to a root and its
visibility, and it is what the layer becomes. -/
structure ShownBy (root : Layer) (t : Layer × Bool × Product) (n : Node) : Prop where
  id : n.id = t.1.id
  position : n.head.position = some ⟨t.1.own.x - root.own.x, t.1.own.y - root.own.y⟩
  visible : n.visible = t.2.1
  leaf : ∃ leaf, n = .leaf n.head leaf ∧ t.2.2.Fits leaf

lemma trace?_eq (p : Layer × List Layer) :
    trace? p = (emission? p).map fun x => (x.1.1, shown x.1, x.2) := by
  unfold trace? emission?
  split
  · rw [Option.map_map]
    rfl
  · rfl

lemma traces_eq (root : Layer) :
    root.traces = root.emissions.map fun x => (x.1.1, shown x.1, x.2) := by
  rw [traces, emissions, List.map_filterMap]
  exact congrArg (fun f => (root.places []).filterMap f) (funext trace?_eq)

end Layer

open Layer

variable {root : Layer}

lemma map_id_shownBy {ts : List (Layer × Bool × Product)} {ns : List Node}
    (h : List.Forall₂ (ShownBy root) ts ns) :
    ns.map (fun n => (n.id, n.visible)) = ts.map fun t => (t.1.id, t.2.1) := by
  induction h with
  | nil => rfl
  | cons ht _ ih => rw [List.map_cons, List.map_cons, ih, ht.id, ht.visible]

lemma preorders_shownBy {ts : List (Layer × Bool × Product)} {ns : List Node}
    (h : List.Forall₂ (ShownBy root) ts ns) : Node.preorders ns = ns := by
  induction h with
  | nil => rfl
  | cons ht _ ih =>
    obtain ⟨leaf, hleaf, -⟩ := ht.leaf
    rw [Node.preorders, ih, hleaf]
    rfl

/-- Each layer leaves a node at most once, and in pre-order. -/
lemma sublist_traces (root : Layer) :
    (root.traces.map (·.1)).Sublist ((root.places []).map (·.1)) := by
  rw [traces]
  induction root.places [] with
  | nil => exact .slnil
  | cons p ps ih =>
    rw [filterMap_cons_toList, List.map_append, List.map_cons]
    cases ht : trace? p with
    | none => exact .cons _ ih
    | some t =>
      have hlayer : t.1 = p.1 := by
        unfold trace? at ht
        split at ht
        · obtain ⟨k, -, rfl⟩ := Option.map_eq_some_iff.1 ht
          rfl
        · cases ht
      rw [Option.toList_some, List.map_singleton, hlayer]
      exact .cons_cons _ ih

/-- A leaf at the place of a layer shows the layer. -/
lemma shownBy_place {s : Surroundings} (horigin : s.origin = ⟨root.own.x, root.own.y⟩) {l : Layer}
    {visible : Bool} {k : Product} {leaf : Leaf} (h : k.Fits leaf) :
    ShownBy root (l, visible, k) (s.place l visible leaf) where
  id := rfl
  position := by rw [Surroundings.place, horigin]; rfl
  visible := rfl
  leaf := ⟨leaf, rfl, h⟩

/-- The walk over an export leaves one node for each trace. -/
lemma shownBy_flatten (tokens : Tokens) (assets : Assets) (e : Export) (root : Layer) :
    List.Forall₂ (ShownBy root) root.traces (flatten tokens assets e root).nodes := by
  rw [traces_eq]
  refine flatten_induction (motive := fun xs f => List.Forall₂ (ShownBy root)
    (xs.map fun x => (x.1.1, shown x.1, x.2)) f.nodes) .nil (fun xs ys f g hf hg => ?_)
    fun p k f hleaves => ?_
  · rw [List.map_append]
    exact List.rel_append hf hg
  · cases hleaves with
    | nothing => exact .nil
    | text => exact .cons (shownBy_place rfl .text) .nil
    | clipped _ => exact .cons (shownBy_place rfl .clipped) .nil
    | image _ => exact .cons (shownBy_place rfl .image) .nil
    | fill _ => exact .cons (shownBy_place rfl (.fill rfl)) .nil
    | shape => exact .cons (shownBy_place rfl .shape) .nil

/-- **A flat schema is a projection of its design.** Its nodes are those layers of the export that
are reached and have something to show, in pre-order and each of them once. Each has the layer's id,
its offset from the root's corner, and it is visible if the layer is together with all above it. -/
theorem Export.nodes_shownBy {config : DesignConfig} {id : String} {e : Export} {i : Import}
    (h : e.toImport config id = .ok i) :
    ∃ root, e.layers = [root] ∧ List.Forall₂ (ShownBy root) root.traces i.schema.preorder ∧
      (i.schema.preorder.map (·.id)).Sublist ((root.places []).map (·.1.id)) ∧
      (i.schema.preorder.map (·.id)).Nodup := by
  unfold toImport at h
  split at h
  · next root hlayers =>
    obtain ⟨assets, -, h⟩ := Except.bind_eq_ok_iff.1 h
    obtain ⟨s, hs, h⟩ := Except.bind_eq_ok_iff.1 h
    have hshown := shownBy_flatten config.tokens assets e root
    have hpreorder : i.schema.preorder = (flatten config.tokens assets e root).nodes := by
      rw [← Except.ok.inj h, Schema.preorder, (Draft.check_eq_ok_iff.1 hs).1]
      exact preorders_shownBy hshown
    have hids : i.schema.preorder.map (·.id) = root.traces.map (·.1.id) := by
      have hmap := congrArg (List.map Prod.fst) (map_id_shownBy hshown)
      rw [hpreorder]
      simpa [Function.comp_def] using hmap
    refine ⟨root, hlayers, hpreorder ▸ hshown, ?_, ?_⟩
    · rw [hids]
      simpa [Function.comp_def] using (sublist_traces root).map Layer.id
    · exact (Draft.fault?_eq_none.1 i.schema.accepted).1.ids_nodup
  · cases h

/-- A design with a hidden clipped group, and a row of a text and a hidden dot. -/
def poster : Export where
  name := "Poster"
  width := 40
  height := 30
  layers := [.mk { id := "root", kind := .frame, x := 10, y := 20, fills := [.solid 1 1 1] }
    [.mk { id := "team", kind := .group, visible := false }
      [.mk { id := "face", kind := .rectangle, fills := [.image "face.png"] } [],
        .mk { id := "hole", kind := .ellipse } []],
      .mk { id := "row", kind := .frame, x := 12, y := 21 }
        [.mk { id := "title", kind := .text, x := 13, y := 22 } [],
          .mk { id := "dot", kind := .ellipse, visible := false } []]]]

theorem Export.nodes_shownBy_poster :
    ∃ i, poster.toImport {} "poster" = .ok i ∧ i.schema.preorder.map (fun n => (n.id, n.visible)) =
      [("root", true), ("team", false), ("title", true), ("dot", false)] := by
  have hok : (poster.toImport {} "poster").toOption.isSome = true := by decide +kernel
  obtain ⟨i, hi⟩ : ∃ i, poster.toImport {} "poster" = .ok i := by
    cases h : poster.toImport {} "poster" with
    | ok i => exact ⟨i, rfl⟩
    | error e => simp [h, Except.toOption] at hok
  obtain ⟨root, hroot, hshown, -, -⟩ := Export.nodes_shownBy hi
  obtain rfl := (List.cons.inj hroot).1
  refine ⟨i, hi, ?_⟩
  rw [map_id_shownBy hshown]
  decide +kernel

end VisualTemplate.Design
