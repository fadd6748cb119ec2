import VisualTemplate.Proofs.Markup.Emitted
import VisualTemplate.Proofs.Node.Rendered
import VisualTemplate.Proofs.Node.Variants
import VisualTemplate.Proofs.Schema.Gate
/-!
The body of a document shows the rendered nodes.

Its ids are those of the rendered nodes in pre-order, and each text stands in the element of its
node. Of its tags only one kind depends on the data: a clipped image without an image of its own
has an `image` element if a value was found for it.
-/

namespace VisualTemplate

namespace Document

/-! ### Ids, texts and tags of a sketch -/

mutual

/-- The ids in a sketch, each before those inside its element. -/
def Sketch.ids : Sketch → List String
  | .element _ id _ cs => id.toList ++ idsIn cs

def idsIn : List Sketch → List String
  | [] => []
  | s :: ss => s.ids ++ idsIn ss

end

mutual

/-- A sketch and all inside it. -/
def Sketch.within : Sketch → List Sketch
  | .element tag id text cs => .element tag id text cs :: withinAll cs

def withinAll : List Sketch → List Sketch
  | [] => []
  | s :: ss => s.within ++ withinAll ss

end

/-- Nested tags, and nothing else. -/
inductive Tags where
  | element (tag : String) (children : List Tags)

mutual

def Sketch.tags : Sketch → Tags
  | .element tag _ _ cs => .element tag (tagsIn cs)

def tagsIn : List Sketch → List Tags
  | [] => []
  | s :: ss => s.tags :: tagsIn ss

end

/-- What of a rendered node has a part in its tags. -/
inductive Skeleton where
  | container (children : List Skeleton)
  | text
  | image
  | svg (masked imaged : Bool)
  | rectangle
  | ellipse
  | vector

def leafSkeleton (values : Table Resolved) (h : Head) : Leaf → Skeleton
  | .text _ => .text
  | .image _ => .image
  | .svg s => .svg s.mask.isSome (hasImage values h s)
  | .shape s =>
    match s.shape with
    | .rectangle _ => .rectangle
    | .ellipse => .ellipse
    | .vector _ _ => .vector

mutual

def nodeSkeleton (values : Table Resolved) : Node → List Skeleton
  | .container h _ cs => if h.visible then [.container (nodeSkeletons values cs)] else []
  | .leaf h l => if h.visible then [leafSkeleton values h l] else []

/-- The skeletons of the visible ones among nodes. -/
def nodeSkeletons (values : Table Resolved) : List Node → List Skeleton
  | [] => []
  | n :: ns => nodeSkeleton values n ++ nodeSkeletons values ns

end

mutual

/-- The tags of a skeleton. -/
def Skeleton.tags : Skeleton → Tags
  | .container cs => .element "div" (skeletonTags cs)
  | .text => .element "div" []
  | .image => .element "img" []
  | .svg masked imaged => .element "svg"
      ((if masked then [.element "defs" [.element "mask" [.element "path" []]]] else []) ++
        if imaged then [.element "image" []] else [])
  | .rectangle => .element "svg" [.element "rect" []]
  | .ellipse => .element "svg" [.element "ellipse" []]
  | .vector => .element "svg" [.element "path" []]

def skeletonTags : List Skeleton → List Tags
  | [] => []
  | s :: ss => s.tags :: skeletonTags ss

end

section

variable (values : Table Resolved)

lemma idsIn_append (ss ts : List Sketch) : idsIn (ss ++ ts) = idsIn ss ++ idsIn ts := by
  induction ss with
  | nil => rfl
  | cons s ss ih => rw [List.cons_append, idsIn, idsIn, ih, List.append_assoc]

lemma withinAll_append (ss ts : List Sketch) :
    withinAll (ss ++ ts) = withinAll ss ++ withinAll ts := by
  induction ss with
  | nil => rfl
  | cons s ss ih => rw [List.cons_append, withinAll, withinAll, ih, List.append_assoc]

lemma tagsIn_append (ss ts : List Sketch) : tagsIn (ss ++ ts) = tagsIn ss ++ tagsIn ts := by
  induction ss with
  | nil => rfl
  | cons s ss ih => rw [List.cons_append, tagsIn, tagsIn, ih, List.cons_append]

lemma skeletonTags_append (ss ts : List Skeleton) :
    skeletonTags (ss ++ ts) = skeletonTags ss ++ skeletonTags ts := by
  induction ss with
  | nil => rfl
  | cons s ss ih => rw [List.cons_append, skeletonTags, skeletonTags, ih, List.cons_append]

lemma ids_leafSketch (h : Head) (l : Leaf) : (leafSketch values h l).ids = [h.id] := by
  cases l with
  | text t => rfl
  | image i => rfl
  | svg s =>
    simp only [leafSketch, Sketch.ids, Option.toList_some]
    split <;> split <;> rfl
  | shape s => rfl

mutual

/-- The ids of a node's sketch are those of the rendered nodes. -/
theorem ids_nodeSketch (n : Node) :
    idsIn (nodeSketch values n) = n.rendered.map (·.id) := by
  match n with
  | .container h l cs =>
    rw [nodeSketch, Node.rendered]
    split
    · simp only [idsIn, Sketch.ids, ids_nodeSketches cs, List.append_nil, List.map_cons]
      rfl
    · rfl
  | .leaf h l =>
    rw [nodeSketch, Node.rendered]
    split
    · simp only [idsIn, ids_leafSketch, List.append_nil]
      rfl
    · rfl

theorem ids_nodeSketches (ns : List Node) :
    idsIn (nodeSketches values ns) = (Node.renderedIn ns).map (·.id) := by
  match ns with
  | [] => rfl
  | n :: ns =>
    rw [nodeSketches, idsIn_append, ids_nodeSketch n, ids_nodeSketches ns, Node.renderedIn,
      List.map_append]

end

mutual

/-- The sketch of a rendered leaf stands in the sketches of the nodes. -/
theorem leafSketch_mem_node {h : Head} {l : Leaf} (n : Node) (hn : .leaf h l ∈ n.rendered) :
    leafSketch values h l ∈ withinAll (nodeSketch values n) := by
  match n with
  | .container h' l' cs =>
    rw [Node.rendered] at hn
    rw [nodeSketch]
    split at hn
    · next hv =>
      have hcs : .leaf h l ∈ Node.renderedIn cs := by simpa using hn
      rw [if_pos hv, withinAll, Sketch.within]
      exact List.mem_append_left _ (List.mem_cons_of_mem _ (leafSketch_mem_nodes cs hcs))
    · exact absurd hn List.not_mem_nil
  | .leaf h' l' =>
    rw [Node.rendered] at hn
    rw [nodeSketch]
    split at hn
    · next hv =>
      obtain ⟨rfl, rfl⟩ := Node.leaf.inj (List.mem_singleton.1 hn)
      rw [if_pos hv, withinAll]
      refine List.mem_append_left _ ?_
      cases leafSketch values h l
      rw [Sketch.within]
      exact List.mem_cons_self
    · exact absurd hn List.not_mem_nil

theorem leafSketch_mem_nodes {h : Head} {l : Leaf} (ns : List Node)
    (hns : .leaf h l ∈ Node.renderedIn ns) :
    leafSketch values h l ∈ withinAll (nodeSketches values ns) := by
  match ns with
  | [] => exact absurd hns List.not_mem_nil
  | n :: ns =>
    rw [Node.renderedIn] at hns
    rw [nodeSketches, withinAll_append]
    rcases List.mem_append.1 hns with hn | hns
    · exact List.mem_append_left _ (leafSketch_mem_node n hn)
    · exact List.mem_append_right _ (leafSketch_mem_nodes ns hns)

end

lemma tags_leafSketch (h : Head) (l : Leaf) :
    (leafSketch values h l).tags = (leafSkeleton values h l).tags := by
  cases l with
  | text t => rfl
  | image i => rfl
  | svg s =>
    simp only [leafSketch, leafSkeleton, Sketch.tags, Skeleton.tags]
    split <;> split <;> rfl
  | shape s =>
    simp only [leafSketch, leafSkeleton, Sketch.tags]
    cases s.shape <;> rfl

mutual

/-- The tags of a node's sketch are those of its skeleton. -/
theorem tags_nodeSketch (n : Node) :
    tagsIn (nodeSketch values n) = skeletonTags (nodeSkeleton values n) := by
  match n with
  | .container h l cs =>
    rw [nodeSketch, nodeSkeleton]
    split
    · simp only [tagsIn, Sketch.tags, skeletonTags, Skeleton.tags, tags_nodeSketches cs]
    · rfl
  | .leaf h l =>
    rw [nodeSketch, nodeSkeleton]
    split
    · simp only [tagsIn, skeletonTags, tags_leafSketch]
    · rfl

theorem tags_nodeSketches (ns : List Node) :
    tagsIn (nodeSketches values ns) = skeletonTags (nodeSkeletons values ns) := by
  match ns with
  | [] => rfl
  | n :: ns =>
    rw [nodeSketches, nodeSkeletons, tagsIn_append, skeletonTags_append, tags_nodeSketch n,
      tags_nodeSketches ns]

end

end

end Document

namespace Schema

variable {s : Schema} {variant : Option String} {nodes : List Node}

lemma nodesFor_ids_nodup (h : s.nodesFor variant = .ok nodes) :
    ((Node.preorders nodes).map (·.id)).Nodup := by
  rw [map_nodesFor Variant.id_applyTo h]
  exact (Draft.fault?_eq_none.1 s.accepted).1.ids_nodup

/-- Rendered nodes have ids of their own. -/
lemma rendered_nodup (h : s.nodesFor variant = .ok nodes) :
    ((Node.renderedIn nodes).map (·.id)).Nodup :=
  (nodesFor_ids_nodup h).sublist ((Node.sublist_preorders nodes).map _)

end Schema

namespace Document

/-- What is told of some nodes and names them by their ids. -/
lemma sublist_map_filterMap {α β : Type} {f : Node → Option α} {name : α → β} {id : Node → β}
    (h : ∀ n a, f n = some a → name a = id n) (ns : List Node) :
    ((ns.filterMap f).map name).Sublist (ns.map id) := by
  induction ns with
  | nil => exact List.nil_sublist _
  | cons n ns ih =>
    cases hn : f n with
    | none =>
      rw [List.filterMap_cons_none hn]
      exact ih.cons _
    | some a =>
      rw [List.filterMap_cons_some hn, List.map_cons, List.map_cons, h n a hn]
      exact ih.cons_cons _

/-! ### Compiled documents -/

/-- The sketches of a body: those of the nodes, inside one element if they are placed
absolutely. -/
def bodySketches (version : Version) (ss : List Sketch) : List Sketch :=
  match version with
  | .flat => [.element "div" none "" ss]
  | .tree => ss

def bodyTags (version : Version) (ts : List Tags) : List Tags :=
  match version with
  | .flat => [.element "div" ts]
  | .tree => ts

lemma draws_body (s : Schema) {ms : List Markup} {ss : List Sketch} (h : Draws ms ss) :
    Draws (body s ms) (bodySketches s.version ss) := by
  unfold body bodySketches
  cases s.version with
  | flat =>
    exact h.element (by decide) (by decide) (Anonymous.identifies (by simp [plainNames]))
  | tree => exact h

lemma ids_bodySketches (version : Version) (ss : List Sketch) :
    idsIn (bodySketches version ss) = idsIn ss := by
  cases version with
  | flat => simp [bodySketches, idsIn, Sketch.ids]
  | tree => rfl

lemma mem_within_bodySketches {version : Version} {ss : List Sketch} {s : Sketch}
    (h : s ∈ withinAll ss) : s ∈ withinAll (bodySketches version ss) := by
  cases version with
  | flat => simpa [bodySketches, withinAll, Sketch.within] using .inr h
  | tree => exact h

lemma tags_bodySketches (version : Version) (ss : List Sketch) :
    tagsIn (bodySketches version ss) = bodyTags version (tagsIn ss) := by
  cases version with
  | flat => rfl
  | tree => rfl

variable {config : CompileConfig} {s : Schema} {r : FillRequest} {assets : AssetSource}
  {d : Document}

/-- The values for a request's nodes. -/
def valuesFor (r : FillRequest) (nodes : List Node) : Table Resolved :=
  (Resolution.ofNodes r.submission nodes).values

/-- The style sheet of the fonts of a document. -/
def fontsCss (config : CompileConfig) (assets : AssetSource) : String :=
  (fontRules assets config.fonts).1 ++ config.fontCss.getD ""

/-- A document holds a body that is read back with the sketches of its nodes. -/
lemma exists_body (hd : compile config s r assets = .ok d) :
    ∃ nodes body views, s.nodesFor r.variant = .ok nodes ∧
      d.html = page config.lang s.title (fontsCss config assets) s.canvas body ∧
      readMarkup body = some views ∧ dataOf views = [] ∧
      sketches views = bodySketches s.version (nodeSketches (valuesFor r nodes) nodes) := by
  obtain ⟨nodes, hnodes, hd⟩ := Except.bind_eq_ok_iff.1 hd
  obtain ⟨palette, -, hd⟩ := Except.bind_eq_ok_iff.1 hd
  obtain ⟨emitted, hemitted, hd⟩ := Except.bind_eq_ok_iff.1 hd
  have hdraws := draws_body s (draws_emitAll _ _ hemitted)
  refine ⟨nodes, writeAll (body s emitted.markup), allViews (body s emitted.markup), hnodes, ?_,
    readMarkup_writeAll hdraws.plain, hdraws.silent, hdraws.sketched⟩
  rw [← Except.ok.inj hd]
  rfl

lemma tags_bodySketches_nodes (version : Version) (values : Table Resolved)
    (nodes : List Node) : tagsIn (bodySketches version (nodeSketches values nodes)) =
      bodyTags version (skeletonTags (nodeSkeletons values nodes)) := by
  rw [tags_bodySketches, tags_nodeSketches]

/-- **The body shows the rendered nodes.** Cut at its angle brackets, the body of a compiled
document has properly nested tags. Its elements with an id are those of the rendered nodes in
pre-order, nested as the nodes are; each rendered text has the characters of its final content,
line by line; and the tags are those of a skeleton in which no data has a part, except for the
one `image` element of a clipped image that has an image or a value for one. -/
theorem body_shows_rendered (hd : compile config s r assets = .ok d) :
    ∃ nodes body views, s.nodesFor r.variant = .ok nodes ∧
      d.html = page config.lang s.title (fontsCss config assets) s.canvas body ∧
      readMarkup body = some views ∧ dataOf views = [] ∧
      sketches views = bodySketches s.version (nodeSketches (valuesFor r nodes) nodes) ∧
      idsIn (sketches views) = (Node.renderedIn nodes).map (·.id) ∧
      (idsIn (sketches views)).Nodup ∧
      (∀ h t, .leaf h (.text t) ∈ Node.renderedIn nodes →
        .element "div" (some h.id) (joinedLines (finalContent (valuesFor r nodes) h t)) [] ∈
          withinAll (sketches views)) ∧
      tagsIn (sketches views) =
        bodyTags s.version (skeletonTags (nodeSkeletons (valuesFor r nodes) nodes)) := by
  obtain ⟨nodes, body, views, hnodes, hhtml, hread, hsilent, hsketches⟩ := exists_body hd
  have hids : idsIn (sketches views) = (Node.renderedIn nodes).map (·.id) := by
    rw [hsketches, ids_bodySketches, ids_nodeSketches]
  have hnodup : (idsIn (sketches views)).Nodup := by
    rw [hids]
    exact Schema.rendered_nodup hnodes
  refine ⟨nodes, body, views, hnodes, hhtml, hread, hsilent, hsketches, hids, hnodup,
    fun h t ht => ?_, ?_⟩
  · rw [hsketches]
    exact mem_within_bodySketches (leafSketch_mem_nodes _ nodes ht)
  · rw [hsketches, tags_bodySketches_nodes]

/-- A request for the sample with a text of two lines and a bracket. -/
def twoLines : FillRequest where
  submission := { values := .ofList [("title", .string "a < b\r\nc")] }

theorem body_shows_rendered_sample :
    ∃ d, compile {} ⟨sample, sample_accepted⟩ twoLines (fun _ => none) = .ok d ∧
      ∃ body views, d.html = page "en" "" "" ⟨2, 1⟩ body ∧ readMarkup body = some views ∧
        idsIn (sketches views) = ["root", "title"] ∧
        .element "div" (some "title") "a < b\nc" [] ∈ withinAll (sketches views) := by
  obtain ⟨d, hd⟩ : ∃ d, compile {} ⟨sample, sample_accepted⟩ twoLines (fun _ => none) = .ok d :=
    ⟨_, rfl⟩
  obtain ⟨nodes, body, views, hnodes, hhtml, hread, -, -, hids, -, htext, -⟩ :=
    body_shows_rendered hd
  obtain rfl : sample.top = nodes := Except.ok.inj hnodes
  refine ⟨d, hd, body, views, hhtml, hread, hids, ?_⟩
  have hfinal : joinedLines (finalContent (valuesFor twoLines sample.top) { id := "title" }
      { content := "Title", binding := some ⟨"title", .text, none⟩ }) = "a < b\nc" := by
    decide +kernel
  rw [← hfinal]
  exact htext { id := "title" } _ (by simp [sample, Draft.top, Node.renderedIn, Node.rendered])

/-! ### An image that a value adds -/

/-- A clipped image without an image of its own, bound to a field. -/
def photoLeaf : SvgLeaf where
  width := 4
  height := 4
  viewBox := "0 0 4 4"
  binding := some ⟨"photo", .image, none⟩

def photoSchema : Schema :=
  ⟨{ id := "s", canvas := ⟨1, 1⟩, version := .flat,
     nodes := [.leaf { id := "photo" } (.svg photoLeaf)] }, by decide +kernel⟩

/-- A request with a value for the image. -/
def photoRequest (value : String) : FillRequest where
  submission := { values := .ofList [("photo", .string value)] }

/-- A value for a clipped image adds a tag: with a blank one the `svg` element is empty, with
another it holds an `image` element. -/
theorem photo_adds_tag :
    ∃ d d' body body' views views',
      compile {} photoSchema (photoRequest "") (fun _ => none) = .ok d ∧
      compile {} photoSchema (photoRequest "data:x") (fun _ => none) = .ok d' ∧
      d.html = page "en" "" "" ⟨1, 1⟩ body ∧ d'.html = page "en" "" "" ⟨1, 1⟩ body' ∧
      readMarkup body = some views ∧ readMarkup body' = some views' ∧
      tagsIn (sketches views) = [.element "div" [.element "svg" []]] ∧
      tagsIn (sketches views') =
        [.element "div" [.element "svg" [.element "image" []]]] := by
  obtain ⟨d, hd⟩ : ∃ d, compile {} photoSchema (photoRequest "") (fun _ => none) = .ok d :=
    ⟨_, rfl⟩
  obtain ⟨d', hd'⟩ : ∃ d, compile {} photoSchema (photoRequest "data:x") (fun _ => none) = .ok d :=
    ⟨_, rfl⟩
  obtain ⟨nodes, body, views, hnodes, hhtml, hread, -, hsketches⟩ := exists_body hd
  obtain ⟨nodes', body', views', hnodes', hhtml', hread', -, hsketches'⟩ := exists_body hd'
  obtain rfl : photoSchema.top = nodes := Except.ok.inj hnodes
  obtain rfl : photoSchema.top = nodes' := Except.ok.inj hnodes'
  have himage : hasImage (valuesFor (photoRequest "") photoSchema.top) { id := "photo" }
      photoLeaf = false := by decide +kernel
  have himage' : hasImage (valuesFor (photoRequest "data:x") photoSchema.top) { id := "photo" }
      photoLeaf = true := by decide +kernel
  have hskeletons (values : Table Resolved) : nodeSkeletons values photoSchema.top =
      [.svg false (hasImage values { id := "photo" } photoLeaf)] := rfl
  refine ⟨d, d', body, body', views, views', hd, hd', hhtml, hhtml', hread, hread', ?_, ?_⟩
  · rw [hsketches, tags_bodySketches_nodes, hskeletons, himage]
    rfl
  · rw [hsketches', tags_bodySketches_nodes, hskeletons, himage']
    rfl

end Document

end VisualTemplate
