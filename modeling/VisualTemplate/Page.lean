import VisualTemplate.Html
import VisualTemplate.Import
import VisualTemplate.Page.Nodes
import VisualTemplate.Selector
/-!
Imports of pages as layout schemas.

The root is the first element with the size of the canvas. Variants are declared by selectors over
the whole page, of which those count that became nodes.
-/

namespace VisualTemplate.Page

open Html

/-- The element's style gives it the size of a canvas. -/
def hasSize (canvas : Canvas) (e : Element) : Bool :=
  match e.plain? "style" with
  | none => false
  | some style =>
    let style := InlineStyle.ofText style
    style.px? "width" == some canvas.width.toFloat32
      && style.px? "height" == some canvas.height.toFloat32

def root? (canvas : Canvas) (d : Html.Document) : Option Place :=
  d.inOrder.find? fun p => hasSize canvas p.element

/-- The text of the first title. -/
def title? (d : Html.Document) : Option String :=
  (d.inOrder.find? fun p => p.tag == "title").bind fun p =>
    let text := ("".intercalate (Dom.textsIn p.children)).trimmed
    if text.isEmpty then none else some text

/-- The overrides of the nodes that a selector chooses. -/
def overridesOf (d : Html.Document) (made : List (Nat × List String)) (operation : Visibility)
    (s : Selector) : List Override :=
  (d.inOrder.filter s.chooses).flatMap fun p =>
    ((made.lookup p.element.serial).getD []).map fun id => ⟨id, operation⟩

/-- The overrides of a variant, and the selectors among them that choose no node. -/
def overrides (d : Html.Document) (made : List (Nat × List String)) :
    List SelectorOverride → Except Error (List Override × List Diagnostic)
  | [] => .ok ([], [])
  | o :: os =>
    match Selector.ofText? o.selector with
    | none => .error (.invalidSelector o.selector)
    | some selector => do
      let found := overridesOf d made o.operation selector
      let (more, ds) ← overrides d made os
      let unmatched : List Diagnostic :=
        if found.isEmpty then [⟨.unmatchedVariantSelector, o.selector, none⟩] else []
      .ok (found ++ more, unmatched ++ ds)

def variants (d : Html.Document) (made : List (Nat × List String)) :
    List VariantRule → Except Error (List Variant × List Diagnostic)
  | [] => .ok ([], [])
  | r :: rs => do
    let (os, ds) ← overrides d made r.overrides
    let (more, ds') ← variants d made rs
    .ok (⟨r.id, r.name, os⟩ :: more, ds ++ ds')

end VisualTemplate.Page

namespace VisualTemplate

open Page

/-- Imports a page as a layout schema. -/
def Html.Document.toImport [Engine] (config : MarkupConfig) (schemaId : String)
    (d : Html.Document) : Except Error Import :=
  match root? config.canvas d with
  | none => .error (.importing (.noRootElement config.canvas))
  | some root => do
    let inference ← Inference.ofConfig config
    let (frame, s) := Page.frame config { inference := inference } root
    let (variants, unmatched) ← Page.variants d s.made config.variants
    let schema ← Draft.build
      { id := schemaId
        title := (config.title.or (title? d)).getD schemaId
        canvas := config.canvas
        version := .tree
        root := some frame
        tokens := config.tokens
        variants }
    .ok { schema, diagnostics := s.diagnostics ++ unmatched }

end VisualTemplate
