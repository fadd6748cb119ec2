/-!
Masked pairs: exactly one shape and one image, in either order.

The shape is the outline that the image shows through. Which of the two stands first does not
matter.
-/

namespace VisualTemplate

/-- What a child may be to a masked pair. -/
inductive ChildRole where
  | shape
  | image
  | other
  deriving DecidableEq, Repr

/-- The shape and the image of a masked pair. -/
def maskedPair? {α : Type} (role : α → ChildRole) : List α → Option (α × α)
  | [a, b] =>
    match role a, role b with
    | .shape, .image => some (a, b)
    | .image, .shape => some (b, a)
    | _, _ => none
  | _ => none

theorem maskedPair?_swap {α : Type} (role : α → ChildRole) (a b : α) :
    maskedPair? role [a, b] = maskedPair? role [b, a] := by
  simp only [maskedPair?]
  cases role a <;> cases role b <;> rfl

end VisualTemplate
