/-!
Numbered node ids.

One count of 32 bits runs through all kinds of nodes, so the ids of one import differ from each
other, as long as the count does not run over, and do not depend on anything but the order in which
they are asked for.
-/

namespace VisualTemplate

/-- The number of the last id that was given out. -/
structure NodeIds where
  last : UInt32 := 0
  deriving DecidableEq, Repr

namespace NodeIds

/-- How many ids have been given out. -/
def allocated (ids : NodeIds) : Nat := ids.last.toNat

/-- The next id for a kind of node. -/
def next (ids : NodeIds) (kind : String) : String × NodeIds :=
  let last := ids.last + 1
  (kind ++ "-" ++ toString last.toNat, ⟨last⟩)

/-- One id for each kind, in order. -/
def nextAll (ids : NodeIds) : List String → List String × NodeIds
  | [] => ([], ids)
  | k :: ks =>
    let (id, ids) := ids.next k
    let (more, ids) := ids.nextAll ks
    (id :: more, ids)

end NodeIds

end VisualTemplate
