import VisualTemplate.Asset
import VisualTemplate.Diagnostic
import VisualTemplate.Schema
/-!
The result of an import: a schema with the assets that came with it.
-/

namespace VisualTemplate

structure Import where
  schema : Schema
  assets : Assets := .empty
  diagnostics : List Diagnostic := []

end VisualTemplate
