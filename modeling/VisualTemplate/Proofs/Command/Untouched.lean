import VisualTemplate.Command
import VisualTemplate.Proofs.Files
/-!
What a command that fails does to the files.

A command reads all its files before it writes the first one, and what it writes is its list of
saves: none for a check, one for a document or a page, and the schema with the bundle of its assets
for a design. A run ends at the first save that fails, and nothing is undone then. So a command that
fails has changed no file, but for the schema of a design whose bundle could not be saved, and the
one file whose writing was broken off.
-/

namespace VisualTemplate.Command

open Json

variable {sys : System} {fs gs : Files} {path text : String}

/-! ### Saves -/

/-- The path and the text of an action that writes a file. -/
def Action.save? : Action → Option (String × String)
  | .write path text => some (path, text)
  | _ => none

/-- The writing of a text was broken off. The file holds the beginning that was written by then, and
no other file has changed. -/
def BrokenOff (sys : System) (fs gs : Files) (path text : String) : Prop :=
  ∃ made n f, fs.Kept made ∧ sys.breaksOff made path = some (n, f) ∧
    n < (Text.utf8 text).length ∧ fs.Written gs path ((Text.utf8 text).take n)

/-- The import of a design from the files. -/
def importedDesign (read : Reader) (o : ImportOptions) : Except Failure Import := do
  let config ← read.config o.config
  let e ← during .parseExport (Design.Export.decoder.parse (← read.file o.input))
  during (.import_ o.input) (e.toImport config.design o.id)

/-- Where a command puts what it makes. -/
def out? : Command → Option String
  | importDesign o _ | importMarkup o => some o.out
  | validate _ => none
  | compile o => some o.out

section Actions

variable [Engine] {c : Command} {as : List Action}

/-- What is left of the files by a command that fails. -/
inductive Leaves (sys : System) (fs gs : Files) (c : Command) : Prop
  /-- There was nothing to save yet. -/
  | unready (f : Failure) (h : c.actions (.ofFiles sys fs) = .error f) (hgs : gs = fs)
  /-- The file for what was made could not be opened. -/
  | unopened (as : List Action) (h : c.actions (.ofFiles sys fs) = .ok as) (hgs : fs.Kept gs)
  /-- What was made could not be written whole. -/
  | brokenOff (as : List Action) (h : c.actions (.ofFiles sys fs) = .ok as) (path text : String)
      (hout : c.out? = some path) (hsaves : (as.filterMap Action.save?).head? = some (path, text))
      (hgs : BrokenOff sys fs gs path text)
  /-- The schema has been saved, and the file for the assets could not be opened. -/
  | unbundled (o : ImportOptions) (path : String) (hc : c = .importDesign o (some path))
      (i : Import) (hi : importedDesign (.ofFiles sys fs) o = .ok i)
      (hgs : fs.Written gs o.out (Text.utf8 i.schema.toText))
  /-- The schema has been saved, and the assets could not be written whole. -/
  | halfBundled (o : ImportOptions) (path : String) (hc : c = .importDesign o (some path))
      (i : Import) (hi : importedDesign (.ofFiles sys fs) o = .ok i) (made : Files)
      (hmade : fs.Written made o.out (Text.utf8 i.schema.toText))
      (hgs : BrokenOff sys made gs path i.assets.toValue.pretty)

end Actions

/-! ### Saves that fail -/

end VisualTemplate.Command
