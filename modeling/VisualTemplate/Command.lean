import VisualTemplate.Command.Arguments
import VisualTemplate.Design
import VisualTemplate.Design.Wire
import VisualTemplate.Document
import VisualTemplate.Files
import VisualTemplate.Page
import VisualTemplate.Pattern.Program
import VisualTemplate.Schema.Wire
/-!
Commands over files.

A command reads all its files before it writes any. What it does with the files that it read is a
list of actions, which are carried out in order until one fails.
-/

namespace VisualTemplate

structure ImportOptions where
  input : String
  id : String
  config : Option String
  out : String
  deriving DecidableEq, Repr

structure CompileOptions where
  schema : String
  data : String
  variant : Option String
  tokens : List (String × String)
  assets : List String
  config : Option String
  out : String
  deriving DecidableEq, Repr

inductive Command where
  | importDesign (o : ImportOptions) (assetsOut : Option String)
  | importMarkup (o : ImportOptions)
  | validate (schema : String)
  | compile (o : CompileOptions)
  deriving DecidableEq, Repr

namespace Command

/-! ### Arguments -/

/-- The name and the value of a token, given as `name=value`. -/
def token? (text : String) : Option (String × String) :=
  match text.cutAt '=' with
  | some (name, value) => if name.isBlank then none else some (name.trimmed, value.trimmed)
  | none => none

def pathOption (name : String) (isRequired : Bool := false) (repeats : Bool := false) :
    OptionKind :=
  { name, isRequired, repeats, accepts := (!·.isEmpty) }

def importKinds : List OptionKind :=
  [pathOption "input" true, { name := "id", isRequired := true }, pathOption "config",
    pathOption "out" true]

def compileKinds : List OptionKind :=
  [pathOption "schema" true, pathOption "data" true, { name := "variant" },
    { name := "token", repeats := true, accepts := fun s => (token? s).isSome },
    pathOption "assets" false true, pathOption "config", pathOption "out" true]

def importOptions (g : Given) : ImportOptions where
  input := (g.value? "input").getD ""
  id := (g.value? "id").getD ""
  config := g.value? "config"
  out := (g.value? "out").getD ""

def compileOptions (g : Given) : CompileOptions where
  schema := (g.value? "schema").getD ""
  data := (g.value? "data").getD ""
  variant := g.value? "variant"
  tokens := (g.values "token").filterMap token?
  assets := g.values "assets"
  config := g.value? "config"
  out := (g.value? "out").getD ""

/-- The names of the commands, with that of the help on them. -/
def topics : List String := ["import-design", "import-markup", "validate", "compile", "help"]

/-- An argument in front of all that asks about the program. -/
def asks (argument : String) : Bool :=
  argument = "--help" || argument = "--version" || (argument.after? "-h").isSome ||
    (argument.after? "-V").isSome

/-- The command that a command line asks for. -/
def ofArguments : List String → Except Refusal Command
  | "import-design" :: rest => do
    let g ← given (pathOption "assets-out" :: importKinds) rest
    .ok (.importDesign (importOptions g) (g.value? "assets-out"))
  | "import-markup" :: rest => do .ok (.importMarkup (importOptions (← given importKinds rest)))
  | "validate" :: rest => do
    let g ← given [pathOption "schema" true] rest
    .ok (.validate ((g.value? "schema").getD ""))
  | "compile" :: rest => do .ok (.compile (compileOptions (← given compileKinds rest)))
  | ["help"] => .error .help
  | ["help", topic] => .error (if topics.contains topic then .help else .misuse)
  | a :: _ => .error (if asks a then .help else .misuse)
  | [] => .error .misuse

/-! ### Failures -/

/-- What a command was about to do. -/
inductive Step where
  | read (path : String)
  | makeFolder (path : String)
  | write (path : String)
  | parseExport
  | parseSubmission
  | parseAssets (path : String)
  | import_ (path : String)
  | load (path : String)
  deriving DecidableEq, Repr

def Step.text : Step → String
  | read path => s!"read '{path}'"
  | makeFolder path => s!"create output dir '{path}'"
  | write path => s!"write '{path}'"
  | parseExport => "parse design export JSON"
  | parseSubmission => "parse submission JSON"
  | parseAssets path => s!"parse asset bundle '{path}'"
  | import_ path => s!"import '{path}'"
  | load path => s!"load schema '{path}'"

inductive Reason where
  | file (f : FileFault)
  | error (e : Error)
  deriving DecidableEq

def Reason.text : Reason → String
  | file f => f.text
  | error e => e.message

/-- Why a command ended early, and in which step if that tells more. -/
structure Failure where
  step : Option Step
  reason : Reason
  deriving DecidableEq

def Failure.message (f : Failure) : String :=
  match f.step with
  | some s => s.text
  | none => f.reason.text

/-- What is told besides the message. -/
def Failure.cause? (f : Failure) : Option String := f.step.map fun _ => f.reason.text

/-- An error without a step. -/
def plainly {α : Type} (r : Except Error α) : Except Failure α :=
  r.mapError fun e => ⟨none, .error e⟩

def during {α : Type} (s : Step) (r : Except Error α) : Except Failure α :=
  r.mapError fun e => ⟨some s, .error e⟩

/-- A fault of a file. -/
def Step.fault (s : Step) (f : FileFault) : Failure := ⟨some s, .file f⟩

/-! ### Actions -/

inductive Action where
  | warn (text : String)
  | write (path text : String)
  | say (text : String)
  deriving DecidableEq, Repr

/-- Reads a file by its path. -/
abbrev Reader := String → Except FileFault String

def Reader.file (read : Reader) (path : String) : Except Failure String :=
  (read path).mapError (Step.read path).fault

def Reader.config (read : Reader) : Option String → Except Failure Config
  | none => .ok {}
  | some path =>
    match read path with
    | .ok text => plainly (Config.decoder.parse text)
    | .error f => plainly (.error (.config (.unreadable path f.text)))

def Reader.schema (read : Reader) (path : String) : Except Failure Schema := do
  during (.load path) (Schema.ofText (← read.file path))

/-- The assets of several bundles, of which the later ones count. -/
def Reader.assets (read : Reader) (known : Assets) : List String → Except Failure Assets
  | [] => .ok known
  | path :: paths => do
    let more ← during (.parseAssets path) (Assets.decoder.parse (← read.file path))
    read.assets (known.union more) paths

def warning (d : Diagnostic) : Action :=
  .warn (match d.nodeId with
    | some node => s!"warning: {d.text} (node {node})"
    | none => s!"warning: {d.text}")

/-- Warns of what was found and writes the schema. -/
def saveImport (i : Import) (out : String) : List Action :=
  let s := i.schema
  i.diagnostics.map warning
    ++ [.write out s.toText,
      .say s!"{s.id}: {s.preorder.length} nodes, {s.bindings.length} bindings, {s.variants.length} variants"]

variable [Engine]

/-- What a command does once it has read its files. -/
def actions (read : Reader) : Command → Except Failure (List Action)
  | .importDesign o assetsOut => do
    let config ← read.config o.config
    let e ← during .parseExport (Design.Export.decoder.parse (← read.file o.input))
    let i ← during (.import_ o.input) (e.toImport config.design o.id)
    .ok (saveImport i o.out ++ assetsOut.toList.map fun path => .write path i.assets.toValue.pretty)
  | .importMarkup o => do
    let config ← read.config o.config
    let text ← read.file o.input
    let i ← during (.import_ o.input) ((Html.Document.ofText text).toImport config.markup o.id)
    .ok (saveImport i o.out)
  | .validate path => do
    let s ← read.schema path
    .ok [.say s!"{s.id}: valid version-{s.version.number} schema, canvas {s.canvas.text}, {s.preorder.length} nodes"]
  | .compile o => do
    let config ← read.config o.config
    let s ← read.schema o.schema
    let assets ← read.assets .empty o.assets
    let submission ← during .parseSubmission (Submission.decoder.parse (← read.file o.data))
    let request : FillRequest := ⟨submission, o.variant, .ofList o.tokens⟩
    let d ← plainly (Document.compile config.compile s request assets.get?)
    .ok (d.diagnostics.map warning
      ++ [.write o.out d.html, .say s!"{o.out} {d.width}x{d.height} sha256:{d.digest}"])

/-- The files that a command may read. -/
def inputs : Command → List String
  | .importDesign o _ | .importMarkup o => o.config.toList ++ [o.input]
  | .validate path => [path]
  | .compile o => o.config.toList ++ [o.schema] ++ o.assets ++ [o.data]

/-! ### Runs -/

/-- What a system reads of some files. -/
def Reader.ofFiles (sys : System) (fs : Files) : Reader := fun path =>
  fs.attempt sys .read path (fs.read path)

/-- Writes a file, and makes the folders around it first. -/
def save (sys : System) (fs : Files) (path text : String) : Files × Option Failure :=
  let folder := Path.folder path
  match fs.ensureFolders sys folder with
  | (fs, some f) => (fs, some ((Step.makeFolder folder).fault f))
  | (fs, none) =>
    let (fs, fault) := fs.write sys path text
    (fs, fault.map (Step.write path).fault)

/-- The files, and what has been said and warned of, in order. -/
structure Outcome where
  files : Files
  said : List String := []
  warned : List String := []
  failure : Option Failure := none

/-- Carries out actions until one fails. -/
def perform (sys : System) (fs : Files) : List Action → Outcome
  | [] => { files := fs }
  | .warn text :: rest =>
    let r := perform sys fs rest
    { r with warned := text :: r.warned }
  | .say text :: rest =>
    let r := perform sys fs rest
    { r with said := text :: r.said }
  | .write path text :: rest =>
    match save sys fs path text with
    | (fs, none) => perform sys fs rest
    | (fs, some f) => { files := fs, failure := some f }

/-- Carries out a command. -/
def run (fs : Files) (c : Command) (sys : System := {}) : Outcome :=
  match c.actions (.ofFiles sys fs) with
  | .ok as => perform sys fs as
  | .error f => { files := fs, failure := some f }

end Command

end VisualTemplate
