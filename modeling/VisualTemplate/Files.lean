import VisualTemplate.Text.Blank
import VisualTemplate.Text.Utf8
/-!
Files below a working folder.

A path is followed name by name, and whatever has a name behind it must be a folder. What is tried
with a path may fail for the places of the files, and the system may refuse it for reasons of its
own. Nothing is undone then: folders that were made stay, and so does what was written of a file.
-/

namespace VisualTemplate

/-- Why a file or a folder cannot be read or made. -/
inductive FileFault where
  | missing
  | occupied
  | notFolder
  | isFolder
  | notText
  | other (reason : String)
  deriving DecidableEq, Repr

def FileFault.text : FileFault → String
  | missing => "No such file or directory (os error 2)"
  | occupied => "File exists (os error 17)"
  | notFolder => "Not a directory (os error 20)"
  | isFolder => "Is a directory (os error 21)"
  | notText => "stream did not contain valid UTF-8"
  | other reason => reason

/-- The names from a place up to the working folder, the innermost first. Places outside of the
working folder end in `..` or `/`. -/
abbrev Location := List String

namespace Location

/-- The folder around a place. -/
def up : Location → Location
  | [] => [".."]
  | "/" :: _ => ["/"]
  | ".." :: l => ".." :: ".." :: l
  | _ :: l => l

/-- The working folder, a folder around it, or the outermost folder. -/
def isOuter (l : Location) : Bool := l == ["/"] || l.all (· == "..")

/-- The path of a place below the working folder. -/
def text (l : Location) : String := "/".intercalate l.reverse

end Location

namespace Path

/-- The names of a path. An empty one stands before a slash at the start. -/
def names (path : String) : List String :=
  (path.toList.splitOn '/').map .ofList

/-- The names without those at the end that add nothing. The first name always counts. -/
def trim (ns : List String) : List String :=
  match ns with
  | [] => []
  | n :: ns => n :: (ns.reverse.dropWhile fun m => m == "" || m == ".").reverse

/-- The path of the folder that a path names something in; no text for the working folder. -/
def folder (path : String) : String :=
  match trim (trim (names path)).dropLast with
  | [""] => "/"
  | ns => "/".intercalate ns

end Path

/-- The bytes of all files, and the folders that were made. A folder that holds a file need not have
been made. -/
structure Files where
  stored : List (Location × List UInt8) := []
  folders : List Location := []
  deriving DecidableEq, Repr

namespace Files

def ofList (named : List (String × String)) : Files :=
  { stored := named.map fun (path, text) => ((Path.names path).reverse, Text.utf8 text) }

def bytes? (fs : Files) (l : Location) : Option (List UInt8) := fs.stored.lookup l

def hasFile (fs : Files) (l : Location) : Bool := (fs.bytes? l).isSome

/-- The text of a file, if that is what it holds. -/
def content? (fs : Files) (l : Location) : Option String := (fs.bytes? l).bind Text.ofUtf8?

/-- The files that hold texts. -/
def contents (fs : Files) : List (Location × String) :=
  fs.stored.filterMap fun (l, bytes) => (Text.ofUtf8? bytes).map (l, ·)

def hasFolder (fs : Files) (l : Location) : Bool :=
  l.isOuter || fs.folders.contains l || fs.stored.any fun f => l.isSuffixOf f.1 && l != f.1

/-- The place that a name stands for in a folder. -/
def step (fs : Files) (l : Location) (name : String) : Except FileFault Location :=
  if fs.hasFolder l then
    .ok (if name = "" ∨ name = "." then l else if name = ".." then l.up else name :: l)
  else .error (if fs.hasFile l then .notFolder else .missing)

def follow (fs : Files) (l : Location) : List String → Except FileFault Location
  | [] => .ok l
  | name :: names => do follow fs (← fs.step l name) names

/-- The place at the end of some names. A slash at the start is the outermost folder. -/
def locate (fs : Files) : List String → Except FileFault Location
  | "" :: name :: names => fs.follow ["/"] (name :: names)
  | names => fs.follow [] names

def isFolder (fs : Files) (path : String) : Bool :=
  match fs.locate (Path.names path) with
  | .ok l => fs.hasFolder l
  | .error _ => false

def read (fs : Files) (path : String) : Except FileFault String := do
  let l ← fs.locate (Path.names path)
  match fs.content? l with
  | some text => .ok text
  | none =>
    .error (if fs.hasFile l then .notText else if fs.hasFolder l then .isFolder else .missing)

/-- Where a path makes something new: a folder, and a name in it if the path ends in one. -/
def target (fs : Files) (path : String) : Except FileFault (Location × Option String) := do
  let names := Path.names path
  let front := names.reverse.dropWhile (· == "")
  let l ← fs.locate ((front.drop 1).reverse ++ ["."])
  match front with
  | [] => .ok (l, none)
  | last :: _ =>
    .ok (l, if last = "." ∨ last = ".." ∨ names.getLast? = some "" then none else some last)

def put (fs : Files) (l : Location) (bytes : List UInt8) : Files :=
  { fs with stored := (l, bytes) :: fs.stored.filter (·.1 != l) }

end Files

/-- What is tried with a path. -/
inductive Access where
  | read
  | makeFolder
  | create
  deriving DecidableEq, Repr

/-- What a system refuses besides what the places of files tell, be it for want of rights or of
space. -/
structure System where
  /-- Why nothing is done with a path. -/
  refuses : Files → Access → String → Option FileFault := fun _ _ _ => none
  /-- After how many bytes the writing of a file is broken off, and why. -/
  breaksOff : Files → String → Option (Nat × FileFault) := fun _ _ => none

namespace Files

/-- Tries something with a path unless the system refuses it. -/
def attempt {α : Type} (sys : System) (fs : Files) (access : Access) (path : String)
    (act : Except FileFault α) : Except FileFault α :=
  match sys.refuses fs access path with
  | some f => .error f
  | none => act

/-- The place of the file that a path opens for writing, be it there or not. -/
def place (fs : Files) (path : String) : Except FileFault Location := do
  let (l, name?) ← fs.target path
  match name? with
  | none => .error .isFolder
  | some name => if fs.hasFolder (name :: l) then .error .isFolder else .ok (name :: l)

/-- Makes a file or empties it, and writes a text to it. If the system breaks that off, what was
written by then stays. -/
def write (sys : System) (fs : Files) (path text : String) : Files × Option FileFault :=
  match fs.attempt sys .create path (fs.place path) with
  | .error f => (fs, some f)
  | .ok l =>
    let bytes := Text.utf8 text
    match sys.breaksOff fs path with
    | some (n, f) =>
      if n < bytes.length then (fs.put l (bytes.take n), some f) else (fs.put l bytes, none)
    | none => (fs.put l bytes, none)

/-- Makes a folder. -/
def makeFolder (fs : Files) (path : String) : Except FileFault Files := do
  let (l, name?) ← fs.target path
  match name? with
  | none => .error .occupied
  | some name =>
    if fs.hasFolder (name :: l) || fs.hasFile (name :: l) then .error .occupied
    else .ok { fs with folders := (name :: l) :: fs.folders }

/-- Makes a folder if it is not there. -/
def ensureFolder (sys : System) (fs : Files) (path : String) : Files × Option FileFault :=
  match fs.attempt sys .makeFolder path (fs.makeFolder path) with
  | .ok fs => (fs, none)
  | .error f => (fs, if fs.isFolder path then none else some f)

/-- Makes a folder and those around it, so many at most. -/
def ensureWithin (sys : System) : Nat → Files → String → Files × Option FileFault
  | 0, fs, _ => (fs, none)
  | n + 1, fs, path =>
    if path.isEmpty then (fs, none)
    else match fs.ensureFolder sys path with
      | (_, some .missing) =>
        match ensureWithin sys n fs (Path.folder path) with
        | (fs, none) => fs.ensureFolder sys path
        | broken => broken
      | result => result

/-- Makes a folder and those around it. -/
def ensureFolders (sys : System) (fs : Files) (path : String) : Files × Option FileFault :=
  ensureWithin sys (path.length + 1) fs path

end Files

end VisualTemplate
