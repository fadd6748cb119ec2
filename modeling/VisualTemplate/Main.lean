import VisualTemplate.Command
/-!
The command line.
-/

open VisualTemplate

namespace VisualTemplate.Command

def usage : String :=
  "Usage: import-design --input PATH --id ID --out PATH [--config PATH] [--assets-out PATH]
       import-markup --input PATH --id ID --out PATH [--config PATH]
       validate --schema PATH
       compile --schema PATH --data PATH --out PATH [--variant ID] [--token NAME=VALUE]...
               [--assets PATH]... [--config PATH]"

def version : String := "rftemplate 0.1.0"

/-- What a question about the program is answered with. -/
def told : List String → String
  | a :: _ => if a = "--version" || (a.after? "-V").isSome then version else usage
  | [] => usage

/-- Why the system refused. -/
def faultOf : IO.Error → FileFault
  | .noFileOrDirectory .. => .missing
  | .alreadyExists .. => .occupied
  | .inappropriateType _ 20 _ => .notFolder
  | .inappropriateType .. => .isFolder
  | e => .other (toString e)

/-- Tries to do something with a file. -/
def attempt {α : Type} (act : IO α) : IO (Except FileFault α) := do
  match ← act.toBaseIO with
  | .ok a => return .ok a
  | .error e => return .error (faultOf e)

/-- Carries out actions until one fails. -/
def carryOut : List Action → IO (Option Failure)
  | [] => return none
  | .warn text :: rest => do
    IO.eprintln text
    carryOut rest
  | .say text :: rest => do
    IO.println text
    carryOut rest
  | .write path text :: rest => do
    let folder := Path.folder path
    unless folder.isEmpty do
      if let .error f ← attempt (IO.FS.createDirAll folder) then
        return some ((Step.makeFolder folder).fault f)
    match ← attempt (IO.FS.writeFile path text) with
    | .error f => return some ((Step.write path).fault f)
    | .ok () => carryOut rest

def readAll : List String → IO (List (String × Except FileFault String))
  | [] => return []
  | path :: rest => do
    let content := match ← attempt (IO.FS.readBinFile path) with
      | .ok bytes => (String.fromUTF8? bytes).elim (.error .notText) .ok
      | .error f => .error f
    return (path, content) :: (← readAll rest)

/-- Carries out a command on the files of the system. -/
def execute (c : Command) : IO UInt32 := do
  let contents ← readAll c.inputs
  let read : Reader := fun path => (contents.lookup path).getD (.error .missing)
  let failure ← match c.actions read with
    | .ok as => carryOut as
    | .error f => pure (some f)
  match failure with
  | none => return 0
  | some f =>
    IO.eprintln s!"Error: {f.message}"
    if let some cause := f.cause? then IO.eprintln s!"\nCaused by:\n    {cause}"
    return 1

end VisualTemplate.Command

def main (arguments : List String) : IO UInt32 := do
  match Command.ofArguments arguments with
  | .ok c => c.execute
  | .error refusal =>
    let tell : String → IO Unit := match refusal with
      | .help => IO.println
      | .misuse => IO.eprintln
    tell (Command.told arguments)
    return refusal.exitCode.toUInt32
