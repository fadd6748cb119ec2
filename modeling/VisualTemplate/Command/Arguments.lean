import VisualTemplate.Text.Blank
import VisualTemplate.Text.Cut
/-!
Arguments of a command line as options with values.

An option is written as `--name value` or as `--name=value`. A value that stands alone does not
begin with a dash, unless it is the dash itself.
-/

namespace VisualTemplate.Command

/-- What an option allows. -/
structure OptionKind where
  name : String
  isRequired : Bool := false
  repeats : Bool := false
  accepts : String → Bool := fun _ => true

/-- Why a command line is not carried out. -/
inductive Refusal where
  /-- It is not written as it should be. -/
  | misuse
  /-- It asks about the program: how it is used, or which version it is. -/
  | help
  deriving DecidableEq, Repr

/-- A question is answered, which is no failure. -/
def Refusal.exitCode : Refusal → Nat
  | misuse => 2
  | help => 0

/-- The options that were given, the last one first. -/
abbrev Given := List (String × String)

namespace Given

def value? (g : Given) (name : String) : Option String := g.lookup name

/-- All values of an option in order. -/
def values (g : Given) (name : String) : List String :=
  (g.reverse.filter (·.1 == name)).map (·.2)

def has (g : Given) (name : String) : Bool := g.any (·.1 == name)

/-- The options with one more. -/
def add (g : Given) (k : OptionKind) (value : String) : Except Refusal Given :=
  if (!k.repeats && g.has k.name) || !k.accepts value then .error .misuse
  else .ok ((k.name, value) :: g)

end Given

/-- A value that can stand behind the name of its option. -/
def standsAlone (s : String) : Bool := s == "-" || (s.after? "-").isNone

/-- What one argument is by itself. -/
inductive Item where
  | name (k : OptionKind)
  | pair (k : OptionKind) (value : String)
  /-- Nothing but values follows, and no command takes any. -/
  | finish
  | refused (r : Refusal)

def itemOf (kinds : List OptionKind) (argument : String) : Item :=
  match argument.after? "--" with
  | none => .refused (if (argument.after? "-h").isSome then .help else .misuse)
  | some "" => .finish
  | some option =>
    match option.cutAt '=' with
    | some (name, value) =>
      match kinds.find? (·.name == name) with
      | some k => .pair k value
      | none => .refused .misuse
    | none =>
      match kinds.find? (·.name == option) with
      | some k => .name k
      | none => .refused (if option = "help" then .help else .misuse)

/-- Reads the arguments of a command behind some that were read. -/
def readGiven (kinds : List OptionKind) (g : Given) : List String → Except Refusal Given
  | [] => .ok g
  | a :: rest =>
    match itemOf kinds a with
    | .pair k value => do readGiven kinds (← g.add k value) rest
    | .name k =>
      match rest with
      | value :: rest =>
        if standsAlone value then do readGiven kinds (← g.add k value) rest else .error .misuse
      | [] => .error .misuse
    | .finish => if rest.isEmpty then .ok g else .error .misuse
    | .refused r => .error r

/-- The options of a command, all that are required among them. -/
def given (kinds : List OptionKind) (arguments : List String) : Except Refusal Given := do
  let g ← readGiven kinds [] arguments
  if kinds.all fun k => !k.isRequired || g.has k.name then .ok g else .error .misuse

end VisualTemplate.Command
