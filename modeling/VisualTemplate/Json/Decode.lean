import VisualTemplate.Json.Source
import VisualTemplate.Table
/-!
Typed values out of a document.

A decoder looks at the source of a value and answers with a typed value or the first fault in
reading order. A value is either taken straight from the text, or from a part that has been read
whole before (`buffered`): then every fault left is one of shape.
-/

namespace VisualTemplate.Json

/-- Why a document does not hold what is asked for. -/
inductive Fault where
  /-- The text is no document, or it ends too early or too late. -/
  | malformed
  /-- The document has another shape. -/
  | misshapen
  /-- The shape is right and the content is refused for a reason of its own. -/
  | refused (reason : String)
  deriving DecidableEq, Repr, Inhabited

/-- Whether a value is taken from the text or from a part that has been read whole. -/
inductive Mode where
  | streamed
  | buffered
  deriving DecidableEq

def Decoder (α : Type) := Mode → Source → Except Fault α

/-- The fault of a value of the wrong kind: its own if it cannot be read at all. -/
def Source.mismatch : Source → Fault
  | .broken | .huge | .halved => .malformed
  | _ => .misshapen

mutual

/-- The text of a value that is passed over can be read. -/
def Source.passes : Source → Bool
  | .broken => false
  | .array _ items => itemsPass items
  | .object _ fields => fieldsPass fields
  | _ => true

def itemsPass : List Source → Bool
  | [] => true
  | s :: ss => s.passes && itemsPass ss

def fieldsPass : List (Option String × Source) → Bool
  | [] => true
  | (_, s) :: fs => s.passes && fieldsPass fs

end

mutual

/-- The value can be taken whole. -/
def Source.sound : Source → Bool
  | .broken | .huge | .halved => false
  | .array deep items => !deep && itemsSound items
  | .object deep fields => !deep && fieldsSound fields
  | _ => true

def itemsSound : List Source → Bool
  | [] => true
  | s :: ss => s.sound && itemsSound ss

def fieldsSound : List (Option String × Source) → Bool
  | [] => true
  | (k, s) :: fs => k.isSome && s.sound && fieldsSound fs

end

/-- Reads a part of the text whole. -/
def buffer (mode : Mode) (s : Source) : Except Fault Unit :=
  if mode = .streamed ∧ s.sound = false then .error .malformed else .ok ()

mutual

/-- The plain value of a source. In an object the last of several fields with one name counts, and
the names are in order. -/
def Source.value : Source → Value
  | .null => .null
  | .bool b => .bool b
  | .number n => .number n
  | .string s => .string s
  | .array _ items => .array (itemValues items)
  | .object _ fields => .object (Table.ofList (fieldValues fields)).entries
  | .broken | .huge | .halved => .null

def itemValues : List Source → List Value
  | [] => []
  | s :: ss => s.value :: itemValues ss

def fieldValues : List (Option String × Source) → List (String × Value)
  | [] => []
  | (k, s) :: fs => (k.getD "", s.value) :: fieldValues fs

end

namespace Decoder

variable {α β : Type}

def map (f : α → β) (d : Decoder α) : Decoder β := fun m s => (d m s).map f

/-- A decoder followed by a check of what it found. -/
def refine (d : Decoder α) (f : α → Except Fault β) : Decoder β := fun m s => do f (← d m s)

def string : Decoder String
  | _, .string s => .ok s
  | _, s => .error s.mismatch

def bool : Decoder Bool
  | _, .bool b => .ok b
  | _, s => .error s.mismatch

/-- A whole number below a bound. -/
def below (bound : Nat) : Decoder Nat
  | _, .number (.whole n) => if 0 ≤ n ∧ n < bound then .ok n.toNat else .error .misshapen
  | _, s => .error s.mismatch

/-- A single-precision number. -/
def single : Decoder Float32
  | _, .number n => .ok n.toSingle
  | _, s => .error s.mismatch

def value : Decoder Value := fun m s => do
  buffer m s
  .ok s.value

/-- A value or `null`. -/
def option (d : Decoder α) : Decoder (Option α)
  | _, .null => .ok none
  | m, s => (d m s).map some

/-- Enters a container. -/
def enter (mode : Mode) (deep : Bool) : Except Fault Unit :=
  if mode = .streamed ∧ deep then .error .malformed else .ok ()

def items (d : Decoder α) (mode : Mode) : List Source → Except Fault (List α)
  | [] => .ok []
  | s :: ss => do
    let a ← d mode s
    .ok (a :: (← items d mode ss))

def list (d : Decoder α) : Decoder (List α)
  | m, .array deep ss => do
    enter m deep
    items d m ss
  | _, s => .error s.mismatch

def entries (d : Decoder α) (mode : Mode) :
    List (Option String × Source) → Except Fault (List (String × α))
  | [] => .ok []
  | (none, _) :: _ => .error .malformed
  | (some k, s) :: fs => do
    let a ← d mode s
    .ok ((k, a) :: (← entries d mode fs))

/-- An object as a table; of several fields with one name the last counts. -/
def table (d : Decoder α) : Decoder (Table α)
  | m, .object deep fs => do
    enter m deep
    return .ofList (← entries d m fs)
  | _, s => .error s.mismatch

/-- One of several words, or another word if that is allowed. An object with the word as its only
name and `null` under it stands for the word. -/
def oneOf (words : List (String × α)) (other : Option α) : Decoder α := fun mode s =>
  let pick (w : String) : Except Fault α :=
    match words.lookup w, other with
    | some a, _ => .ok a
    | none, some a => .ok a
    | none, none => .error .misshapen
  match mode, s with
  | _, .string w => pick w
  | .streamed, .object true _ => .error .malformed
  | .streamed, .object false [] => .error .malformed
  | .streamed, .object false ((none, _) :: _) => .error .malformed
  | .streamed, .object false ((some w, s) :: rest) => do
    let a ← pick w
    match s with
    | .null => if rest.isEmpty then .ok a else .error .malformed
    | s => .error s.mismatch
  | .streamed, _ => .error .malformed
  | .buffered, .object _ [(some w, .null)] => pick w
  | .buffered, _ => .error .misshapen

/-- One of several words with a value: an object with the word as its only name. -/
def oneWith (words : List (String × Decoder α)) : Decoder α := fun mode s =>
  match mode, s with
  | _, .string _ => .error .misshapen
  | .streamed, .object true _ => .error .malformed
  | .streamed, .object false [] => .error .malformed
  | .streamed, .object false ((none, _) :: _) => .error .malformed
  | .streamed, .object false ((some w, s) :: rest) =>
    match words.lookup w with
    | none => .error .misshapen
    | some d => do
      let a ← d mode s
      if rest.isEmpty then .ok a else .error .malformed
  | .streamed, _ => .error .malformed
  | .buffered, .object _ [(some w, s)] =>
    match words.lookup w with
    | none => .error .misshapen
    | some d => d mode s
  | .buffered, _ => .error .misshapen

/-- The word of a tag, or its place among the words where the tag has been read before. -/
def tagOf (words : List (String × α)) : Decoder α
  | _, .string w =>
    match words.lookup w with
    | some a => .ok a
    | none => .error .misshapen
  | .buffered, .number (.whole n) =>
    if 0 ≤ n then
      match words[n.toNat]? with
      | some (_, a) => .ok a
      | none => .error .misshapen
    else .error .misshapen
  | _, s => .error s.mismatch

end Decoder

/-- A decoded part, or a fault and where it stands. -/
abbrev Found (α : Type) := Except (Nat × Fault) α

/-- Two parts together; of two faults the earlier. -/
def Found.both {α β : Type} (x : Found α) (y : Found β) : Found (α × β) :=
  match x, y with
  | .ok a, .ok b => .ok (a, b)
  | .error e, .ok _ => .error e
  | .ok _, .error e => .error e
  | .error e, .error f => .error (if f.1 < e.1 then f else e)

/-- A field of an object, where it stands. -/
structure Entry where
  place : Nat
  name : Option String
  source : Source

/-- The named parts of a record, and how each is read. A record is written as an object, or as an
array of its parts in the order of their declaration. -/
structure Record (α : Type) where
  names : List String
  fromObject : Mode → (size : Nat) → List Entry → Found α
  fromArray : Mode → List Source → Except Fault (α × List Source)

namespace Record

variable {α β : Type}

/-- A named part; without a default it must be there. -/
def part (name : String) (d : Decoder α) (default_ : Option α) : Record α where
  names := [name]
  fromObject mode size es :=
    match es.filter (·.name == some name), default_ with
    | [], some a => .ok a
    | [], none => .error (size, .misshapen)
    | [e], _ => (d mode e.source).mapError (e.place, ·)
    | e :: f :: _, _ =>
      match d mode e.source with
      | .ok _ => .error (f.place, .misshapen)
      | .error x => .error (e.place, x)
  fromArray mode ss :=
    match ss, default_ with
    | s :: ss, _ => (d mode s).map (·, ss)
    | [], some a => .ok (a, [])
    | [], none => .error .misshapen

def required (name : String) (d : Decoder α) : Record α := part name d none
def optional (name : String) (d : Decoder α) (default_ : α) : Record α := part name d (some default_)

/-- A part that may be missing or `null`. -/
def maybe (name : String) (d : Decoder α) : Record (Option α) := part name d.option (some none)

def pure (a : α) : Record α := ⟨[], fun _ _ _ => .ok a, fun _ ss => .ok (a, ss)⟩

def map (f : α → β) (r : Record α) : Record β where
  names := r.names
  fromObject mode size es := (r.fromObject mode size es).map f
  fromArray mode ss := (r.fromArray mode ss).map fun (a, ss) => (f a, ss)

def and (r : Record (α → β)) (q : Record α) : Record β where
  names := r.names ++ q.names
  fromObject mode size es :=
    ((r.fromObject mode size es).both (q.fromObject mode size es)).map fun (f, a) => f a
  fromArray mode ss := do
    let (f, ss) ← r.fromArray mode ss
    let (a, ss) ← q.fromArray mode ss
    .ok (f a, ss)

instance : Functor Record := ⟨map, fun a => map (fun _ => a)⟩
instance : Seq Record := ⟨fun r q => and r (q ())⟩

end Record

def number : Nat → List (Option String × Source) → List Entry
  | _, [] => []
  | n, (k, s) :: fs => ⟨n, k, s⟩ :: number (n + 1) fs

/-- The first fault among the fields that a record does not name: they are passed over, or taken
whole when `keep`. -/
def othersFault (names : List String) (mode : Mode) (keep : Bool) (es : List Entry) : Found Unit :=
  let faulty (e : Entry) : Bool :=
    match e.name with
    | none => true
    | some k => !names.contains k && !(if keep then e.source.sound else e.source.passes)
  match mode, es.find? faulty with
  | .streamed, some e => .error (e.place, .malformed)
  | _, _ => .ok ()

def Record.ofFields {α : Type} (r : Record α) (mode : Mode) (keep : Bool) (es : List Entry) :
    Except Fault α :=
  match (othersFault r.names mode keep es).both (r.fromObject mode es.length es) with
  | .ok (_, a) => .ok a
  | .error (_, e) => .error e

def Record.ofItems {α : Type} (r : Record α) (mode : Mode) (ss : List Source) : Except Fault α := do
  match ← r.fromArray mode ss with
  | (a, []) => .ok a
  | (_, _ :: _) => .error (if mode = .streamed then .malformed else .misshapen)

namespace Decoder

variable {α β ι : Type}

/-- A record as an object or an array. -/
def record (r : Record α) : Decoder α
  | m, .object deep fs => do
    enter m deep
    r.ofFields m false (number 0 fs)
  | m, .array deep ss => do
    enter m deep
    r.ofItems m ss
  | _, s => .error s.mismatch

/-- An object with some named fields of its own; the others are read whole and then decoded
together. -/
def flattened (r : Record α) (rest : List (Option String × Source) → Except Fault β) :
    Decoder (α × β)
  | m, .object deep fs => do
    enter m deep
    let es := number 0 fs
    let a ← r.ofFields m true es
    let others := es.filter fun e => match e.name with
      | some k => !r.names.contains k
      | none => false
    .ok (a, ← rest (others.map fun e => (e.name, e.source)))
  | _, s => .error s.mismatch

/-- The fields of an object told apart by a tag among them; all are in buffered mode. -/
def taggedFields (tag : String) (words : List (String × Decoder α))
    (fs : List (Option String × Source)) : Except Fault α :=
  match fs.filter (·.1 == some tag) with
  | [(_, t)] => do
    let d ← tagOf words .buffered t
    d .buffered (.object false (fs.filter (·.1 != some tag)))
  | _ => .error .misshapen

/-- A value told apart by a tag among its fields, or by the first item of an array. -/
def tagged (tag : String) (words : List (String × Decoder α)) : Decoder α := fun mode s =>
  match mode, s with
  | .streamed, .object deep fs => do
    enter mode deep
    let es := number 0 fs
    let d ← (Record.required tag (tagOf words)).ofFields mode true es
    d .buffered (.object false (fs.filter (·.1 != some tag)))
  | .buffered, .object _ fs => taggedFields tag words fs
  | _, .array deep (t :: ss) => do
    enter mode deep
    let d ← tagOf words mode t
    buffer mode (.array false ss)
    d .buffered (.array false ss)
  | _, .array deep [] => do
    enter mode deep
    .error .misshapen
  | _, s => .error s.mismatch

/-- The value of a whole text. -/
def ofText (d : Decoder α) (text : String) : Except Fault α := do
  let (s, complete) := Source.ofText text
  let a ← d .streamed s
  if complete then .ok a else .error .malformed

end Decoder

end VisualTemplate.Json
