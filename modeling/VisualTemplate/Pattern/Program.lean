import VisualTemplate.Engine
import VisualTemplate.Pattern.Syntax
/-!
Regular expressions as programs, and runs of them over a text.

A run keeps the list of places in the program where a match can stand, the preferred one first. Of
the matches that start first it finds the one that the order of alternatives and the greed of
repetitions prefer.
-/

namespace VisualTemplate.Pattern

open Text

/-- One instruction. Jumps are relative to it. -/
inductive Instruction where
  | set (s : CharSet)
  | place (p : Place)
  | jump (by_ : Int)
  /-- Two ways to go on, the preferred one first. -/
  | fork (first second : Int)
  | accept

abbrev Program := Array Instruction

/-- A pattern that takes more memory is refused: ten mebibytes. -/
def memoryLimit : Nat := 10485760

/-- The expression can match nothing at all. -/
def Regex.nullable : Regex → Bool
  | .empty => true
  | .set _ => false
  | .place _ => true
  | .both r s => r.nullable && s.nullable
  | .either r s => r.nullable || s.nullable
  | .repeated least _ _ r => least == 0 || r.nullable

/-- The memory that a set of characters takes, in bytes. Ranges beyond ASCII are spelled out in
several bytes each. -/
def setMemory (s : CharSet) : Nat := 32 + 64 * s.countP fun (_, b) => 0x80 ≤ b

/-- The memory that an expression takes, in bytes, with every repetition written out. -/
def Regex.memory : Regex → Nat
  | .empty => 0
  | .set s => setMemory s
  | .place _ => 32
  | .both r s => r.memory + s.memory
  | .either r s => r.memory + s.memory + 32
  | .repeated least most _ r =>
    r.memory * max 1 (max least (most.getD 0)) + 32 * (most.getD (least + 1) - least)

def fork (greedy : Bool) (go leave : Int) : Instruction :=
  if greedy then .fork go leave else .fork leave go

/-- A part so many times in a row. -/
def times (code : List Instruction) (n : Nat) : List Instruction :=
  (List.replicate n code).flatten

/-- A part so many times at most, each time only after the one before; `k` more times may follow
a time, and all of them are left at once. -/
def upTo (greedy : Bool) (code : List Instruction) (n : Nat) : List Instruction :=
  let length := code.length
  (List.range n).reverse.flatMap fun (k : Nat) =>
    fork greedy 1 ((length + k * (length + 1) + 1 : Nat) : Int) :: code

/-- A part once or more. -/
def onceOrMore (greedy : Bool) (code : List Instruction) : List Instruction :=
  code ++ [fork greedy (-(code.length : Int)) 1]

/-- A part any number of times. A part that can match nothing is tried once before it is
repeated. -/
def anyTimes (greedy nullable : Bool) (code : List Instruction) : List Instruction :=
  if nullable then
    let inner := onceOrMore greedy code
    fork greedy 1 (inner.length + 1) :: inner
  else fork greedy 1 (code.length + 2) :: code ++ [.jump (-(code.length + 1 : Int))]

def Regex.code : Regex → List Instruction
  | .empty => []
  | .set s => [.set s]
  | .place p => [.place p]
  | .both r s => r.code ++ s.code
  | .either r s =>
    let a := r.code
    let b := s.code
    .fork 1 (a.length + 2) :: a ++ .jump (b.length + 1) :: b
  | .repeated least most greedy r =>
    let c := r.code
    match least, most with
    | n, some m => times c n ++ upTo greedy c (m - n)
    | 0, none => anyTimes greedy r.nullable c
    | n + 1, none => times c n ++ onceOrMore greedy c

def Regex.program (r : Regex) : Program := (r.code ++ [Instruction.accept]).toArray

/-- What stands before and behind a place. -/
structure Around where
  before : Option Char
  behind : Option Char

def isWord (unicode : Bool) (c : Option Char) : Bool :=
  match c with
  | none => false
  | some c => (if unicode then wordChars else asciiWord).mem c

def Place.holds (p : Place) (a : Around) : Bool :=
  match p with
  | .textStart => a.before.isNone
  | .textEnd => a.behind.isNone
  | .lineStart => a.before.isNone || a.before == some '\n'
  | .lineEnd => a.behind.isNone || a.behind == some '\n'
  | .crlfLineStart =>
    a.before.isNone || a.before == some '\n' ||
      (a.before == some '\r' && a.behind != some '\n')
  | .crlfLineEnd =>
    a.behind.isNone || a.behind == some '\r' ||
      (a.behind == some '\n' && a.before != some '\r')
  | .word u => isWord u a.before != isWord u a.behind
  | .notWord u => isWord u a.before == isWord u a.behind
  | .wordStart u => !isWord u a.before && isWord u a.behind
  | .wordEnd u => isWord u a.before && !isWord u a.behind
  | .wordStartHalf u => !isWord u a.before
  | .wordEndHalf u => !isWord u a.behind

/-- A place in the program and where its match starts. -/
structure Thread where
  at_ : Nat
  start : Nat

/-- Threads that wait for a character, last first, and the places that have been reached. -/
structure Reached where
  threads : List Thread := []
  seen : Array Bool

/-- Follows jumps, forks and places from a stack of threads. -/
def follow (prog : Program) (a : Around) : Nat → List Thread → Reached → Reached
  | 0, _, st => st
  | _, [], st => st
  | n + 1, t :: ts, st =>
    if st.seen.getD t.at_ true then follow prog a n ts st
    else
      let st := { st with seen := st.seen.setIfInBounds t.at_ true }
      let go (d : Int) : Thread := ⟨(t.at_ + d).toNat, t.start⟩
      match prog[t.at_]? with
      | none => follow prog a n ts st
      | some (.jump d) => follow prog a n (go d :: ts) st
      | some (.fork d e) => follow prog a n (go d :: go e :: ts) st
      | some (.place p) => follow prog a n (if p.holds a then go 1 :: ts else ts) st
      | some (.set _) | some .accept => follow prog a n ts { st with threads := t :: st.threads }

/-- The threads that go on behind a character, up to the first that accepts before it, and the
start of that one. -/
def advance (prog : Program) (c : Option Char) : List Thread → List Thread × Option Nat
  | [] => ([], none)
  | t :: ts =>
    match prog[t.at_]? with
    | some .accept => ([], some t.start)
    | some (.set s) =>
      let (more, found) := advance prog c ts
      match c with
      | some c => if s.mem c then (⟨t.at_ + 1, t.start⟩ :: more, found) else (more, found)
      | none => (more, found)
    | _ => advance prog c ts

/-- Runs a program from a place on; the best match so far is a start and an end. -/
def run (prog : Program) (before : Option Char) (pos : Nat) (threads : List Thread)
    (best : Option (Nat × Nat)) (cs : List Char) : Option (Nat × Nat) :=
  let threads := if best.isSome then threads else threads ++ [⟨0, pos⟩]
  if threads.isEmpty then best
  else
    let a : Around := ⟨before, cs.head?⟩
    let fuel := 3 * prog.size + threads.length + 1
    let reached := follow prog a fuel threads { seen := .replicate prog.size false }
    let (next, found) := advance prog cs.head? reached.threads.reverse
    let best := (found.map (·, pos)).or best
    match cs with
    | [] => best
    | c :: cs => run prog (some c) (pos + 1) next best cs

/-- The start and the end of the first match in a text. -/
def Program.find? (prog : Program) (cs : List Char) : Option (Nat × Nat) :=
  run prog none 0 [] none cs

end VisualTemplate.Pattern

namespace VisualTemplate

/-- A pattern that texts are searched for. -/
structure Pattern where
  program : Pattern.Program

namespace Pattern

/-- The pattern that a text writes. -/
def ofText? (s : String) : Option Pattern := do
  let r ← Regex.ofText? s
  if memoryLimit < r.memory then none else some ⟨r.program⟩

/-- What stands before, in and behind the first match. -/
def split? (p : Pattern) (cs : List Char) : Option (List Char × List Char × List Char) :=
  (p.program.find? cs).map fun (i, j) =>
    (cs.take i, (cs.drop i).take (j - i), (cs.drop i).drop (j - i))

theorem append_of_split? {p : Pattern} {cs front found back : List Char}
    (h : p.split? cs = some (front, found, back)) : cs = front ++ found ++ back := by
  obtain ⟨⟨i, j⟩, -, heq⟩ := Option.map_eq_some_iff.1 h
  obtain ⟨rfl, rfl, rfl⟩ : cs.take i = front ∧ (cs.drop i).take (j - i) = found ∧
      (cs.drop i).drop (j - i) = back := by
    simpa only [Prod.mk.injEq] using heq
  rw [List.append_assoc, List.take_append_drop, List.take_append_drop]

/-- Programs are run with these expressions. -/
instance : Engine where
  finder? text := (ofText? text).map fun p => ⟨p.split?, append_of_split?⟩

end Pattern

end VisualTemplate
