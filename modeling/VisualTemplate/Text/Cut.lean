/-!
Cutting texts: at a character, around a given piece, into lines.
-/

namespace VisualTemplate.Text

/-- What stands before and after the first character of a class. -/
def cutAt (p : Char → Bool) : List Char → Option (List Char × List Char)
  | [] => none
  | c :: cs =>
    if p c then some ([], cs) else (cutAt p cs).map fun (front, back) => (c :: front, back)

theorem length_of_cutAt {p : Char → Bool} {cs front back : List Char}
    (h : cutAt p cs = some (front, back)) : front.length + back.length + 1 = cs.length := by
  induction cs generalizing front with
  | nil => simp [cutAt] at h
  | cons c cs ih =>
    rw [cutAt] at h
    split at h
    · obtain ⟨rfl, rfl⟩ := Prod.mk.injEq .. ▸ Option.some.injEq .. ▸ h
      simp
    · obtain ⟨⟨f, b⟩, hf, e⟩ := Option.map_eq_some_iff.1 h
      obtain ⟨rfl, rfl⟩ := Prod.mk.injEq .. ▸ e
      have := ih hf
      simp only [List.length_cons]
      omega

/-- What follows a given beginning. -/
def after? : List Char → List Char → Option (List Char)
  | [], cs => some cs
  | _ :: _, [] => none
  | x :: xs, c :: cs => if x = c then after? xs cs else none

/-- What precedes a given ending. -/
def before? (ending cs : List Char) : Option (List Char) :=
  (after? ending.reverse cs.reverse).map List.reverse

/-- A text without an ending, with so many of them taken away at most. -/
def dropEndingTimes (ending : List Char) : Nat → List Char → List Char
  | 0, cs => cs
  | n + 1, cs =>
    match before? ending cs with
    | some front => dropEndingTimes ending n front
    | none => cs

/-- A text without the given ending, however often it stands there. -/
def dropEndings (ending cs : List Char) : List Char := dropEndingTimes ending cs.length cs

/-- What stands before and after the first occurrence of a piece. -/
def cutAround (piece : List Char) : List Char → Option (List Char × List Char)
  | [] => (after? piece []).map ([], ·)
  | c :: cs =>
    match after? piece (c :: cs) with
    | some rest => some ([], rest)
    | none => (cutAround piece cs).map fun (front, back) => (c :: front, back)

theorem append_of_after? {xs cs rest : List Char} (h : after? xs cs = some rest) :
    cs = xs ++ rest := by
  induction xs generalizing cs with
  | nil => simp_all [after?]
  | cons x xs ih =>
    cases cs with
    | nil => simp [after?] at h
    | cons c cs =>
      rw [after?] at h
      split at h
      · next e => subst e; simp [ih h]
      · simp at h

theorem after?_append (xs rest : List Char) : after? xs (xs ++ rest) = some rest := by
  induction xs with
  | nil => rfl
  | cons x xs ih => simp [after?, ih]

theorem length_of_after? {xs cs rest : List Char} (h : after? xs cs = some rest) :
    cs.length = xs.length + rest.length := by
  rw [append_of_after? h, List.length_append]

theorem before?_append (xs ending : List Char) : before? ending (xs ++ ending) = some xs := by
  rw [before?, List.reverse_append, after?_append, Option.map_some, List.reverse_reverse]

theorem append_of_before? {ending cs front : List Char} (h : before? ending cs = some front) :
    cs = front ++ ending := by
  obtain ⟨back, hback, rfl⟩ := Option.map_eq_some_iff.1 h
  rw [← List.reverse_reverse cs, append_of_after? hback, List.reverse_append,
    List.reverse_reverse]

theorem length_of_before? {ending cs front : List Char} (h : before? ending cs = some front) :
    cs.length = front.length + ending.length := by
  rw [append_of_before? h, List.length_append]

theorem append_of_cutAround {piece cs front back : List Char}
    (h : cutAround piece cs = some (front, back)) : cs = front ++ piece ++ back := by
  induction cs generalizing front with
  | nil =>
    simp only [cutAround, Option.map_eq_some_iff, Prod.mk.injEq] at h
    obtain ⟨r, hr, rfl, rfl⟩ := h
    simpa using append_of_after? hr
  | cons c cs ih =>
    rw [cutAround] at h
    split at h
    · next rest hr =>
      obtain ⟨rfl, rfl⟩ := Prod.mk.injEq .. ▸ Option.some.injEq .. ▸ h
      simpa using append_of_after? hr
    · obtain ⟨⟨f, b⟩, hf, e⟩ := Option.map_eq_some_iff.1 h
      obtain ⟨rfl, rfl⟩ := Prod.mk.injEq .. ▸ e
      simp [ih hf]

/-- The piece occurs in the text. -/
def occurs (piece cs : List Char) : Bool := (cutAround piece cs).isSome

/-- The text with the first occurrence of a piece replaced. -/
def replaceFirst (piece by_ cs : List Char) : List Char :=
  match cutAround piece cs with
  | some (front, back) => front ++ by_ ++ back
  | none => cs

/-- A text without a last return. -/
def dropReturn (cs : List Char) : List Char := (before? ['\r'] cs).getD cs

/-- The lines of a text. A line ends at a line feed or at a return with a line feed; an empty
last line does not count, and a return at the very end stays. -/
def lines (cs : List Char) : List (List Char) :=
  let parts := (cs.splitOn '\n').reverse
  match parts with
  | [] => []
  | last :: front =>
    let front := (front.map dropReturn).reverse
    if last.isEmpty then front else front ++ [last]

end VisualTemplate.Text

namespace String

open VisualTemplate

/-- The piece occurs in the text. -/
def hasPiece (s piece : String) : Bool := Text.occurs piece.toList s.toList

/-- What follows a given beginning. -/
def after? (s start : String) : Option String := (Text.after? start.toList s.toList).map ofList

/-- What precedes a given ending. -/
def before? (s ending : String) : Option String := (Text.before? ending.toList s.toList).map ofList

/-- What stands before and after the first occurrence of a character. -/
def cutAt (s : String) (c : Char) : Option (String × String) :=
  (Text.cutAt (· == c) s.toList).map fun (a, b) => (ofList a, ofList b)

/-- A capital letter of ASCII as a small one, all else as it is. -/
def lowerAscii (s : String) : String := ofList (s.toList.map Char.toLower)

/-- Equality up to the case of ASCII letters. -/
def sameIgnoringCase (s t : String) : Bool := s.lowerAscii == t.lowerAscii

end String
