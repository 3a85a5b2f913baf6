/-!
# Searching a text

Beginnings, first, last and all occurrences, and replacing one character. All of them read the text
as a list of characters, from the left.
-/

namespace DeclaredTriggers.Text

/-- What follows `lead` in a text that begins with it. -/
def strip? : List Char → List Char → Option (List Char)
  | [], s => some s
  | _ :: _, [] => none
  | p :: lead, c :: s => if p = c then strip? lead s else none

/-- Whether a text begins with `lead`. -/
def begins (lead s : List Char) : Bool := (strip? lead s).isSome

/-- Whether a text ends with `tail`. -/
def ends (tail s : List Char) : Bool := begins tail.reverse s.reverse

/-- What stands before and after the first place where `sep` occurs. -/
def splitFirst? (sep : List Char) : List Char → Option (List Char × List Char)
  | [] => (strip? sep []).map ([], ·)
  | c :: s =>
    match strip? sep (c :: s) with
    | some rest => some ([], rest)
    | none => (splitFirst? sep s).map fun (before, rest) => (c :: before, rest)

/-- What stands before and after the last place where `sep` occurs. -/
def splitLast? (sep : List Char) : List Char → Option (List Char × List Char)
  | [] => (strip? sep []).map ([], ·)
  | c :: s =>
    match splitLast? sep s with
    | some (before, rest) => some (c :: before, rest)
    | none => (strip? sep (c :: s)).map ([], ·)

/-- The parts of a text between the places where a character stands, at least one. -/
def splitAll (sep : Char) : List Char → List (List Char)
  | [] => [[]]
  | c :: s =>
    if c = sep then [] :: splitAll sep s
    else
      match splitAll sep s with
      | [] => [[c]]
      | part :: parts => (c :: part) :: parts

/-- Whether `part` occurs in a text. -/
def occurs (part s : List Char) : Bool := (splitFirst? part s).isSome

/-- A text with every `c` replaced by `by'`. -/
def replaced (c : Char) (by' : List Char) (s : List Char) : List Char :=
  s.flatMap fun d => if d = c then by' else [d]

/-- Whether `part` occurs in a text. -/
def includes (s part : String) : Bool := occurs part.toList s.toList

/-- A text with every single quote written twice. -/
def quotesDoubled (s : String) : String :=
  String.ofList (replaced '\'' ['\'', '\''] s.toList)

/-- A lead that is taken off stood there. -/
theorem eq_append_of_strip? {lead s rest : List Char} (h : strip? lead s = some rest) :
    s = lead ++ rest := by
  induction lead generalizing s with
  | nil => simpa [strip?] using h
  | cons p lead ih =>
    cases s with
    | nil => simp [strip?] at h
    | cons c s =>
      simp only [strip?] at h
      split at h
      next hpc => rw [hpc, ih h, List.cons_append]
      next => simp at h

@[simp] theorem strip?_append (lead rest : List Char) : strip? lead (lead ++ rest) = some rest := by
  induction lead with
  | nil => rfl
  | cons p lead ih => simp [strip?, ih]

/-- Splitting loses nothing. -/
theorem eq_of_splitFirst? {sep s before rest : List Char}
    (h : splitFirst? sep s = some (before, rest)) : s = before ++ sep ++ rest := by
  induction s generalizing before with
  | nil =>
    obtain ⟨r, hr, he⟩ := Option.map_eq_some_iff.1 h
    cases he
    simpa using eq_append_of_strip? hr
  | cons c s ih =>
    simp only [splitFirst?] at h
    split at h
    next r hr => cases h; simpa using eq_append_of_strip? hr
    next =>
      obtain ⟨⟨b, r⟩, hr, he⟩ := Option.map_eq_some_iff.1 h
      cases he
      simp [ih hr]

end DeclaredTriggers.Text
