set_option autoImplicit false

/-! # Splitting

A text is split at every occurrence of a character, or at the first one. Split at every occurrence,
it falls into one part more than it has occurrences, none of which contains the character. -/

namespace Rapport.Text

/-- The parts of a text between the occurrences of `c`. -/
def split (c : Char) : List Char → List (List Char)
  | [] => [[]]
  | d :: rest =>
    if d = c then [] :: split c rest
    else
      match split c rest with
      | part :: parts => (d :: part) :: parts
      | [] => [[d]]

/-- What stands before the first occurrence of `c`, and what after it. -/
def splitFirst? (c : Char) (cs : List Char) : Option (List Char × List Char) :=
  match cs.dropWhile (· ≠ c) with
  | [] => none
  | _ :: after => some (cs.takeWhile (· ≠ c), after)

/-- What stands before the last occurrence of `c`, and what after it. -/
def splitLast? (c : Char) (cs : List Char) : Option (List Char × List Char) :=
  (splitFirst? c cs.reverse).map fun (after, before) => (before.reverse, after.reverse)

theorem length_split (c : Char) (cs : List Char) : (split c cs).length = cs.count c + 1 := by
  induction cs with
  | nil => simp [split]
  | cons d rest ih =>
    by_cases h : d = c
    · simp [split, h, ih]
    · rw [List.count_cons_of_ne h, ← ih]
      cases hs : split c rest with
      | nil => simp [hs] at ih
      | cons part parts => simp [split, h, hs]

end Rapport.Text
