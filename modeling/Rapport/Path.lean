import Rapport.Text.Split

set_option autoImplicit false

/-! # Paths of files

A path is a text of steps between slashes. A step of two dots goes back to the directory above; a
step of one dot, or of nothing, stays. `normal` takes these steps by the text alone, without a look
at what there is. `follow?` takes them through the directories that there are, and gets nowhere
where a step leaves something that is no directory. -/

namespace Rapport.Path

/-- Where a path leads to from the root, as the names of directories and of what they hold. -/
abbrev Steps : Type := List (List Char)

/-- Take one step. -/
def step (place : Steps) (name : List Char) : Steps :=
  if name = [] ∨ name = ['.'] then place
  else if name = ['.', '.'] then place.dropLast
  else place ++ [name]

/-- A path to a place. -/
def ofSteps (place : Steps) : List Char := place.flatMap ('/' :: ·)

/-- Whether a path begins at the root. -/
def isAbsolute (path : List Char) : Bool := path.head? == some '/'

/-- A path from the root, in its shortest form. Any other path stays as it is. -/
def normal (path : List Char) : List Char :=
  if isAbsolute path then ofSteps ((Text.split '/' path).foldl step []) else path

/-- Take steps through directories. -/
def followFrom? (isDirectory : List Char → Bool) (place : Steps) : Steps → Option Steps
  | [] => some place
  | name :: rest =>
    if isDirectory (ofSteps place ++ ['/']) then followFrom? isDirectory (step place name) rest
    else none

/-- Where a path leads to through the directories that there are, which are named with a slash at
    the end. -/
def follow? (isDirectory : List Char → Bool) (path : List Char) : Option (List Char) :=
  if isAbsolute path then
    (followFrom? isDirectory [] (Text.split '/' path)).map ofSteps
  else none

/-- The name of what a path leads to: what stands behind the last slash. -/
def name (path : List Char) : List Char := (path.reverse.takeWhile (· ≠ '/')).reverse

/-- The directory of what a path leads to: the path up to the last slash. -/
def directory (path : List Char) : List Char := (path.reverse.dropWhile (· ≠ '/')).reverse

theorem directory_append_name (path : List Char) : directory path ++ name path = path := by
  rw [directory, name, ← List.reverse_append, List.takeWhile_append_dropWhile,
    List.reverse_reverse]

end Rapport.Path
