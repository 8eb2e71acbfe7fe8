import Rapport.Path
import Rapport.Text.Percent
import Rapport.Text.Split

set_option autoImplicit false

/-! # Places of databases

Where a database is: in a file, in memory, or on a server. A file is named by its path, or in the
form

    file://localhost/path?mode=ro

with percent escapes, where nothing but the path is needed. The mode tells what may be done to the
file; one of its values asks for memory in the place of a file. -/

namespace Rapport.Sql

open Rapport.Text

/-- What may be done to a file. -/
structure Access where
  /-- It may be made where it is not there. -/
  creates : Bool := true
  /-- It may be written to. -/
  writes : Bool := true
deriving DecidableEq, Repr

/-- Where a database is. -/
inductive Location
  /-- In a file. -/
  | file (path : String) (access : Access)
  /-- In the memory of the engine. -/
  | memory
  /-- On a server. -/
  | server
  /-- Nowhere: what the name of the file asks for cannot be done. -/
  | nowhere
deriving DecidableEq, Repr

namespace Location

/-- Whether a database may be written to. -/
def isWritable : Location → Bool
  | file _ access => access.writes
  | memory | server | nowhere => true

/-- The name that stands for memory in place of a file. -/
def memoryName : List Char := ":memory:".toList

/-- The place that a plain name names. Without a name a database is in memory, where there is
    nothing to read but what has been written. -/
def ofName (name : List Char) (access : Access) : Location :=
  if name.isEmpty || name == memoryName then if access.writes then .memory else .nowhere
  else .file (String.ofList (Path.normal name)) access

/-- A text without its escapes, up to a character of code zero. -/
def unescape (cs : List Char) : List Char := (Percent.decode cs).takeWhile (· ≠ '\x00')

/-- The options behind the path of a file, with their values. -/
def options (query : List Char) : List (String × String) :=
  (split '&' query).filterMap fun part =>
    let (name, value) := (splitFirst? '=' part).getD (part, [])
    if name.isEmpty then none
    else some (String.ofList (unescape name), String.ofList (unescape value))

/-- What the modes stand for. One is memory in the place of a file. -/
def modes : List (String × Option Access) :=
  [("ro", some ⟨false, false⟩), ("rw", some ⟨false, true⟩), ("rwc", some ⟨true, true⟩),
    ("memory", none)]

/-- Take an option into account. -/
def refine (path : List Char) (l : Location) (option : String × String) : Location :=
  match l with
  | .nowhere => .nowhere
  | l =>
    match option with
    | ("mode", mode) =>
      match modes.lookup mode with
      | some (some access) => ofName path access
      | some none => .memory
      | none => .nowhere
    | ("cache", cache) => if cache = "shared" ∨ cache = "private" then l else .nowhere
    | ("vfs", system) =>
      if ["unix", "unix-none", "unix-dotfile", "unix-excl"].contains system then l else .nowhere
    | _ => l

/-- The path in the long form of a name, behind the computer that it may be on: this one. -/
def localPath? (cs : List Char) : Option (List Char) :=
  match cs with
  | '/' :: '/' :: rest =>
    let host := rest.takeWhile (· ≠ '/')
    if host.isEmpty || host == "localhost".toList then some (rest.dropWhile (· ≠ '/')) else none
  | _ => some cs

/-- The place that a name in its long form names; any other name is a plain one. -/
def ofLongName (name : List Char) : Location :=
  let start := "file:".toList
  if start.isPrefixOf name then
    match localPath? ((name.drop start.length).takeWhile (· ≠ '#')) with
    | none => .nowhere
    | some cs =>
      let (path, query) := (splitFirst? '?' cs).getD (cs, [])
      let path := unescape path
      (options query).foldl (refine path) (ofName path {})
  else ofName name {}

end Location

end Rapport.Sql
