import Rapport.Sql.Identifier
import Rapport.Sql.Schema
import Rapport.Sql.Table

set_option autoImplicit false

/-! # Databases

A database holds tables and their indexes. Tables and indexes share one space of names, in which
the case of `A` to `Z` does not count, and names that begin like the database's own are refused.
Creating a table is done in steps that stay done: where an index cannot be created the table is
there all the same.

A table is looked for under its exact name, and then worked with as statements write that name,
which need not be the same. The tables that are always there are found too, but nothing can be done
with them. -/

namespace Rapport.Sql

/-- A table as it was created. -/
structure Stored where
  name : String
  rows : Rows := .empty
deriving DecidableEq

/-- The tables and indexes of a database, each under its folded name. -/
structure Database where
  tables : Keyed String Stored := .empty
  /-- The names of the indexes, as they were created. -/
  indexes : Keyed String String := .empty
deriving DecidableEq

namespace Database

open Identifier

/-- Whether a table of a name has been created. -/
def hasTable (db : Database) (name : String) : Bool := db.tables.contains (fold name)

/-- Whether a table or an index has a name. -/
def isTaken (db : Database) (name : String) : Bool :=
  db.hasTable name || db.indexes.contains (fold name)

/-- Create indexes one after the other, up to the first that cannot be created. Tells whether all
    could be. -/
def createIndexes (db : Database) : List Index → Database × Bool
  | [] => (db, true)
  | index :: rest =>
    if db.isTaken index.name || !isShortEnough index.name then (db, false)
    else createIndexes { db with indexes := db.indexes.insert (fold index.name) index.name } rest

/-- Whether a table can be created where none of its name is found. -/
def canCreate (db : Database) (schema : Schema) : Bool :=
  isShortEnough schema.keyName && standing schema.name != .refused
    && !isReserved (denoted schema.name) && !db.isTaken (denoted schema.name)

/-- Create a table with its indexes, unless a table of its name is found. Tells whether the table is
    taken to be ready now. -/
def create (db : Database) (schema : Schema) : Database × Bool :=
  if db.hasTable schema.name then (db, true)
  else if isUnaskable schema.name then (db, false)
  else if isBuiltIn schema.name then (db, true)
  else if db.canCreate schema then
    let table := denoted schema.name
    createIndexes { db with tables := db.tables.insert (fold table) ⟨table, .empty⟩ } schema.indexes
  else (db, false)

/-- The rows of a table. -/
def rows? (db : Database) (table : String) : Option Rows :=
  (db.tables.find? (fold table)).map (·.rows)

/-- Put other rows into a table. -/
def setRows (db : Database) (table : String) (rows : Rows) : Database :=
  { db with tables := db.tables.map fun k stored =>
      if k = fold table then { stored with rows } else stored }

/-- Run the transaction of a task on the rows of the table that statements mean by a name. Where it
    is refused the rows stay as they were. -/
def transact {α : Type} (db : Database) (task : Task) (name : String)
    (f : Rows → Except Refusal (Rows × α)) : Except Refusal (Database × α) :=
  match db.rows? (denoted name) with
  | none => .error .refused
  | some rows =>
    if (standing name).allows task then
      match f rows with
      | .ok (rows, a) => .ok (db.setRows (denoted name) rows, a)
      | .error e => .error e
    else .error .refused

/-- What a name of a database stands for. -/
inductive ObjectKind
  | table
  | index
deriving DecidableEq, Repr

/-- The word for a kind of object. -/
def ObjectKind.word : ObjectKind → String
  | table => "table"
  | index => "index"

/-- All tables and indexes, ascending by name. -/
def objects (db : Database) : List (String × ObjectKind) :=
  (db.tables.values.map (fun t => (t.name, ObjectKind.table))
    ++ db.indexes.values.map (fun name => (name, ObjectKind.index))).mergeSort
      fun x y => decide (x.1 ≤ y.1)

end Database

end Rapport.Sql
