import Rapport.Graph.Basic
import Rapport.Sql.Database
import Rapport.Sql.Engine

set_option autoImplicit false

/-! # Graphs in a database

The contact graph of an account in an edge table. The table is created by the first operation that
needs it, and from then on known to be ready. Each operation is one transaction: where the database
refuses a statement, nothing of it is kept. -/

namespace Rapport

/-- How a backend lays out its edge tables. -/
structure Layout where
  partition : Partition := .account
  /-- What the name of every table begins with. -/
  stem : String := "contacts"
deriving DecidableEq, Repr

/-- The name of the edge table of an account. -/
def Layout.tableOf (l : Layout) (account : String) : String :=
  Sql.tableFor l.partition l.stem account

/-- A database as one backend sees it. -/
structure Connection where
  /-- What every attempt to connect meets. -/
  obstacle : Option Sql.Obstacle := none
  /-- The database, if it can be reached. -/
  database : Option Sql.Database := some {}
  /-- Whether the database may be written to. -/
  isWritable : Bool := true
  /-- The tables that are known to be ready. -/
  ready : List String := []
deriving DecidableEq

namespace Connection

/-- Make sure that an edge table is there. -/
def ensureTable (table : String) : Action Connection Unit := do
  let connection ← Action.state
  if connection.ready.contains table then return ()
  match connection.obstacle with
  | some o => throw (.unreachable o)
  | none => pure ()
  match connection.database with
  | none => throw (.tableUnavailable table)
  | some db =>
    if table = "" then throw .tableUnnamed
    let (db, usable) := if connection.isWritable then db.create (Sql.edgeTable table)
      else (db, db.hasTable table || Sql.Identifier.isBuiltIn table)
    Action.update ({ · with database := some db })
    if usable then
      Action.update fun c => { c with ready := c.ready ++ [table] }
      Action.note (.tableReady table)
    else throw (.tableUnavailable table)

/-- Whether a task writes to the database. -/
def writes : Task → Bool
  | .reinforce | .remove _ => true
  | .query | .read => false

/-- Run the transaction of a task on the rows of an edge table. -/
def transact {α : Type} (task : Task) (account table : String)
    (f : Sql.Rows → Except Sql.Refusal (Sql.Rows × α)) : Action Connection α := do
  ensureTable table
  let connection ← Action.state
  match connection.database with
  | none => throw (.statementRefused task account)
  | some db =>
    match db.transact task table f with
    | .ok (db, a) =>
      if writes task && !connection.isWritable then throw (.statementRefused task account)
      Action.update ({ · with database := some db })
      return a
    | .error .refused => throw (.statementRefused task account)
    | .error .tooLarge => throw .integerTooLarge

end Connection

namespace Graph

open Connection

/-- Reinforce a pair of contacts in a database. -/
def reinforceInDatabase (l : Layout) (account : String) (a b : Contact) (r : Reinforcement) :
    Action Connection Unit := do
  Action.ofExcept (check account r)
  transact .reinforce account (l.tableOf account) fun rows =>
    return (← rows.reinforce account a b r, ())

/-- The graph of an account in a database. -/
def inDatabase (l : Layout) (account : String) (waits : Bool) : Graph Connection where
  account := account
  waits := waits
  related q :=
    transact .query account (l.tableOf account) fun rows =>
      return (rows, ← rows.related account q)
  reinforce := reinforceInDatabase l account
  bond? a b name :=
    transact .read account (l.tableOf account) fun rows =>
      .ok (rows, (rows.bond? account a.key b.key (relationName name)).map fun cells =>
        ⟨cells.weight.value, cells.updatedAt⟩)
  remove what := do
    let count ← transact (.remove what) account (l.tableOf account) fun rows =>
      rows.remove account what (Sql.Identifier.isShadowed (l.tableOf account))
    Action.note (.removed what account (.rows count))
  clique := reinforceClique account (reinforceInDatabase l account)

end Graph

end Rapport
