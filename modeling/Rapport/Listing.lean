import Rapport.Registry

set_option autoImplicit false

/-! # Listings

All edges that a backend keeps, written out in one order: by account, then by the ends of the edge.
What a store and a database keep looks the same in a listing. -/

namespace Rapport

/-- One edge with its relations. -/
structure ListedEdge where
  account : String
  origin : String
  target : String
  bonds : Bonds
deriving DecidableEq

namespace Listing

/-- Whether one edge is listed no later than another. -/
def before (x y : ListedEdge) : Bool :=
  if x.account = y.account then
    if x.origin = y.origin then decide (x.target ≤ y.target) else decide (x.origin ≤ y.origin)
  else decide (x.account ≤ y.account)

/-- The edges of a store. -/
def ofStore (s : Store) : List ListedEdge :=
  (s.adjacency.entries.flatMap fun (node, edges) =>
    edges.entries.map fun (target, bonds) => ⟨node.1, node.2, target, bonds⟩).mergeSort before

/-- Add a row of an edge table to a store that holds the rows before it. -/
def addRow (s : Store) (row : Sql.RowKey × Sql.Cells) : Store :=
  s.alterEdge row.1.account row.1.origin row.1.target fun bonds =>
    bonds.insert row.1.relation ⟨row.2.weight.value, row.2.updatedAt⟩

/-- The edges of all tables of a database. -/
def ofDatabase (db : Sql.Database) : List ListedEdge :=
  ofStore ((db.tables.values.flatMap (·.rows.entries)).foldl addRow {})

end Listing

namespace Backend

/-- The database file that a backend keeps graphs in, if there is one. -/
def databaseFile (b : Backend) (d : Deployment) : Option Sql.Database :=
  match b.medium with
  | .database engine _ => engine.path.bind d.fileAt?
  | .memory _ | .rehearsal _ _ => none

/-- All edges that a backend keeps. Databases without a file are not looked into. -/
def listing (b : Backend) (d : Deployment) : List ListedEdge :=
  match b.medium with
  | .memory shelf | .rehearsal shelf _ => Listing.ofStore (d.store shelf)
  | .database _ _ => ((b.databaseFile d).map Listing.ofDatabase).getD []

/-- How many edges of an account a backend keeps in memory. -/
def edgeCount? (b : Backend) (d : Deployment) (account : String) : Option Nat :=
  match b.medium with
  | .memory shelf | .rehearsal shelf _ => some ((d.store shelf).edgeCount account)
  | .database _ _ => none

end Backend

end Rapport
