import Rapport.Settings.Basic
import Rapport.Text.Lower

set_option autoImplicit false

/-! # Edge tables and their names

An edge table has one row per relation of a directed edge. This module says what its columns, key
and indexes are, and how tables are named: after the stem that the settings give and, where each
account has a table of its own, after the account. -/

namespace Rapport.Sql

/-- The name of the part of a table's name that stands for an account: its lower case, with every
    character but letters, digits and underscores of plain English made an underscore. -/
def accountPart (account : String) : String :=
  let plain (c : Char) : Bool := ('a' ≤ c && c ≤ 'z') || ('0' ≤ c && c ≤ '9') || c == '_'
  String.ofList ((Text.lower account).toList.map fun c => if plain c then c else '_')

/-- The name of the table that holds an account's edges, or of the one that holds all edges. -/
def tableName (stem : String) (account : Option String) : String :=
  match account with
  | some account => stem ++ "_" ++ accountPart account
  | none => stem

/-- The name of the table that holds an account's edges under a partition. -/
def tableFor (partition : Partition) (stem account : String) : String :=
  match partition with
  | .account => tableName stem (some account)
  | .combined => tableName stem none

/-- The types of columns. -/
inductive ColumnType
  | text
  | integer
deriving DecidableEq, Repr

/-- The word for a type of columns. -/
def ColumnType.word : ColumnType → String
  | text => "VARCHAR"
  | integer => "BIGINT"

/-- A column of a table. No column is ever empty. -/
structure Column where
  name : String
  type : ColumnType
  /-- The value of a new row that does not give one. -/
  default : Option Int := none
deriving DecidableEq, Repr

/-- An index of a table. -/
structure Index where
  name : String
  columns : List String
deriving DecidableEq, Repr

/-- A table with its primary key and its indexes. -/
structure Schema where
  name : String
  columns : List Column
  keyName : String
  keyColumns : List String
  indexes : List Index
deriving DecidableEq, Repr

/-- The edge table of a name. -/
def edgeTable (name : String) : Schema where
  name := name
  columns := [
    ⟨"account_id", .text, none⟩, ⟨"from_node", .text, none⟩, ⟨"to_node", .text, none⟩,
    ⟨"edge_type", .text, none⟩, ⟨"weight", .integer, some 0⟩, ⟨"updated_at", .integer, some 0⟩]
  keyName := "pk_" ++ name
  keyColumns := ["account_id", "from_node", "to_node", "edge_type"]
  indexes := [
    ⟨"ix_" ++ name ++ "_to_node", ["account_id", "to_node"]⟩,
    ⟨"ix_" ++ name ++ "_edge_update", ["account_id", "edge_type", "updated_at"]⟩]

end Rapport.Sql
