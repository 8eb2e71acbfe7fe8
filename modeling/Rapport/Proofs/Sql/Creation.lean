import Rapport.Graph.Relational
import Rapport.Proofs.Action
import Rapport.Proofs.Keyed
import Rapport.Proofs.Sql.Naming

set_option autoImplicit false

/-! # Creation of tables

`Database.create` makes a table ready in one of three ways: it finds it, it finds a table of the
database's own, or it creates it with its indexes. `create_cases` tells them apart. What can be
created in a database can also be created in one where less names are taken, and so in an empty one
(`create_empty`).

`Connection.ensureTable` is described by `ends_ensureTable` where it succeeds, and
`create_of_ensureTable` says what its success tells about the database. -/

namespace Rapport.Sql.Database

open Identifier

/-! ## Names that are taken -/

theorem contains_insert {κ ν : Type} [DecidableEq κ] (m : Keyed κ ν) (k k' : κ) (v : ν) :
    (m.insert k v).contains k' = (decide (k' = k) || m.contains k') := by
  rw [Keyed.contains, Keyed.find?_insert]
  by_cases h : k' = k
  · simp [h]
  · simp [h, Keyed.contains]

/-- A database with one more index. -/
def addIndex (db : Database) (name : String) : Database :=
  { db with indexes := db.indexes.insert (fold name) name }

/-- A database with one more table, which is empty. -/
def addTable (db : Database) (name : String) : Database :=
  { db with tables := db.tables.insert (fold name) ⟨name, .empty⟩ }

theorem isTaken_addIndex (db : Database) (name n : String) :
    (db.addIndex name).isTaken n = (decide (fold n = fold name) || db.isTaken n) := by
  simp only [isTaken, hasTable, addIndex, contains_insert]
  rw [Bool.or_left_comm]

theorem isTaken_addTable (db : Database) (name n : String) :
    (db.addTable name).isTaken n = (decide (fold n = fold name) || db.isTaken n) := by
  simp only [isTaken, hasTable, addTable, contains_insert, Bool.or_assoc]

/-- All names that are taken in one database are taken in another. -/
def TakesWithin (db db' : Database) : Prop :=
  ∀ n, db.isTaken n = true → db'.isTaken n = true

theorem isTaken_empty (n : String) : ({} : Database).isTaken n = false := by
  simp [isTaken, hasTable, Keyed.contains]

theorem takesWithin_empty (db : Database) : TakesWithin {} db :=
  fun n h => absurd h (by simp [isTaken_empty])

theorem TakesWithin.addIndex {db db' : Database} (h : TakesWithin db db') (name : String) :
    TakesWithin (db.addIndex name) (db'.addIndex name) := by
  intro n
  rw [isTaken_addIndex, isTaken_addIndex, Bool.or_eq_true, Bool.or_eq_true]
  exact Or.imp_right (h n)

theorem TakesWithin.addTable {db db' : Database} (h : TakesWithin db db') (name : String) :
    TakesWithin (db.addTable name) (db'.addTable name) := by
  intro n
  rw [isTaken_addTable, isTaken_addTable, Bool.or_eq_true, Bool.or_eq_true]
  exact Or.imp_right (h n)

/-! ## Indexes -/

theorem createIndexes_cons (db : Database) (index : Index) (rest : List Index) :
    db.createIndexes (index :: rest)
      = if db.isTaken index.name || !isShortEnough index.name then (db, false)
        else (db.addIndex index.name).createIndexes rest := rfl

theorem tables_createIndexes (db : Database) (indexes : List Index) :
    (db.createIndexes indexes).1.tables = db.tables := by
  induction indexes generalizing db with
  | nil => rfl
  | cons index rest ih =>
    rw [createIndexes_cons]
    split
    · rfl
    · exact ih _

theorem createIndexes_mono {db db' : Database} (h : TakesWithin db db') {indexes : List Index}
    (hok : (db'.createIndexes indexes).2 = true) : (db.createIndexes indexes).2 = true := by
  induction indexes generalizing db db' with
  | nil => rfl
  | cons index rest ih =>
    rw [createIndexes_cons] at hok ⊢
    split at hok
    · exact absurd hok (by simp)
    · next hfree =>
      rw [Bool.or_eq_true, not_or] at hfree
      have hfree' : ¬(db.isTaken index.name || !isShortEnough index.name) = true := by
        rw [Bool.or_eq_true, not_or]
        exact ⟨fun htaken => hfree.1 (h _ htaken), hfree.2⟩
      rw [if_neg hfree']
      exact ih (h.addIndex index.name) hok

/-! ## Tables -/

theorem create_eq (db : Database) (table : String) :
    db.create (edgeTable table)
      = if db.hasTable table then (db, true)
        else if isUnaskable table then (db, false)
        else if isBuiltIn table then (db, true)
        else if db.canCreate (edgeTable table) then
          (db.addTable (denoted table)).createIndexes (edgeTable table).indexes
        else (db, false) := rfl

/-- The three ways in which a table comes to be ready. -/
theorem create_cases {db db' : Database} {table : String}
    (h : db.create (edgeTable table) = (db', true)) :
    (db.hasTable table = true ∧ db' = db)
      ∨ (db.hasTable table = false ∧ isUnaskable table = false ∧ isBuiltIn table = true ∧ db' = db)
      ∨ (db.hasTable table = false ∧ isUnaskable table = false ∧ isBuiltIn table = false
        ∧ db.canCreate (edgeTable table) = true
        ∧ (db.addTable (denoted table)).createIndexes (edgeTable table).indexes = (db', true)) := by
  rw [create_eq] at h
  by_cases hfound : db.hasTable table = true
  · rw [if_pos hfound, Prod.mk.injEq] at h
    exact Or.inl ⟨hfound, h.1.symm⟩
  · rw [if_neg hfound] at h
    rw [Bool.not_eq_true] at hfound
    by_cases hask : isUnaskable table = true
    · rw [if_pos hask, Prod.mk.injEq] at h
      exact absurd h.2 (by simp)
    · rw [if_neg hask] at h
      rw [Bool.not_eq_true] at hask
      by_cases hown : isBuiltIn table = true
      · rw [if_pos hown, Prod.mk.injEq] at h
        exact Or.inr (Or.inl ⟨hfound, hask, hown, h.1.symm⟩)
      · rw [if_neg hown] at h
        rw [Bool.not_eq_true] at hown
        by_cases hcan : db.canCreate (edgeTable table) = true
        · rw [if_pos hcan] at h
          exact Or.inr (Or.inr ⟨hfound, hask, hown, hcan, h⟩)
        · rw [if_neg hcan, Prod.mk.injEq] at h
          exact absurd h.2 (by simp)

/-- A table that can be created can be created in an empty database. -/
theorem create_empty {db db' : Database} {table : String} (hfound : db.hasTable table = false)
    (h : db.create (edgeTable table) = (db', true)) :
    (({} : Database).create (edgeTable table)).2 = true := by
  -- Nothing is taken in an empty database, so whatever was free before is free in it.
  have hfound' : ¬({} : Database).hasTable table = true := by simp [hasTable, Keyed.contains]
  rw [create_eq, if_neg hfound']
  rcases create_cases h with ⟨hfound'', _⟩ | ⟨_, hask, hown, _⟩ | ⟨_, hask, hown, hcan, hindexes⟩
  · exact absurd hfound'' (by simp [hfound])
  · rw [if_neg (by simp [hask]), if_pos hown]
  · have hcan' : ({} : Database).canCreate (edgeTable table) = true := by
      rw [canCreate, Bool.and_eq_true] at hcan ⊢
      exact ⟨hcan.1, by rw [isTaken_empty, Bool.not_false]⟩
    rw [if_neg (by simp [hask]), if_neg (by simp [hown]), if_pos hcan']
    exact createIndexes_mono ((takesWithin_empty db).addTable _) (by rw [hindexes])

end Rapport.Sql.Database

namespace Rapport.Connection

open Sql

/-! ## Making sure of a table -/

variable {c : Connection} {table : String}

theorem ends_ensureTable_of_mem (h : table ∈ c.ready) :
    (ensureTable table).Ends c (.ok ()) c := by
  refine (Action.Ends.state c).bind ?_
  rw [if_pos (by simpa using h)]
  exact Action.Ends.pure () c

/-- Where a database can be written to, a table that is not known to be ready is created. -/
theorem ends_ensureTable {db db' : Database} {usable : Bool} (hready : table ∉ c.ready)
    (hobstacle : c.obstacle = none) (hdatabase : c.database = some db)
    (hwritable : c.isWritable = true) (hname : table ≠ "")
    (hcreate : db.create (edgeTable table) = (db', usable)) :
    (ensureTable table).Ends c (if usable then .ok () else .error (.tableUnavailable table))
      { c with
        database := some db'
        ready := if usable then c.ready ++ [table] else c.ready } := by
  obtain ⟨obstacle, database, isWritable, ready⟩ := c
  dsimp only at hready hobstacle hdatabase hwritable ⊢
  subst hobstacle hdatabase hwritable
  refine (Action.Ends.state _).bind ?_
  rw [if_neg (by simpa using hready)]
  simp only [if_neg hname, if_true, hcreate]
  refine (Action.Ends.update _ _).bind ?_
  cases usable with
  | true => exact (Action.Ends.update _ _).bind (Action.Ends.note _ _)
  | false => exact Action.Ends.throw _ _

theorem ends_ensureTable_unnamed {db : Database} (hready : "" ∉ c.ready)
    (hobstacle : c.obstacle = none) (hdatabase : c.database = some db) :
    (ensureTable "").Ends c (.error .tableUnnamed) c := by
  refine (Action.Ends.state c).bind ?_
  rw [if_neg (by simpa using hready), hobstacle, hdatabase]
  exact Action.Ends.throw _ _

/-- Where a table comes to be ready, it could be created. -/
theorem create_of_ensureTable {db : Database} (hready : table ∉ c.ready)
    (hobstacle : c.obstacle = none) (hdatabase : c.database = some db)
    (hwritable : c.isWritable = true) (hok : ((ensureTable table).outcome c).1 = .ok ()) :
    table ≠ "" ∧ ∃ db', db.create (edgeTable table) = (db', true) := by
  have hname : table ≠ "" := by
    rintro rfl
    rw [(ends_ensureTable_unnamed hready hobstacle hdatabase).outcome.1] at hok
    exact absurd hok (by simp)
  refine ⟨hname, ?_⟩
  rcases hcreate : db.create (edgeTable table) with ⟨db', usable⟩
  rw [(ends_ensureTable hready hobstacle hdatabase hwritable hname hcreate).outcome.1] at hok
  cases usable with
  | true => exact ⟨db', rfl⟩
  | false => exact absurd hok (by simp)

/-! ## Transactions -/

variable {α : Type} {c' : Connection} {db : Database} {task : Task}
  {f : Rows → Except Refusal (Rows × α)}

/-- A transaction that the database runs changes the database and gives its answer. -/
theorem ends_transact (account : String) {db' : Database} {a : α}
    (hensure : (ensureTable table).Ends c (.ok ()) c')
    (hdatabase : c'.database = some db) (hwritable : c'.isWritable = true)
    (h : db.transact task table f = .ok (db', a)) :
    (transact task account table f).Ends c (.ok a) { c' with database := some db' } := by
  refine hensure.bind ((Action.Ends.state c').bind ?_)
  simp only [hdatabase, h]
  rw [if_neg (by simp [hwritable])]
  exact (Action.Ends.update _ _).bind (Action.Ends.pure a _)

theorem ends_transact_refused (account : String)
    (hensure : (ensureTable table).Ends c (.ok ()) c')
    (hdatabase : c'.database = some db) (h : db.transact task table f = .error .refused) :
    (transact task account table f).Ends c (.error (.statementRefused task account)) c' := by
  refine hensure.bind ((Action.Ends.state c').bind ?_)
  simp only [hdatabase, h]
  exact Action.Ends.throw _ _

end Rapport.Connection
