import Rapport.Proofs.Request
import Rapport.Proofs.Sql.Creation
import Rapport.Proofs.Sql.Rows

set_option autoImplicit false

/-! # Databases that mirror a store

A database mirrors a store if, for every account, the rows in the table of the account show what the
store holds for it (`Mirrors`). `exists_ensureTable` says that making a table ready keeps this up,
and `exists_transact` that a transaction does so on the table of an account if it does on rows that
show the store. -/

namespace Rapport

open Sql Identifier

/-! ## The invariant -/

namespace Sql.Database

/-- The rows of the table of an account; none if there is no such table. -/
def rowsOf (db : Database) (l : Layout) (account : String) : Rows :=
  (db.rows? (denoted (l.tableOf account))).getD .empty

theorem rowsOf_of_find?_eq_none {db : Database} {l : Layout} {account : String}
    (h : db.tables.find? (fold (denoted (l.tableOf account))) = none) :
    db.rowsOf l account = .empty := by
  rw [rowsOf, rows?, h]
  rfl

theorem rowsOf_of_find? {db : Database} {l : Layout} {account : String} {stored : Stored}
    (h : db.tables.find? (fold (denoted (l.tableOf account))) = some stored) :
    db.rowsOf l account = stored.rows := by
  rw [rowsOf, rows?, h]
  rfl

end Sql.Database

/-- A table that can be made ready in an empty database. -/
def Creatable (table : String) : Prop :=
  ((Connection.ensureTable table).outcome {}).1 = .ok ()

theorem creatable_of_create {table : String} (hname : table ≠ "")
    (h : (({} : Database).create (edgeTable table)).2 = true) : Creatable table := by
  rcases hcreate : ({} : Database).create (edgeTable table) with ⟨db, usable⟩
  rw [hcreate] at h
  dsimp only at h
  subst h
  exact (Connection.ends_ensureTable (c := {}) (by simp) rfl rfl rfl hname hcreate).outcome.1

/-- A connection to a database that holds just what a store does, in the tables of a layout. -/
structure Mirrors (l : Layout) (s : Store) (c : Connection) (db : Database) : Prop where
  database : c.database = some db
  obstacle : c.obstacle = none
  writable : c.isWritable = true
  /-- A ready table is there. -/
  ready : ∀ table ∈ c.ready,
    Creatable table ∧ ∃ stored, db.tables.find? (fold (denoted table)) = some stored
  /-- Every table is the ready one of some account. -/
  tables : ∀ key stored, db.tables.find? key = some stored →
    ∃ account, l.tableOf account ∈ c.ready ∧ key = fold (denoted (l.tableOf account))
  /-- A row is in the table of its account. -/
  placed : ∀ key stored, db.tables.find? key = some stored →
    ∀ k cells, stored.rows.find? k = some cells → key = fold (denoted (l.tableOf k.account))
  rows : ∀ account, (db.rowsOf l account).Shows account s

theorem mirrors_empty (l : Layout) : Mirrors l {} {} {} where
  database := rfl
  obstacle := rfl
  writable := rfl
  ready _ h := absurd h (by simp)
  tables _ _ h := absurd h (by simp)
  placed _ _ h := absurd h (by simp)
  rows account origin target relation := by
    rw [Database.rowsOf_of_find?_eq_none (Keyed.find?_empty _), Keyed.find?_empty,
      Store.bond?_empty]
    rfl

namespace Mirrors

variable {l : Layout} {s : Store} {c : Connection} {db : Database}

/-! ## Making sure of a table -/

/-- Nothing is found under a key by which only a table goes that is not ready. -/
theorem find?_eq_none (h : Mirrors l s c db) {account : String}
    (hready : l.tableOf account ∉ c.ready) {key : String}
    (hkey : ∀ account', key = fold (denoted (l.tableOf account')) →
      l.tableOf account = l.tableOf account') : db.tables.find? key = none := by
  cases hfound : db.tables.find? key with
  | none => rfl
  | some stored =>
    obtain ⟨account', hready', heq⟩ := h.tables _ _ hfound
    rw [← hkey account' heq] at hready'
    exact absurd hready' hready

/-- A table that is found is known to be ready. -/
theorem hasTable_eq_false (h : Mirrors l s c db) {account : String}
    (hready : l.tableOf account ∉ c.ready) : db.hasTable (l.tableOf account) = false := by
  have hmissing : db.tables.find? (fold (l.tableOf account)) = none :=
    h.find?_eq_none hready fun _ => tableFor_eq_of_fold
  rw [Database.hasTable, Keyed.contains, hmissing]
  rfl

/-- A table that has just been created is empty, and nothing else has changed. -/
theorem of_insert (h : Mirrors l s c db) {account : String}
    (hready : l.tableOf account ∉ c.ready) (hcreatable : Creatable (l.tableOf account))
    {db' : Database}
    (htables : db'.tables = db.tables.insert (fold (denoted (l.tableOf account)))
      ⟨denoted (l.tableOf account), .empty⟩) :
    Mirrors l s { c with database := some db', ready := c.ready ++ [l.tableOf account] } db' := by
  have hmissing : db.tables.find? (fold (denoted (l.tableOf account))) = none :=
    h.find?_eq_none hready fun _ => tableFor_eq_of_fold_denoted
  refine ⟨rfl, h.obstacle, h.writable, ?_, ?_, ?_, ?_⟩
  · intro table htable
    rw [htables, Keyed.find?_insert]
    rcases List.mem_append.1 htable with htable | htable
    · obtain ⟨hcan, stored, hstored⟩ := h.ready table htable
      refine ⟨hcan, ?_⟩
      split
      · exact ⟨_, rfl⟩
      · exact ⟨stored, hstored⟩
    · rw [List.mem_singleton.1 htable, if_pos rfl]
      exact ⟨hcreatable, _, rfl⟩
  · intro key stored hstored
    rw [htables, Keyed.find?_insert] at hstored
    split at hstored
    · next hkey => exact ⟨account, List.mem_append_right _ List.mem_cons_self, hkey⟩
    · obtain ⟨account', hready', hkey⟩ := h.tables _ _ hstored
      exact ⟨account', List.mem_append_left _ hready', hkey⟩
  · intro key stored hstored k cells hrow
    rw [htables, Keyed.find?_insert] at hstored
    split at hstored
    · rw [Option.some.injEq] at hstored
      rw [← hstored] at hrow
      exact absurd hrow (by simp)
    · exact h.placed _ _ hstored k cells hrow
  · intro account'
    by_cases hkey : fold (denoted (l.tableOf account')) = fold (denoted (l.tableOf account))
    · have hrows := h.rows account'
      rw [← hkey] at hmissing
      rw [Database.rowsOf_of_find?_eq_none hmissing] at hrows
      rw [Database.rowsOf_of_find? (by rw [htables, Keyed.find?_insert, if_pos hkey])]
      exact hrows
    · have hsame : db'.rowsOf l account' = db.rowsOf l account' := by
        rw [Database.rowsOf, Database.rows?, htables, Keyed.find?_insert, if_neg hkey]
        rfl
      rw [hsame]
      exact h.rows account'

/-- A table that is ready, or comes to be so, can be created in an empty database. -/
theorem creatable (h : Mirrors l s c db) {account : String}
    (hok : ((Connection.ensureTable (l.tableOf account)).outcome c).1 = .ok ()) :
    Creatable (l.tableOf account) := by
  by_cases hready : l.tableOf account ∈ c.ready
  · exact (h.ready _ hready).1
  · obtain ⟨hname, db', hcreate⟩ :=
      Connection.create_of_ensureTable hready h.obstacle h.database h.writable hok
    exact creatable_of_create hname (Database.create_empty (h.hasTable_eq_false hready) hcreate)

/-- Making a table ready changes nothing of what a store sees, and the table is there then, unless it
    is the database's own. -/
theorem exists_ensureTable (h : Mirrors l s c db) {account : String}
    (hok : ((Connection.ensureTable (l.tableOf account)).outcome c).1 = .ok ())
    (hown : isBuiltIn (l.tableOf account) = false) :
    ∃ c' db', (Connection.ensureTable (l.tableOf account)).Ends c (.ok ()) c'
      ∧ Mirrors l s c' db' ∧ l.tableOf account ∈ c'.ready := by
  by_cases hready : l.tableOf account ∈ c.ready
  · exact ⟨c, db, Connection.ends_ensureTable_of_mem hready, h, hready⟩
  · obtain ⟨hname, db', hcreate⟩ :=
      Connection.create_of_ensureTable hready h.obstacle h.database h.writable hok
    have hends := Connection.ends_ensureTable hready h.obstacle h.database h.writable hname hcreate
    have htables : db'.tables = db.tables.insert (fold (denoted (l.tableOf account)))
        ⟨denoted (l.tableOf account), .empty⟩ := by
      rcases Database.create_cases hcreate with ⟨hfound, _⟩ | ⟨_, _, hown', _⟩ | ⟨_, _, _, _, hnew⟩
      · exact absurd hfound (by simp [h.hasTable_eq_false hready])
      · exact absurd hown' (by simp [hown])
      · have hkept := Database.tables_createIndexes (db.addTable (denoted (l.tableOf account)))
          (edgeTable (l.tableOf account)).indexes
        rw [hnew] at hkept
        exact hkept
    refine ⟨_, db', hends, h.of_insert hready (h.creatable hok) htables, ?_⟩
    exact List.mem_append_right _ List.mem_cons_self

/-! ## Transactions -/

/-- Rows that are put into the table of an account, and differ from those before in rows of this
    account only, show for this account what they show, and for all others what they did. -/
theorem of_setRows (h : Mirrors l s c db) {account : String} {rows : Rows} {s' : Store}
    {stored : Stored}
    (hstored : db.tables.find? (fold (denoted (l.tableOf account))) = some stored)
    (hshows : rows.Shows account s')
    (hothers : ∀ k : RowKey, k.account ≠ account → rows.find? k = stored.rows.find? k)
    (hstore : ∀ account', account' ≠ account → ∀ origin target relation,
      s'.bond? account' origin target relation = s.bond? account' origin target relation) :
    Mirrors l s' { c with database := some (db.setRows (denoted (l.tableOf account)) rows) }
      (db.setRows (denoted (l.tableOf account)) rows) := by
  have hfind : ∀ key, (db.setRows (denoted (l.tableOf account)) rows).tables.find? key
      = (db.tables.find? key).map fun stored =>
          if key = fold (denoted (l.tableOf account)) then { stored with rows } else stored :=
    fun key => Keyed.find?_map _ _ _
  refine ⟨rfl, h.obstacle, h.writable, ?_, ?_, ?_, ?_⟩
  · intro table htable
    obtain ⟨hcan, stored', hstored'⟩ := h.ready table htable
    exact ⟨hcan, _, by rw [hfind, hstored', Option.map_some]⟩
  · intro key stored' hstored'
    rw [hfind, Option.map_eq_some_iff] at hstored'
    obtain ⟨before, hbefore, _⟩ := hstored'
    exact h.tables key before hbefore
  · intro key stored' hstored' k cells hrow
    rw [hfind, Option.map_eq_some_iff] at hstored'
    obtain ⟨before, hbefore, rfl⟩ := hstored'
    split at hrow
    · next hkey =>
      by_cases haccount : k.account = account
      · rw [haccount, hkey]
      · rw [hothers k haccount] at hrow
        rw [hkey, hstored, Option.some.injEq] at hbefore
        rw [hkey]
        exact h.placed _ _ hstored k cells hrow
    · exact h.placed key before hbefore k cells hrow
  · intro account'
    -- Another account may have the same table, and its rows are among `rows` then.
    by_cases hkey : fold (denoted (l.tableOf account')) = fold (denoted (l.tableOf account))
    · have hnew : (db.setRows (denoted (l.tableOf account)) rows).rowsOf l account' = rows := by
        rw [Database.rowsOf_of_find? (by rw [hfind, hkey, hstored, Option.map_some]), if_pos rfl]
      have hold : db.rowsOf l account' = stored.rows :=
        Database.rowsOf_of_find? (by rw [hkey, hstored])
      rw [hnew]
      by_cases haccount : account' = account
      · rw [haccount]
        exact hshows
      · intro origin target relation
        rw [hothers _ haccount, ← hold, h.rows account', hstore account' haccount]
    · have hsame : (db.setRows (denoted (l.tableOf account)) rows).rowsOf l account'
          = db.rowsOf l account' := by
        rw [Database.rowsOf, Database.rows?, hfind, Option.map_map]
        simp only [if_neg hkey]
        rfl
      rw [hsame]
      intro origin target relation
      rw [h.rows account', hstore account' fun haccount => hkey (by rw [haccount])]

/-- A transaction on the rows of an account that is right for rows that show the store is right for
    the table of the account. -/
theorem exists_transact (h : Mirrors l s c db) {account : String} (task : Task) {α : Type}
    (f : Rows → Except Refusal (Rows × α)) (s' : Store) (answers : α → Prop)
    (hok : ((Connection.ensureTable (l.tableOf account)).outcome c).1 = .ok ())
    (hown : isBuiltIn (l.tableOf account) = false)
    (hallows : (standing (l.tableOf account)).allows task = true)
    (hf : ∀ rows : Rows, rows.Shows account s → ∃ rows' a, f rows = .ok (rows', a) ∧ answers a
      ∧ rows'.Shows account s' ∧ ∀ k : RowKey, k.account ≠ account → rows'.find? k = rows.find? k)
    (hstore : ∀ account', account' ≠ account → ∀ origin target relation,
      s'.bond? account' origin target relation = s.bond? account' origin target relation) :
    ∃ a c' db', (Connection.transact task account (l.tableOf account) f).Ends c (.ok a) c'
      ∧ answers a ∧ Mirrors l s' c' db' ∧ l.tableOf account ∈ c'.ready := by
  obtain ⟨c₁, db₁, hensure, h₁, hready⟩ := h.exists_ensureTable hok hown
  obtain ⟨_, stored, hstored⟩ := h₁.ready _ hready
  have hrows := h₁.rows account
  rw [Database.rowsOf_of_find? hstored] at hrows
  obtain ⟨rows', a, hrun, ha, hshows, hothers⟩ := hf stored.rows hrows
  have htransact : db₁.transact task (l.tableOf account) f
      = .ok (db₁.setRows (denoted (l.tableOf account)) rows', a) := by
    rw [Database.transact, Database.rows?, hstored, Option.map_some]
    simp only [hallows, if_true, hrun]
  exact ⟨a, _, _, Connection.ends_transact account hensure h₁.database h₁.writable htransact, ha,
    h₁.of_setRows hstored hshows hothers hstore, hready⟩

end Mirrors

end Rapport
