import Rapport.Proofs.Graph.Isolation

set_option autoImplicit false

/-! # Connections that requests lead to

Whatever is asked of graphs in a database that was empty at first, the connection stays `Orderly`:
nothing keeps the driver from connecting, all tables are tables of accounts, and each one that is
ready is there, unless it is the database's own. So a transaction on a table that comes to be ready
under a usable name is up to its rows: `Orderly.ends_transact` says how it ends if they take it, and
`Orderly.ends_transact_refusal` if they do not. -/

namespace Rapport

open Sql Identifier

namespace Connection

/-- A connection to a database that may be written to, which has no tables but those of accounts,
    and all that are ready. -/
structure Orderly (l : Layout) (c : Connection) : Prop where
  obstacle : c.obstacle = none
  writable : c.isWritable = true
  database : ∃ db, c.database = some db
  tables : ∀ db, c.database = some db → ∀ key stored, db.tables.find? key = some stored →
    ∃ account, key = fold (denoted (l.tableOf account))
  ready : ∀ table ∈ c.ready, isBuiltIn table = true ∨ (c.rowsAt table).isSome = true

variable {l : Layout} {c : Connection} {account : String}

theorem orderly_empty (l : Layout) : Orderly l {} where
  obstacle := rfl
  writable := rfl
  database := ⟨_, rfl⟩
  tables db hdb key stored hstored := by
    rw [← Option.some.inj hdb] at hstored
    exact absurd hstored (by simp)
  ready _ h := absurd h (by simp)

theorem isSome_rowsAt_ensured {table table' : String} (h : (c.rowsAt table').isSome = true) :
    ((ensured table c).2.rowsAt table').isSome = true := by
  rcases rowsAt_ensured table c table' with heq | ⟨_, heq⟩
  · rw [heq]
    exact h
  · rw [heq]
    rfl

namespace Orderly

/-- A table that is found under the name of an account's table is the one that statements mean. -/
theorem isSome_rowsAt_of_hasTable (h : Orderly l c) {db : Database} (hdb : c.database = some db)
    (hfound : db.hasTable (l.tableOf account) = true) :
    (c.rowsAt (l.tableOf account)).isSome = true := by
  rw [Database.hasTable, Keyed.contains] at hfound
  obtain ⟨stored, hstored⟩ := Option.isSome_iff_exists.1 hfound
  obtain ⟨account', hkey⟩ := h.tables db hdb _ _ hstored
  have hsame : l.tableOf account = l.tableOf account' := tableFor_eq_of_fold hkey
  rw [rowsAt, hdb, Option.bind_some, Database.rows?, Option.isSome_map, hsame, ← hkey, hstored]
  rfl

theorem ensured (h : Orderly l c) (account : String) :
    Orderly l (Connection.ensured (l.tableOf account) c).2 := by
  rcases snd_ensured_cases (l.tableOf account) c with
    heq | ⟨db, db', usable, _, hdatabase, hmade, heq⟩
  · rw [heq]
    exact h
  · have hrows : ∀ table, (c.rowsAt table).isSome = true →
        ((Connection.ensured (l.tableOf account) c).2.rowsAt table).isSome = true :=
      fun table => isSome_rowsAt_ensured
    rw [heq] at hrows ⊢
    refine ⟨h.obstacle, h.writable, ⟨db', rfl⟩, fun db₁ hdb₁ key stored hstored => ?_,
      fun table htable => ?_⟩
    · rw [← Option.some.inj hdb₁] at hstored
      rcases Database.tables_made hmade with htables | ⟨_, htables⟩
      · rw [htables] at hstored
        exact h.tables db hdatabase key stored hstored
      · rw [htables, Keyed.find?_insert] at hstored
        split at hstored
        · next hkey => exact ⟨account, hkey⟩
        · exact h.tables db hdatabase key stored hstored
    · cases usable with
      | false => exact (h.ready table htable).imp_right (hrows table)
      | true =>
        rcases List.mem_append.1 htable with htable | htable
        · exact (h.ready table htable).imp_right (hrows table)
        · rw [List.mem_singleton.1 htable]
          -- The new table is there already, is the database's own, or has just been created.
          rcases Database.made_cases hmade with ⟨hfound | hown, _⟩ | ⟨_, _, _, _, hnew⟩
          · exact Or.inr (hrows _ (h.isSome_rowsAt_of_hasTable hdatabase hfound))
          · exact Or.inl hown
          · refine Or.inr ?_
            rw [rowsAt]
            simp only [Option.bind_some, Database.rows?,
              Database.tables_addTable_createIndexes hnew, Keyed.find?_insert, if_true]
            rfl

theorem setRowsAt (h : Orderly l c) (table : String) (rows : Rows) :
    Orderly l (c.setRowsAt table rows) := by
  obtain ⟨db, hdb⟩ := h.database
  have hset : (c.setRowsAt table rows).database = some (db.setRows (denoted table) rows) := by
    rw [Connection.setRowsAt, hdb, Option.map_some]
  refine ⟨h.obstacle, h.writable, ⟨_, hset⟩, fun db₁ hdb₁ key stored hstored => ?_,
    fun table' htable' => (h.ready table' htable').imp_right fun hsome => ?_⟩
  · rw [hset] at hdb₁
    rw [← Option.some.inj hdb₁, Database.tables_setRows] at hstored
    obtain ⟨old, hold, _⟩ := Option.map_eq_some_iff.1 hstored
    exact h.tables db hdb key old hold
  · rw [rowsAt_setRowsAt]
    split
    · rw [Option.isSome_map]
      exact hsome
    · exact hsome

variable {α : Type} {task : Task} {f : Rows → Except Refusal (Rows × α)}

theorem carryOut (h : Orderly l c) (table : String) :
    Orderly l (carryOut task account table f c).2 := by
  rcases carryOut_cases task account table f c with heq | ⟨_, rows', _, _, _, _, heq⟩
  · rw [heq]
    exact h
  · rw [heq]
    exact h.setRowsAt table rows'

theorem keeps_transact : (transact task account (l.tableOf account) f).Keeps (Orderly l) := by
  refine Action.Keeps.of_ends fun c hc => ?_
  cases hensured : (Connection.ensured (l.tableOf account) c).1 with
  | ok _ => exact ⟨_, _, ends_transact_carryOut hensured, (hc.ensured account).carryOut _⟩
  | error e => exact ⟨_, _, ends_transact_error hensured, hc.ensured account⟩

/-- A connection stays orderly, whatever is asked. -/
theorem after (h : Orderly l c) (waits : Bool) (run : List (String × Request)) :
    Orderly l (Graph.after (Graph.inDatabase l · waits) c run) := by
  induction run generalizing c with
  | nil => exact h
  | cons q rest ih =>
    have hserve : ((Graph.inDatabase l q.1 waits).serve q.2).Keeps (Orderly l) :=
      Graph.closed_serve (Action.Keeps.closed _) fun _ _ _ _ _ => keeps_transact
    exact ih (hserve ⟨c, []⟩ h)

theorem connectionAfter (l : Layout) (waits : Bool) (run : List (String × Request)) :
    Orderly l (connectionAfter l waits run) := (orderly_empty l).after waits run

/-! ## Transactions on usable tables -/

/-- A table that comes to be ready under a usable name is there, with the rows that it has had. -/
theorem rowsAt_ensured (h : Orderly l c)
    (hok : (Connection.ensured (l.tableOf account) c).1 = .ok ())
    (hforeign : isBuiltIn (l.tableOf account) = false) :
    (Connection.ensured (l.tableOf account) c).2.rowsAt (l.tableOf account)
      = some ((c.rowsAt (l.tableOf account)).getD .empty) := by
  have hsome := ((h.ensured account).ready _ (mem_ready_ensured hok)).resolve_left
    (by simp [hforeign])
  rcases Connection.rowsAt_ensured (l.tableOf account) c (l.tableOf account) with
    heq | ⟨hnone, heq⟩
  · rw [heq] at hsome ⊢
    obtain ⟨rows, hrows⟩ := Option.isSome_iff_exists.1 hsome
    rw [hrows]
    rfl
  · rw [heq, hnone]
    rfl

/-- The failure that a refusal comes to. -/
def failure (task : Task) (account : String) : Refusal → Failure
  | .refused => .statementRefused task account
  | .tooLarge => .integerTooLarge

theorem carryOut_error {table : String} {rows : Rows} {e : Refusal}
    (hrows : c.rowsAt table = some rows) (hallows : (standing table).allows task = true)
    (hf : f rows = .error e) :
    Connection.carryOut task account table f c = (.error (failure task account e), c) := by
  rw [Connection.carryOut, hrows]
  simp only [if_pos hallows, hf]
  cases e with
  | refused => rfl
  | tooLarge => rfl

section Transact

variable (h : Orderly l c) (hok : ((ensureTable (l.tableOf account)).outcome c).1 = .ok ())
  (husable : IsUsableTable (l.tableOf account)) {rows : Rows}
  (hrows : rows = (c.rowsAt (l.tableOf account)).getD .empty)

include h hok husable hrows

theorem usable_ensured :
    (Connection.ensured (l.tableOf account) c).1 = .ok ()
      ∧ (Connection.ensured (l.tableOf account) c).2.rowsAt (l.tableOf account) = some rows
      ∧ ∀ task, (standing (l.tableOf account)).allows task = true := by
  rw [(ends_ensureTable_ensured _ c).outcome.1] at hok
  refine ⟨hok, ?_, fun task => ?_⟩
  · rw [h.rowsAt_ensured hok husable.foreign, hrows]
  · rw [husable.free]
    rfl

/-- A transaction on the table of an account that comes to be ready, and that statements can write
    everywhere, is carried out unless its rows refuse it. -/
theorem ends_transact {rows' : Rows} {a : α} (hf : f rows = .ok (rows', a)) :
    (transact task account (l.tableOf account) f).Ends c (.ok a)
      ((Connection.ensured (l.tableOf account) c).2.setRowsAt (l.tableOf account) rows') := by
  obtain ⟨hok, hfound, hallows⟩ := h.usable_ensured hok husable hrows
  have hends : (transact task account (l.tableOf account) f).Ends c _ _ :=
    ends_transact_carryOut hok
  rw [carryOut_eq hfound (hallows task) hf (h.ensured account).writable] at hends
  exact hends

theorem ends_transact_refusal {e : Refusal} (hf : f rows = .error e) :
    (transact task account (l.tableOf account) f).Ends c (.error (failure task account e))
      (Connection.ensured (l.tableOf account) c).2 := by
  obtain ⟨hok, hfound, hallows⟩ := h.usable_ensured hok husable hrows
  have hends : (transact task account (l.tableOf account) f).Ends c _ _ :=
    ends_transact_carryOut hok
  rw [carryOut_error hfound (hallows task) hf] at hends
  exact hends

end Transact

theorem share_setRowsAt (h : Orderly l c)
    (hok : ((ensureTable (l.tableOf account)).outcome c).1 = .ok ())
    (husable : IsUsableTable (l.tableOf account)) {rows : Rows}
    (hothers : ∀ other, other ≠ account →
      rows.share other = ((c.rowsAt (l.tableOf account)).getD .empty).share other)
    (other : String) :
    ((Connection.ensured (l.tableOf account) c).2.setRowsAt (l.tableOf account) rows).share l other
      = if other = account then rows.share account else c.share l other := by
  rw [(ends_ensureTable_ensured _ c).outcome.1] at hok
  exact Connection.share_setRowsAt hok (h.rowsAt_ensured hok husable.foreign) hothers other

end Orderly

end Connection

end Rapport
