import Rapport.Proofs.Graph.Source

set_option autoImplicit false

/-! # Where rows can be

An account has rows only in a table that is ready, and only under a name that statements can write
everywhere: rows come of reinforcements alone, and under any other name a reinforcement is refused.
A connection is `Stocked` if this is so of all accounts, and requests keep it so
(`stocked_connectionAfter`). For an account that has rows, whatever is asked of its table is put to
them. -/

namespace Rapport

open Sql Identifier

namespace Connection

variable {l : Layout} {c : Connection} {account : String}

/-- All rows of accounts are in tables that are ready and whose names are no words of statements. -/
def Stocked (l : Layout) (c : Connection) : Prop :=
  ∀ k : RowKey, c.cells? l k ≠ none →
    l.tableOf k.account ∈ c.ready ∧ standing (l.tableOf k.account) = .free

theorem stocked_empty (l : Layout) : Stocked l {} := fun _ hcells => absurd rfl hcells

/-! ## The rows of accounts after a transaction -/

/-- Making sure of a table brings no rows and takes none. -/
theorem getD_rowsAt_ensured (table : String) (c : Connection) (table' : String) :
    ((ensured table c).2.rowsAt table').getD .empty = (c.rowsAt table').getD .empty := by
  rcases rowsAt_ensured table c table' with heq | ⟨hnone, hempty⟩
  · rw [heq]
  · rw [hnone, hempty]
    rfl

theorem cells?_ensured (table : String) (c : Connection) (k : RowKey) :
    (ensured table c).2.cells? l k = c.cells? l k := by
  rw [cells?, cells?, share, share, getD_rowsAt_ensured]

/-- The rows of an account are those in its table. -/
theorem cells?_eq (c : Connection) (l : Layout) (k : RowKey) :
    c.cells? l k = ((c.rowsAt (l.tableOf k.account)).getD .empty).find? k := by
  rw [cells?, share, Rows.find?_share _ rfl]

theorem cells?_setRowsAt {rows rows' : Rows} (hrows : c.rowsAt (l.tableOf account) = some rows)
    (hothers : ∀ other, other ≠ account → rows'.share other = rows.share other) (k : RowKey) :
    (c.setRowsAt (l.tableOf account) rows').cells? l k
      = if k.account = account then rows'.find? k else c.cells? l k := by
  split
  · next hk =>
    rw [cells?_eq, hk, rowsAt_setRowsAt, if_pos rfl, hrows]
    rfl
  · next hk =>
    rw [cells?, share, (shares_setRowsAt hrows (hothers k.account hk) (l.tableOf k.account)).rows]
    rfl

end Connection

/-! ## Where rows come from -/

/-- Of the transactions of an account only reinforcements bring rows. -/
theorem Graph.Transacts.eq_reinforce {l : Layout} {account : String} {α : Type} {task : Task}
    {f : Rows → Except Refusal (Rows × α)} (h : Transacts l account task f) {rows rows' : Rows}
    {a : α} (hf : f rows = .ok (rows', a)) {k : RowKey} (hold : rows.find? k = none)
    (hnew : rows'.find? k ≠ none) : task = .reinforce := by
  cases h with
  | reinforce a b r => rfl
  | remove what =>
    rw [Rows.eq_delete_of_remove hf, Rows.find?_delete, hold] at hnew
    exact absurd rfl hnew
  | bond origin target relation =>
    have hsame : rows = rows' := congrArg Prod.fst (Except.ok.inj hf)
    exact absurd (hsame ▸ hold) hnew
  | related q =>
    rw [Rows.eq_of_related hf, hold] at hnew
    exact absurd rfl hnew

namespace Connection

variable {l : Layout} {c : Connection} {account : String}

theorem Stocked.ensured (h : Stocked l c) (table : String) :
    Stocked l (Connection.ensured table c).2 := by
  intro k hcells
  rw [cells?_ensured] at hcells
  exact (h k hcells).imp_left fun hready => ready_subset_ensured table c hready

theorem keeps_stocked_transact {α : Type} {task : Task} {f : Rows → Except Refusal (Rows × α)}
    (hf : Graph.Transacts l account task f) :
    (transact task account (l.tableOf account) f).Keeps (Stocked l) := by
  refine Action.Keeps.of_ends fun c hc => ?_
  obtain ⟨result, c', hends, heq | ⟨rows, rows', a, hok, hrows, hallows, hrun, heq⟩⟩ :=
    exists_ends_transact task account (l.tableOf account) f c
  · exact ⟨result, c', hends, heq ▸ hc.ensured _⟩
  · refine ⟨result, c', hends, fun k hcells => ?_⟩
    have hkept := hc.ensured (l.tableOf account)
    rw [heq, cells?_setRowsAt hrows fun other hne => hf.confined hne hrun] at hcells
    rw [heq]
    by_cases hk : k.account = account
    · rw [if_pos hk] at hcells
      by_cases hold : rows.find? k = none
      · -- The row is new, so statements of reinforcements can be made of the name.
        rw [hf.eq_reinforce hrun hold hcells] at hallows
        rw [hk]
        exact ⟨mem_ready_ensured hok, Standing.allows_reinforce_iff.1 hallows⟩
      · refine hkept k ?_
        rw [cells?_eq, hk, hrows]
        exact hold
    · rw [if_neg hk] at hcells
      exact hkept k hcells

/-- A connection stays stocked, whatever is asked. -/
theorem Stocked.serve (h : Stocked l c) (waits : Bool) (account : String) (q : Request) :
    Stocked l (((Graph.inDatabase l account waits).serve q).outcome c).2.state :=
  Graph.closed_serve (Action.Keeps.closed _) (fun _ _ _ _ hf => keeps_stocked_transact hf)
    ⟨c, []⟩ h

theorem stocked_connectionAfter (l : Layout) (waits : Bool) (run : List (String × Request)) :
    Stocked l (connectionAfter l waits run) := by
  have hafter : ∀ c, Stocked l c → Stocked l (Graph.after (Graph.inDatabase l · waits) c run) := by
    induction run with
    | nil => exact fun c hc => hc
    | cons q rest ih => exact fun c hc => ih _ (hc.serve waits q.1 q.2)
  exact hafter {} (stocked_empty l)

end Connection

end Rapport
