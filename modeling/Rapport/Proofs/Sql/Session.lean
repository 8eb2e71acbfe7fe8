import Rapport.Proofs.Sql.Share

set_option autoImplicit false

/-! # Sessions

A transaction runs in a session, statement by statement. A session sees what its own statements have
done so far; of that nothing is stored until the session is committed. `Session.run` stops at the
first statement that the database does not carry out, and closing the session then leaves what was
stored when it was opened.

The transaction of a reinforcement is such a session: `left_reinforcing` says that the rows it
leaves are those that `Rows.reinforce` gives, or those before. An integer that does not fit shows
between the two phases of the session: at that point all rows that were missing have been inserted
(`run_reinforcing_of_not_fits`). -/

namespace Rapport

open Sql Numeral

/-- Whether a database has a place for the integers of a reinforcement. -/
def Reinforcement.Fits (r : Reinforcement) : Prop :=
  Word64.holds r.amount = true ∧ Word64.holds r.timestamp = true

namespace Sql

/-- A statement that writes. -/
inductive Statement
  /-- Insert rows without weight, except where there is a row already. -/
  | insert (keys : List RowKey)
  /-- Add to the weight of some relations of an edge, and raise their times. -/
  | increase (account origin target : String) (relations : List String) (amount timestamp : Int)

namespace Statement

/-- Carry a statement out. Its integers are handed over before anything is done. -/
def run (rows : Rows) : Statement → Except Refusal Rows
  | insert keys => .ok (rows.insertMissing keys)
  | increase account origin target relations amount timestamp => do
    bind amount
    bind timestamp
    return rows.increase account origin target relations amount timestamp

/-- The statements that reinforce a pair of contacts: one that inserts, and one for each edge. -/
def reinforcing (account : String) (a b : Contact) (r : Reinforcement) : List Statement :=
  insert (Rows.reinforcedKeys account (r.edges a b) r.relations)
    :: (r.edges a b).map fun e => increase account e.1 e.2 r.relations r.amount r.timestamp

theorem run_increase_of_not_fits {r : Reinforcement} (h : ¬r.Fits) (rows : Rows)
    (account origin target : String) (relations : List String) :
    (increase account origin target relations r.amount r.timestamp).run rows
      = .error .tooLarge := by
  rw [run]
  by_cases hamount : Word64.holds r.amount = true
  · have htime : Word64.holds r.timestamp = false :=
      Bool.eq_false_iff.2 fun htime => h ⟨hamount, htime⟩
    rw [bind_of_holds hamount, bind_of_not_holds htime]
    rfl
  · rw [bind_of_not_holds (Bool.eq_false_iff.2 hamount)]
    rfl

end Statement

/-- The rows of a table as they are stored, and as a session sees them that has a transaction under
    way. -/
structure Session where
  stored : Rows
  seen : Rows

namespace Session

/-- The session at its beginning. -/
def opened (rows : Rows) : Session := ⟨rows, rows⟩

/-- Run statements up to the first that is not carried out. -/
def run (s : Session) : List Statement → Session × Option Refusal
  | [] => (s, none)
  | statement :: rest =>
    match statement.run s.seen with
    | .ok rows => run { s with seen := rows } rest
    | .error e => (s, some e)

/-- The rows that are stored when a session has ended. It is committed if all its statements have
    been carried out, and just closed if not. -/
def left : Session × Option Refusal → Rows
  | (s, none) => s.seen
  | (s, some _) => s.stored

/-- Nothing is stored while statements are run. -/
theorem stored_run (s : Session) (statements : List Statement) :
    (s.run statements).1.stored = s.stored := by
  induction statements generalizing s with
  | nil => rfl
  | cons statement rest ih =>
    rw [run]
    split
    · exact ih _
    · rfl

/-- A session comes to the rows that its statements make one of the other, or to the first
    failure. -/
theorem foldlM_run (s : Session) (statements : List Statement) :
    statements.foldlM Statement.run s.seen
      = match s.run statements with
        | (s', none) => .ok s'.seen
        | (_, some e) => .error e := by
  induction statements generalizing s with
  | nil => rfl
  | cons statement rest ih =>
    rw [List.foldlM_cons, run]
    cases statement.run s.seen with
    | ok rows => exact ih { s with seen := rows }
    | error e => rfl

theorem left_run (s : Session) (statements : List Statement) :
    left (s.run statements)
      = match statements.foldlM Statement.run s.seen with
        | .ok rows => rows
        | .error _ => s.stored := by
  rw [foldlM_run]
  have hstored := s.stored_run statements
  rcases hrun : s.run statements with ⟨s', _ | e⟩
  · rfl
  · rw [hrun] at hstored
    exact hstored

end Session

/-! ## Reinforcing -/

theorem Rows.reinforce_eq_foldlM (rows : Rows) (account : String) (a b : Contact)
    (r : Reinforcement) :
    rows.reinforce account a b r
      = (Statement.reinforcing account a b r).foldlM Statement.run rows := by
  show _ = List.foldlM Statement.run (rows.insertMissing _) (List.map _ _)
  rw [List.foldlM_map]
  rfl

namespace Session

/-- The rows that the session of a reinforcement leaves are those that the reinforcement makes of
    the rows before, or these if it is not carried out. -/
theorem left_reinforcing (rows : Rows) (account : String) (a b : Contact) (r : Reinforcement) :
    left ((opened rows).run (Statement.reinforcing account a b r))
      = match rows.reinforce account a b r with
        | .ok rows' => rows'
        | .error _ => rows := by
  rw [left_run, Rows.reinforce_eq_foldlM]
  rfl

/-- An integer that does not fit is found out when the missing rows have been inserted. -/
theorem run_reinforcing_of_not_fits {r : Reinforcement} (h : ¬r.Fits) (rows : Rows)
    (account : String) (a b : Contact) :
    (opened rows).run (Statement.reinforcing account a b r)
      = (⟨rows, rows.insertMissing (Rows.reinforcedKeys account (r.edges a b) r.relations)⟩,
          some .tooLarge) := by
  have hedge : (a.key, b.key) ∈ r.edges a b := Reinforcement.mem_edges.2 (Or.inl ⟨rfl, rfl⟩)
  cases hedges : r.edges a b with
  | nil => exact absurd (hedges ▸ hedge) List.not_mem_nil
  | cons e rest =>
    rw [Statement.reinforcing, hedges, List.map_cons]
    show run ⟨rows, rows.insertMissing _⟩ _ = _
    rw [run, Statement.run_increase_of_not_fits h]

end Session

end Sql

end Rapport
