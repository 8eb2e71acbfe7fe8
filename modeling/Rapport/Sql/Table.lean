import Rapport.Keyed
import Rapport.Query
import Rapport.Ranking
import Rapport.Reinforcement
import Rapport.Removal
import Rapport.Sql.Amount
import Rapport.Sql.Like

set_option autoImplicit false

/-! # The rows of an edge table

What the statements that graphs are made of do to the rows of an edge table. Each row is one
relation of a directed edge; account, ends and relation are its key. A statement is a function on
the rows. The conditions of a deletion look at the rows as they are before it. -/

namespace Rapport.Sql

/-- The key of a row: one relation of one edge of an account. -/
structure RowKey where
  account : String
  origin : String
  target : String
  relation : String
deriving DecidableEq, Repr

/-- What a row holds besides its key. -/
structure Cells where
  weight : Amount := .whole 0
  updatedAt : Int := 0
deriving DecidableEq, Repr

/-- The rows of an edge table. -/
abbrev Rows : Type := Keyed RowKey Cells

/-- Why a database does not do as it is told. -/
inductive Refusal
  /-- It says so. -/
  | refused
  /-- It is given an integer that has no place in it. -/
  | tooLarge
deriving DecidableEq, Repr

/-- Hand an integer over to the database. -/
def bind (n : Int) : Except Refusal Unit :=
  if Numeral.Word64.holds n then .ok () else .error .tooLarge

namespace Rows

/-! ## Statements that write -/

/-- Insert rows without weight, except where there is a row already. -/
def insertMissing (rows : Rows) (keys : List RowKey) : Rows :=
  keys.foldl (fun rows k => rows.upsert k fun cells => cells.getD {}) rows

/-- Add to the weight of some relations of an edge, and raise their times. -/
def increase (rows : Rows) (account origin target : String) (relations : List String)
    (amount timestamp : Int) : Rows :=
  rows.map fun k cells =>
    if k.account = account ∧ k.origin = origin ∧ k.target = target ∧ k.relation ∈ relations then
      ⟨cells.weight.add amount,
        if cells.updatedAt < timestamp then timestamp else cells.updatedAt⟩
    else cells

/-- Delete the rows that satisfy `p`. -/
def delete (rows : Rows) (p : RowKey → Cells → Bool) : Rows := rows.filter fun k cells => !p k cells

/-- How many rows satisfy `p`. -/
def count (rows : Rows) (p : RowKey → Cells → Bool) : Nat :=
  rows.entries.countP fun row => p row.1 row.2

/-! ## Transactions -/

/-- The keys of the rows that a reinforcement writes: for each edge its relations, in order. -/
def reinforcedKeys (account : String) (edges : List (String × String)) (relations : List String) :
    List RowKey :=
  edges.flatMap fun e => (Ascending.ofList relations).map fun r => ⟨account, e.1, e.2, r⟩

/-- Reinforce a pair of contacts: insert the rows that are missing, then increase the rows of one
    edge after the other. -/
def reinforce (rows : Rows) (account : String) (a b : Contact) (r : Reinforcement) :
    Except Refusal Rows :=
  (r.edges a b).foldlM
    (fun rows e => do
      bind r.amount
      bind r.timestamp
      return rows.increase account e.1 e.2 r.relations r.amount r.timestamp)
    (rows.insertMissing (reinforcedKeys account (r.edges a b) r.relations))

/-- Whether a row makes an edge stale: it is a combined one, and old enough. -/
def isStale (cutoff : Int) (row : RowKey × Cells) : Bool :=
  row.1.relation == Channel.combinedName && decide (row.2.updatedAt ≤ cutoff)

/-- Whether a removal takes a row out. An edge is stale by its combined row, and all its rows go. In
    a shadowed table the row to be judged cannot be told from those that it is compared with, and
    one stale edge of any account makes all edges stale. -/
def takes (rows : Rows) (account : String) (what : Removal) (shadowed : Bool) (k : RowKey)
    (_cells : Cells) : Bool :=
  k.account == account &&
    match what with
    | .contact c => k.origin == c.key || k.target == c.key
    | .between a b =>
      (k.origin == a.key && k.target == b.key) || (k.origin == b.key && k.target == a.key)
    | .source name =>
      startsLike (Contact.sourceTag name) k.origin || startsLike (Contact.sourceTag name) k.target
    | .everything => true
    | .stale cutoff =>
      rows.entries.any fun row =>
        isStale cutoff row && (shadowed || (row.1.account == k.account
          && row.1.origin == k.origin && row.1.target == k.target))

/-- The integers that a removal hands over to the database. -/
def bindRemoval : Removal → Except Refusal Unit
  | .stale cutoff => bind cutoff
  | .contact _ | .between _ _ | .source _ | .everything => .ok ()

/-- Whether the condition of a removal can be put to the rows of an account. Without rows nothing is
    put to them. -/
def canJudge (rows : Rows) (account : String) : Removal → Bool
  | .source name =>
    Wild.isUsable (Contact.sourceTag name)
      || rows.entries.all fun row => row.1.account != account
  | .contact _ | .between _ _ | .everything | .stale _ => true

/-- Take rows out, and tell how many. -/
def remove (rows : Rows) (account : String) (what : Removal) (shadowed : Bool) :
    Except Refusal (Rows × Nat) := do
  bindRemoval what
  if !rows.canJudge account what then throw .refused
  let p := rows.takes account what shadowed
  return (rows.delete p, rows.count p)

/-! ## Statements that read -/

/-- One relation of one edge. -/
def bond? (rows : Rows) (account origin target relation : String) : Option Cells :=
  rows.find? ⟨account, origin, target, relation⟩

/-- Whether a row counts for a query. -/
def counts (q : Query) (account : String) (k : RowKey) (cells : Cells) : Bool :=
  k.account == account && q.seeds.contains k.origin && !q.seeds.contains k.target
    && k.relation == q.relation && decide ((q.lowerBound : Int) ≤ cells.weight.value)
    && match q.updateCutoff with
      | some cutoff => decide (cutoff ≤ cells.updatedAt)
      | none => true

/-- Group rows by the contact they lead to. -/
def groups (rows : List (RowKey × Cells)) : Keyed String (List Amount) :=
  rows.foldl (fun m row => m.upsert row.1.target fun ws => ws.getD [] ++ [row.2.weight]) .empty

/-- The integers that a query hands over to the database. -/
def bindQuery (q : Query) : Except Refusal Unit := do
  bind q.lowerBound
  match q.updateCutoff with
  | some cutoff => bind cutoff
  | none => .ok ()
  if q.limit ≠ 0 then bind q.limit

/-- The answer of a query: the rows that count, added up for each contact they lead to, in order. A
    sum that has no place in the database spoils the query. -/
def related (rows : Rows) (account : String) (q : Query) : Except Refusal (List Suggestion) := do
  bindQuery q
  let counted := rows.entries.filter fun row => counts q account row.1 row.2
  let sums ← (groups counted).entries.mapM fun (target, amounts) =>
    match Amount.sum? amounts with
    | some total => .ok (target, total)
    | none => .error .refused
  let ordered := Ranking.sorted sums
  return (if q.limit = 0 then ordered else ordered.take q.limit).map Ranking.suggestion

end Rows

end Rapport.Sql
