import Rapport.Graph.InMemory

set_option autoImplicit false

/-! # Rehearsals

A rehearsal is a graph in memory that fails on demand, in front of what it would do: when certain
pairs of contacts are reinforced, when a clique is, or when a query is asked. It shows how those who
drive a graph take its failures. -/

namespace Rapport

/-- What a rehearsed query does. -/
inductive StagedQuery
  | fails (kind : Staged)
  /-- It never ends. -/
  | hangs
deriving DecidableEq, Repr

/-- Where a rehearsal fails. -/
structure Rehearsal where
  /-- The pairs of addresses whose reinforcement fails, in this direction. A star stands for every
      address. -/
  pairs : List (String × String × Staged) := []
  /-- The failure of every clique, if they fail. -/
  clique : Option Staged := none
  /-- What every query does, if it is not answered. -/
  query : Option StagedQuery := none
deriving DecidableEq, Repr

namespace Rehearsal

/-- Whether a pattern stands for an address. -/
def admits (pattern address : String) : Bool := pattern == "*" || pattern == address

/-- The failure staged for a pair of contacts, the first that fits. -/
def failureOf (faults : Rehearsal) (a b : Contact) : Option Staged :=
  (faults.pairs.find? fun p => admits p.1 a.address && admits p.2.1 b.address).map (·.2.2)

/-- Do as staged, or else as ever. -/
def instead {σ α : Type} (account : String) (fault : Option Staged) (act : Action σ α) :
    Action σ α :=
  match fault with
  | some kind => throw (.staged kind account)
  | none => act

end Rehearsal

namespace Graph

/-- Reinforce a pair of contacts, unless the rehearsal makes it fail. -/
def reinforceInRehearsal (faults : Rehearsal) (account : String) (a b : Contact)
    (r : Reinforcement) : Action Store Unit :=
  Rehearsal.instead account (faults.failureOf a b) (reinforceInMemory account a b r)

/-- The graph of an account in a store, with the failures of a rehearsal. -/
def inRehearsal (faults : Rehearsal) (account : String) : Graph Store :=
  { inMemory account with
    related := fun q =>
      match faults.query with
      | some (.fails kind) => throw (.staged kind account)
      | some .hangs => throw .stalled
      | none => (inMemory account).related q
    reinforce := reinforceInRehearsal faults account
    clique := fun contacts r =>
      Rehearsal.instead account faults.clique
        (reinforceClique account (reinforceInRehearsal faults account) contacts r) }

end Graph

end Rapport
