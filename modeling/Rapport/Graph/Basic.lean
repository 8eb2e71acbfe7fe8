import Rapport.Action
import Rapport.Ranking
import Rapport.Store

set_option autoImplicit false

/-! # Graphs

A `Graph σ` is what can be done to the contact graph of one account when the graphs are stored in a
state of type `σ`. `Graph.clique` reinforces every pair of a list of contacts, one pair after the
other: a pair that fails is noted and the others go on. -/

namespace Rapport

/-- The contact graph of one account. -/
structure Graph (σ : Type) where
  account : String
  /-- Whether an answer has to be waited for, however soon it comes. -/
  waits : Bool := false
  /-- The contacts most related to the seeds of a query. -/
  related : Query → Action σ (List Suggestion)
  /-- Reinforce the tie between two contacts. -/
  reinforce : Contact → Contact → Reinforcement → Action σ Unit
  /-- One relation of the edge from one contact to another; the combined one if no name, or the
      empty one, is given. -/
  bond? : Contact → Contact → Option String → Action σ (Option Bond)
  /-- Take edges out. -/
  remove : Removal → Action σ Unit
  /-- Reinforce the ties between all of some contacts. -/
  clique : List Contact → Reinforcement → Action σ Unit

namespace Graph

variable {σ τ : Type}

/-- The name of the relation that is meant when a relation is asked for. -/
def relationName (name : Option String) : String :=
  Text.lower (if name.getD "" = "" then Channel.combinedName else name.getD "")

/-- A reinforcement that no graph of the account accepts. -/
def check (account : String) (r : Reinforcement) : Except Failure Unit :=
  if r.multiplier < 1 then .error (.multiplierTooSmall account) else .ok ()

/-! ## Cliques -/

/-- Every two members of a list, the earlier one first, in order. -/
def pairs {α : Type} : List α → List (α × α)
  | [] => []
  | a :: rest => rest.map (a, ·) ++ pairs rest

/-- Reinforce pairs one after the other, and count those that fail. A failure of another kind than
    a graph's own ends the run. -/
def reinforceAll (account : String) (reinforce : Contact → Contact → Reinforcement → Action σ Unit)
    (r : Reinforcement) : List (Contact × Contact) → Action σ Nat
  | [] => return 0
  | (a, b) :: rest => do
    match ← Action.attempt (reinforce a b r) with
    | .ok () => reinforceAll account reinforce r rest
    | .error f =>
      if f.isGraphFailure then
        Action.note (.pairFailed account r.channel.name)
        return (← reinforceAll account reinforce r rest) + 1
      else throw f

/-- Reinforce every pair of a list of contacts. -/
def reinforceClique (account : String)
    (reinforce : Contact → Contact → Reinforcement → Action σ Unit) (contacts : List Contact)
    (r : Reinforcement) : Action σ Unit := do
  Action.ofExcept (check account r)
  let failed ← reinforceAll account reinforce r (pairs contacts)
  if failed ≠ 0 then throw (.cliqueIncomplete failed r.channel.name account)

/-- The graph, stored in a part of a larger state. -/
def within (read : τ → σ) (write : σ → τ → τ) (g : Graph σ) : Graph τ where
  account := g.account
  waits := g.waits
  related q := (g.related q).within read write
  reinforce a b r := (g.reinforce a b r).within read write
  bond? a b name := (g.bond? a b name).within read write
  remove what := (g.remove what).within read write
  clique contacts r := (g.clique contacts r).within read write

end Graph

end Rapport
