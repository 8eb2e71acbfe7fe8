import Rapport.Graph.Basic

set_option autoImplicit false

/-! # Graphs in memory

The contact graph of an account in a `Store`. A query takes a snapshot of the edges that leave each
seed, seed by seed, and ranks what they contribute. -/

namespace Rapport

namespace Store

/-- What one snapshot of edges contributes to the answer of a query: the edges that lead away from
    the seeds and whose relation is heavy and recent enough. -/
def contributions (q : Query) (snapshot : List (String × Bonds)) : List (String × Int) :=
  snapshot.filterMap fun (target, bonds) =>
    if q.seeds.contains target then none
    else match bonds.find? q.relation with
      | none => none
      | some b =>
        if b.weight < q.lowerBound then none
        else match q.updateCutoff with
          | some cutoff => if b.updatedAt < cutoff then none else some (target, b.weight)
          | none => some (target, b.weight)

/-- The answer of a query. -/
def related (s : Store) (account : String) (q : Query) : List Suggestion :=
  Ranking.rank (q.seeds.flatMap fun seed => contributions q (s.outgoing account seed)) q.limit

end Store

namespace Graph

/-- Reinforce a pair of contacts in a store. -/
def reinforceInMemory (account : String) (a b : Contact) (r : Reinforcement) :
    Action Store Unit := do
  Action.ofExcept (check account r)
  Action.update (·.reinforce account a b r)

/-- The graph of an account in a store. -/
def inMemory (account : String) : Graph Store where
  account := account
  related q := return (← Action.state).related account q
  reinforce := reinforceInMemory account
  bond? a b name := return (← Action.state).bond? account a.key b.key (relationName name)
  remove what := do
    let count := (← Action.state).countMatching account what.takes
    Action.update (·.remove account what.takes)
    Action.note (.removed what account (.edges count))
  clique := reinforceClique account (reinforceInMemory account)

end Graph

end Rapport
