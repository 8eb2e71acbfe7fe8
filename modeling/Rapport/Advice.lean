import Rapport.Registry

set_option autoImplicit false

/-! # Advice

The way in for those who ask which contacts are related: the query goes to the account's graph, is
given the time that the settings allow, and leaves a trace in the journal. -/

namespace Rapport.Advice

/-- The time that a query is given. A time of zero or less is no limit. -/
def timeLimit (settings : Settings) : Option Seconds :=
  settings.queryTimeout.filter (!·.isNonpositive)

/-- Ask a graph within a limit of time. A graph that has to be waited for does not answer within an
    instant, and is left as it is. -/
def ask (g : Graph Deployment) (limit : Option Seconds) (q : Query) :
    Action Deployment (Except Failure (List Suggestion)) :=
  if g.waits && limit.any (·.isInstant) then pure (.error .stalled) else (g.related q).attempt

/-- The contacts most related to the seeds of a query. A query that never ends is cut off when its
    time is up; without a limit it is not. -/
def related (settings : Settings) (account : String) (q : Query) :
    Action Deployment (List Suggestion) := do
  let g ← Registry.graph account
  let limit := timeLimit settings
  if limit.any (·.isTooLarge) then throw .limitTooLarge
  match ← ask g limit q with
  | .ok results =>
    Action.note (.answered account q.relation q.contacts.length results.length)
    return results
  | .error f =>
    if f.kind = .timeout ∧ ¬(f = .stalled ∧ limit = none) then
      Action.note (.timedOut account limit)
      throw (.queryTimedOut limit account)
    else throw f

end Rapport.Advice
