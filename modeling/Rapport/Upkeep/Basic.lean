import Rapport.Registry
import Rapport.Upkeep.Moment

set_option autoImplicit false

/-! # Upkeep

The way in for those who look after graphs: edges are taken out on request, or because they have not
been reinforced for too long. Failures go to whoever asked. -/

namespace Rapport.Upkeep

/-- Take edges out of an account's graph. -/
def remove (account : String) (what : Removal) : Action Deployment Unit := do
  (← Registry.graph account).remove what
  Action.note (.upkeep what account)

/-- The time before which an edge has been idle for too long, in milliseconds of the epoch. -/
def cutoff (now : Moment) (age : Span) : Except Failure Int := do
  (← now.minus age).milliseconds

/-- Take out the edges that have been idle for longer than a time, and tell the cutoff used. -/
def pruneOlderThan (account : String) (now : Moment) (age : Span) : Action Deployment Int := do
  let limit ← Action.ofExcept (cutoff now age)
  remove account (.stale limit)
  return limit

end Rapport.Upkeep
