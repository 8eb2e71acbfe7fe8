import Rapport.Channel
import Rapport.Contact

set_option autoImplicit false

/-! # Reinforcements

A reinforcement is what one event adds to the tie between two contacts: a channel, how many
messages' worth of it, when it happened, and whether it counts in one direction only. -/

namespace Rapport

/-- An increase of the tie between two contacts. -/
structure Reinforcement where
  channel : Channel
  /-- When it happened, in milliseconds of the epoch. -/
  timestamp : Int
  /-- How many times the weight of the channel is added; below one is refused. -/
  multiplier : Int := 1
  /-- Whether only the edge from the first contact to the second is written. -/
  directed : Bool := false
deriving DecidableEq, Repr

namespace Reinforcement

/-- The weight that is added to the channel's relation and to the combined one. -/
def amount (r : Reinforcement) : Int := r.multiplier * r.channel.weight

/-- The names of the relations that are written on an edge. -/
def relations (r : Reinforcement) : List String := [r.channel.name, Channel.combinedName]

/-- The directed edges that are written, by the keys of their ends, in ascending order. A contact
    with itself has one edge, written once. -/
def edges (r : Reinforcement) (a b : Contact) : List (String × String) :=
  if r.directed || a.key == b.key then [(a.key, b.key)]
  else if a.key < b.key then [(a.key, b.key), (b.key, a.key)]
  else [(b.key, a.key), (a.key, b.key)]

end Reinforcement

end Rapport
