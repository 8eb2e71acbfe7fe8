import Rapport.Ascending
import Rapport.Channel
import Rapport.Contact

set_option autoImplicit false

/-! # Queries

A query asks which contacts are most related to some given ones, its seeds: through which channel,
from which weight on, reinforced since when, and how many of them. -/

namespace Rapport

/-- A question for the contacts most related to others. -/
structure Query where
  /-- The addresses asked about. -/
  contacts : List String
  /-- The data source that the addresses are seen through. -/
  source : Option String := none
  /-- The channel whose relation is ranked; the combined one if absent. -/
  channel : Option Channel := none
  /-- Whether the combined relation is ranked whatever the channel. -/
  allChannels : Bool := false
  /-- The least weight of a relation that counts. -/
  lowerBound : Nat := 1
  /-- The earliest last reinforcement of a relation that counts, if any does not. -/
  updateCutoff : Option Int := none
  /-- How many contacts are wanted at most; all if zero. -/
  limit : Nat := 0
deriving DecidableEq, Repr

namespace Query

/-- The name of the relation that is ranked. -/
def relation (q : Query) : String :=
  match q.channel with
  | some channel => if q.allChannels then Channel.combinedName else channel.name
  | none => Channel.combinedName

/-- The contacts asked about, in the order given. -/
def seedContacts (q : Query) : List Contact := q.contacts.map (⟨·, q.source⟩)

/-- The keys of the contacts asked about, ascending and each once. -/
def seeds (q : Query) : List String := Ascending.ofList (q.seedContacts.map Contact.key)

end Query

end Rapport
