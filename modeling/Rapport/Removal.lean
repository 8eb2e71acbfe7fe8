import Rapport.Contact

set_option autoImplicit false

/-! # Removals

What can be taken out of an account's graph: every edge of a contact, the edges between two
contacts, every edge of a data source, everything, or the edges that have not been reinforced for
too long. -/

namespace Rapport

/-- A set of edges to take out of a graph. -/
inductive Removal
  /-- The edges that touch a contact. -/
  | contact (c : Contact)
  /-- The edges between two contacts, in both directions. -/
  | between (a b : Contact)
  /-- The edges that touch a contact of a data source. -/
  | source (name : String)
  /-- All edges. -/
  | everything
  /-- The edges last reinforced at or before a time, in milliseconds of the epoch. -/
  | stale (cutoff : Int)
deriving DecidableEq, Repr

end Rapport
