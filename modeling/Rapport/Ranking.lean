import Rapport.Contact
import Rapport.Keyed

set_option autoImplicit false

/-! # Ranking

How the edges found by a query become its answer: the weights of the edges that lead to one contact
are added up, the contacts are put in order, heaviest first and equal ones by key, and each is named
by its address.

`Ranking.sorted` puts all contacts in order. `Ranking.best` goes through them once and keeps no more
than are wanted. -/

namespace Rapport

/-- A related contact and the weight of its ties to the contacts asked about. -/
structure Suggestion where
  name : String
  weight : Int
deriving DecidableEq, Repr

namespace Ranking

/-- The weights of a list of edges, added up for each contact they lead to. -/
def totals (edges : List (String × Int)) : Keyed String Int :=
  edges.foldl (fun m e => m.upsert e.1 fun w => w.getD 0 + e.2) .empty

/-- Whether one contact is listed no later than another: it is heavier, or as heavy and its key is
    no greater. -/
def before (x y : String × Int) : Bool := decide (y.2 < x.2) || (x.2 == y.2 && decide (x.1 ≤ y.1))

/-- The contacts in order. -/
def sorted (contacts : List (String × Int)) : List (String × Int) := contacts.mergeSort before

/-- Put a contact into its place in an ordered list. -/
def place (x : String × Int) : List (String × Int) → List (String × Int)
  | [] => [x]
  | y :: rest => if before x y then x :: y :: rest else y :: place x rest

/-- The first `k` contacts in order, found in one pass that keeps `k` contacts at a time. -/
def best (k : Nat) (contacts : List (String × Int)) : List (String × Int) :=
  contacts.foldl (fun kept x => (place x kept).take k) []

/-- A contact as it is answered, under its address. -/
def suggestion (x : String × Int) : Suggestion := ⟨Contact.addressOfKey x.1, x.2⟩

/-- Rank the contacts that a list of edges leads to. Only the first `limit` are kept if it is
    positive. -/
def rank (edges : List (String × Int)) (limit : Int) : List Suggestion :=
  let contacts := (totals edges).entries
  let chosen := if 0 < limit then best limit.toNat contacts else sorted contacts
  chosen.map suggestion

end Ranking

end Rapport
