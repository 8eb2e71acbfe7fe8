import Rapport.Numeral.Shortest

set_option autoImplicit false

/-! # Settings

What an installation can be set to: the backend that stores the graphs and where it is found, how
the edges of different accounts are kept apart, the largest recipient list that counts as a clique,
the time a query may take, and what the names of the edge tables begin with. -/

namespace Rapport

/-- Where graphs are stored. -/
inductive BackendKind
  | memory
  | sql
deriving DecidableEq, Repr

/-- The word for a kind of backend. -/
def BackendKind.word : BackendKind → String
  | memory => "memory"
  | sql => "sql"

/-- How the edges of different accounts are kept apart in a database: in a table for each account,
    or in one table for all. -/
inductive Partition
  | account
  | combined
deriving DecidableEq, Repr

/-- The word for a partition. -/
def Partition.word : Partition → String
  | account => "account"
  | combined => "combined"

/-- A number of seconds. -/
inductive Seconds
  | whole (n : Int)
  | real (d : Numeral.Binary64)
deriving DecidableEq

namespace Seconds

/-- Whether the time is zero or less. -/
def isNonpositive : Seconds → Bool
  | whole n => decide (n ≤ 0)
  | real d => d.isNonpositive

/-- Whether the time is over before anything can be waited for: it is below a tenth of a
    millisecond, or no number at all. -/
def isInstant : Seconds → Bool
  | whole n => decide (n ≤ 0)
  | real (.finite negative size) => negative || decide (10000 * size < 1)
  | real (.infinite negative) => negative
  | real (.nan _) => true

/-- Whether the time is a whole number that no double comes near. -/
def isTooLarge : Seconds → Bool
  | whole n =>
    match Numeral.Binary64.ofNat n.natAbs with
    | .infinite _ => true
    | _ => false
  | real _ => false

/-- The number as text. -/
def text : Seconds → String
  | whole n => toString n
  | real d => d.text

end Seconds

/-- The settings of an installation. -/
structure Settings where
  backend : BackendKind := .memory
  /-- The address of the database. -/
  backendUrl : Option String := none
  partition : Partition := .account
  /-- The largest recipient list whose members are all tied to one another. -/
  maxCliqueSize : Int := 10
  /-- How long a query may take; no limit if absent. -/
  queryTimeout : Option Seconds := some (.real (.ofNat 30))
  /-- What the name of every edge table begins with. -/
  tableStem : String := "contacts"
deriving DecidableEq

namespace Settings

/-- The clique size that is used where the settings give none, or none of any use. -/
def defaultCliqueSize : Int := 10

/-- What keeps the settings from being usable. -/
def problems (s : Settings) : List String :=
  (if s.backend = .sql ∧ s.backendUrl.getD "" = "" then
    ["CONTACT_AFFINITY_BACKEND_URL is required for the sql backend"] else [])
  ++ (if s.maxCliqueSize < 2 then ["CONTACT_AFFINITY_MAX_CLIQUE_SIZE must be at least 2"] else [])
  ++ (if s.tableStem = "" then ["CONTACT_AFFINITY_TABLE_PREFIX must not be empty"] else [])

/-- The same settings for another backend. The address is replaced even by none; the partition stays
    as it is unless another is given. -/
def withBackend (s : Settings) (backend : BackendKind) (url : Option String)
    (partition : Option Partition) : Settings :=
  { s with backend := backend, backendUrl := url, partition := partition.getD s.partition }

end Settings

end Rapport
