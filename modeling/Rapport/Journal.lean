import Rapport.Failure

set_option autoImplicit false

/-! # The journal

What an installation writes down while it runs. An `Entry` is one thing that happened; `event`,
`level` and `fields` say how it is written. -/

namespace Rapport

namespace Journal

/-- How urgent an entry is. -/
inductive Level
  | debug
  | info
  | warning
  | error
deriving DecidableEq, Repr

/-- The word for a level. -/
def Level.word : Level → String
  | debug => "debug"
  | info => "info"
  | warning => "warning"
  | error => "error"

/-- The value of a field of an entry. -/
inductive Field
  | text (s : String)
  | integer (n : Int)
  | seconds (t : Option Seconds)
  /-- A mark that the failure behind the entry is on record. -/
  | mark
deriving DecidableEq

/-- How many things a removal took out: whole edges, or single relations of edges. -/
inductive Count
  | edges (n : Nat)
  | rows (n : Nat)
deriving DecidableEq, Repr

/-- Something worth writing down. -/
inductive Entry
  /-- A backend has become the active one. -/
  | configured (backend : BackendKind) (partition : Partition)
  /-- New settings were of no use, and the backend stays as it is. -/
  | reconfigureFailed (backend : BackendKind)
  /-- The active backend is shut down and no other takes its place. -/
  | registryShutDown
  /-- A backend that keeps graphs in memory is shut down. -/
  | memoryShutDown
  /-- A backend that keeps graphs in a database is shut down. -/
  | databaseShutDown (dialect : String)
  /-- An edge table can be used from now on. -/
  | tableReady (table : String)
  /-- Mail came for an account while no backend was active. -/
  | mailIgnored (account : String)
  /-- The settings give a clique size that no clique has, and another is used. -/
  | cliqueSizeInvalid (size : Int)
  /-- A recipient list is too long to tie its members to one another. -/
  | cliqueTooLarge (account channel : String) (size : Nat) (limit : Int)
  /-- A pair of a clique could not be reinforced. -/
  | pairFailed (account channel : String)
  /-- A clique could not be reinforced as a whole. -/
  | cliqueFailed (account channel : String) (size : Nat)
  /-- The tie from a sender to a recipient could not be reinforced. -/
  | senderFailed (account channel : String)
  /-- It could not be found out whether an address is the account's own. -/
  | ownershipUnresolved (account : String)
  /-- A graph took edges out. -/
  | removed (what : Removal) (account : String) (count : Count)
  /-- Upkeep had edges taken out. -/
  | upkeep (what : Removal) (account : String)
  /-- A query was answered. -/
  | answered (account relation : String) (seeds results : Nat)
  /-- A query took too long. -/
  | timedOut (account : String) (limit : Option Seconds)
deriving DecidableEq

namespace Entry

/-- The name of what happened. -/
def event : Entry → String
  | configured _ _ => "contact_graph_configured"
  | reconfigureFailed _ => "contact_graph_reconfigure_failed"
  | registryShutDown => "contact_graph_registry_shutdown"
  | memoryShutDown => "memory_graph_factory_shutdown"
  | databaseShutDown _ => "sql_graph_factory_shutdown"
  | tableReady _ => "edge_table_ready"
  | mailIgnored _ => "contact_affinity_not_configured"
  | cliqueSizeInvalid _ => "invalid_max_clique_size"
  | cliqueTooLarge _ _ _ _ => "clique_too_large"
  | pairFailed _ _ => "clique_edge_update_failed"
  | cliqueFailed _ _ _ => "clique_update_failed"
  | senderFailed _ _ => "sender_affinity_update_failed"
  | ownershipUnresolved _ => "self_exclusion_failed"
  | removed (.contact _) _ _ => "node_deleted"
  | removed (.between _ _) _ _ => "edge_deleted"
  | removed (.source _) _ _ => "data_source_deleted"
  | removed .everything _ _ => "graph_deleted"
  | removed (.stale _) _ _ => "edges_pruned"
  | upkeep (.contact _) _ => "contact_node_deleted"
  | upkeep (.between _ _) _ => "contact_edge_deleted"
  | upkeep (.source _) _ => "contact_data_source_deleted"
  | upkeep .everything _ => "contact_graph_deleted"
  | upkeep (.stale _) _ => "contact_edges_pruned"
  | answered _ _ _ _ => "related_contacts_query"
  | timedOut _ _ => "related_contacts_timeout"

/-- How urgent it is. -/
def level : Entry → Level
  | configured _ _ | registryShutDown | memoryShutDown | databaseShutDown _ | tableReady _
  | upkeep _ _ => .info
  | mailIgnored _ | cliqueTooLarge _ _ _ _ | pairFailed _ _ | ownershipUnresolved _ => .warning
  | reconfigureFailed _ | cliqueSizeInvalid _ | cliqueFailed _ _ _ | senderFailed _ _
  | timedOut _ _ => .error
  | removed _ _ _ | answered _ _ _ _ => .debug

/-- The field that tells what a removal was aimed at, where the journal keeps it. -/
def target : Removal → List (String × Field)
  | .source name => [("data_source_id", .text name)]
  | .stale cutoff => [("update_cutoff", .integer cutoff)]
  | .contact _ | .between _ _ | .everything => []

/-- How much a removal took out. -/
def extent : Count → String × Field
  | .edges n => ("edges_removed", .integer n)
  | .rows n => ("rows_removed", .integer n)

/-- What is written down about it. -/
def fields : Entry → List (String × Field)
  | configured backend partition =>
    [("backend", .text backend.word), ("index_type", .text partition.word)]
  | reconfigureFailed backend => [("backend", .text backend.word), ("exc_info", .mark)]
  | registryShutDown | memoryShutDown => []
  | databaseShutDown dialect => [("dialect", .text dialect)]
  | tableReady table => [("table", .text table)]
  | mailIgnored account => [("account_id", .text account)]
  | cliqueSizeInvalid size =>
    [("value", .integer size), ("default", .integer Settings.defaultCliqueSize)]
  | cliqueTooLarge account channel size limit =>
    [("account_id", .text account), ("edge_type", .text channel), ("size", .integer size),
      ("max_clique_size", .integer limit)]
  | pairFailed account channel | senderFailed account channel =>
    [("account_id", .text account), ("edge_type", .text channel), ("exc_info", .mark)]
  | cliqueFailed account channel size =>
    [("account_id", .text account), ("edge_type", .text channel), ("size", .integer size),
      ("exc_info", .mark)]
  | ownershipUnresolved account => [("account_id", .text account), ("exc_info", .mark)]
  | removed what account count => ("account_id", .text account) :: extent count :: target what
  | upkeep what account => ("account_id", .text account) :: target what
  | answered account relation seeds results =>
    [("account_id", .text account), ("edge_type", .text relation), ("seeds", .integer seeds),
      ("results", .integer results)]
  | timedOut account limit => [("account_id", .text account), ("timeout", .seconds limit)]

end Entry

end Journal

end Rapport
