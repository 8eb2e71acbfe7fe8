import Rapport.Keyed
import Rapport.Query
import Rapport.Ranking
import Rapport.Reinforcement
import Rapport.Removal

set_option autoImplicit false

/-! # Stores

A `Store` holds the graphs of any number of accounts in memory. For each account and contact it
knows the edges that leave the contact, and on each edge the relations: per channel, and for all
channels together, the weight accumulated so far and the time of the last reinforcement.

A store changes in steps that nothing comes between. Reinforcing a pair takes several: first every
edge is created with the relations it lacks, then every edge is increased. `Store.apply` is the
effect of one step, `Store.reinforcing` the steps of a reinforcement. Several writers may have their
steps interleaved; a step that increases an edge creates what has been removed in between. -/

namespace Rapport

/-- What a relation of an edge has accumulated. -/
structure Bond where
  weight : Int := 0
  /-- The time of the last reinforcement, in milliseconds of the epoch. -/
  updatedAt : Int := 0
deriving DecidableEq, Repr

/-- The bond after a reinforcement: heavier by `amount`, and not older than `timestamp`. -/
def Bond.reinforced (b : Bond) (amount timestamp : Int) : Bond :=
  ⟨b.weight + amount, max b.updatedAt timestamp⟩

/-- The relations of an edge, by channel name. -/
abbrev Bonds : Type := Keyed String Bond

/-- The edges that leave a contact, by the key of the contact they lead to. -/
abbrev Edges : Type := Keyed String Bonds

/-- The graphs of any number of accounts: the edges by account and by the key of the contact they
    leave. -/
structure Store where
  adjacency : Keyed (String × String) Edges := .empty
deriving DecidableEq

instance : Inhabited Store := ⟨{}⟩

namespace Store

/-! ## Reading -/

/-- The edges that leave a contact. -/
def edges (s : Store) (account origin : String) : Edges :=
  (s.adjacency.find? (account, origin)).getD .empty

/-- The edges that leave a contact, as they are now. -/
def outgoing (s : Store) (account origin : String) : List (String × Bonds) :=
  (s.edges account origin).entries

/-- One relation of one edge. -/
def bond? (s : Store) (account origin target relation : String) : Option Bond := do
  (← (s.edges account origin).find? target).find? relation

/-- All edges of an account: the keys of their ends and their relations. -/
def edgesOf (s : Store) (account : String) : List (String × String × Bonds) :=
  s.adjacency.entries.flatMap fun e =>
    if e.1.1 = account then e.2.entries.map fun edge => (e.1.2, edge.1, edge.2) else []

/-- How many directed edges an account has. -/
def edgeCount (s : Store) (account : String) : Nat := (s.edgesOf account).length

/-! ## Writing -/

/-- Put `f` of the present relations of an edge in their place; an edge that is not there has
    none. -/
def alterEdge (s : Store) (account origin target : String) (f : Bonds → Bonds) : Store :=
  ⟨s.adjacency.upsert (account, origin) fun edges =>
    (edges.getD .empty).upsert target fun bonds => f (bonds.getD .empty)⟩

/-- Create the relations that an edge lacks, without weight. -/
def ensure (s : Store) (account origin target : String) (relations : List String) : Store :=
  s.alterEdge account origin target fun bonds =>
    relations.foldl (fun m r => m.upsert r fun b => b.getD {}) bonds

/-- Reinforce relations of an edge. A relation that is listed twice is reinforced twice. -/
def increment (s : Store) (account origin target : String) (relations : List String)
    (amount timestamp : Int) : Store :=
  s.alterEdge account origin target fun bonds =>
    relations.foldl (fun m r => m.upsert r fun b => (b.getD {}).reinforced amount timestamp) bonds

/-- Take out the edges of an account that satisfy `p`, which sees the keys of their ends and their
    relations. A contact that no edge leaves any more is dropped. -/
def remove (s : Store) (account : String) (p : String → String → Bonds → Bool) : Store :=
  ⟨s.adjacency.filterMap fun node edges =>
    if node.1 = account then
      let kept := edges.filter fun target bonds => !p node.2 target bonds
      if kept.isEmpty then none else some kept
    else some edges⟩

/-- How many edges of an account satisfy `p`. -/
def countMatching (s : Store) (account : String) (p : String → String → Bonds → Bool) : Nat :=
  (s.edgesOf account).countP fun edge => p edge.1 edge.2.1 edge.2.2

/-! ## Steps -/

/-- A change of a store that nothing comes between. -/
inductive Step
  | ensure (account origin target : String) (relations : List String)
  | increment (account origin target : String) (relations : List String) (amount timestamp : Int)
  | remove (account : String) (p : String → String → Bonds → Bool)

/-- The effect of one step. -/
def apply (s : Store) : Step → Store
  | .ensure account origin target relations => s.ensure account origin target relations
  | .increment account origin target relations amount timestamp =>
    s.increment account origin target relations amount timestamp
  | .remove account p => s.remove account p

/-- The effect of steps taken one after the other. -/
def run (s : Store) (steps : List Step) : Store := steps.foldl apply s

/-- The steps that reinforce a pair of contacts: all edges are created, then all are increased. -/
def reinforcing (account : String) (a b : Contact) (r : Reinforcement) : List Step :=
  (r.edges a b).map (fun e => .ensure account e.1 e.2 r.relations)
    ++ (r.edges a b).map fun e => .increment account e.1 e.2 r.relations r.amount r.timestamp

/-- The store after a pair of contacts has been reinforced. -/
def reinforce (s : Store) (account : String) (a b : Contact) (r : Reinforcement) : Store :=
  s.run (reinforcing account a b r)

end Store

/-! ## What a removal takes -/

/-- Whether an edge between two keys is one that a removal takes out. -/
def Removal.takes (what : Removal) (origin target : String) (bonds : Bonds) : Bool :=
  match what with
  | .contact c => origin == c.key || target == c.key
  | .between a b =>
    (origin == a.key && target == b.key) || (origin == b.key && target == a.key)
  | .source name =>
    (Contact.sourceTag name).toList.isPrefixOf origin.toList
      || (Contact.sourceTag name).toList.isPrefixOf target.toList
  | .everything => true
  | .stale cutoff =>
    match bonds.find? Channel.combinedName with
    | some b => decide (b.updatedAt ≤ cutoff)
    | none => false

end Rapport
