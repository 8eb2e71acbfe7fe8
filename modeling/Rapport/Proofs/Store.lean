import Rapport.Proofs.Keyed
import Rapport.Store

set_option autoImplicit false

/-! # What the steps of a store do to its edges

`Store.record?` is the edge from one contact to another with all its relations, and `Store.bond?`
one relation of it. Each step of a store is described by what it does to these two views:
`record?_reinforce` and `bond?_reinforce` for a reinforcement as a whole, `record?_remove` and
`bond?_remove` for a removal. Everything that is said about runs is built on these. -/

namespace Rapport

namespace Reinforcement

/-- The edges of a reinforcement: the one from the first contact to the second, and the one back
    unless it counts in one direction only. -/
theorem mem_edges {r : Reinforcement} {a b : Contact} {origin target : String} :
    (origin, target) ∈ r.edges a b ↔
      (origin = a.key ∧ target = b.key)
        ∨ (r.directed = false ∧ origin = b.key ∧ target = a.key) := by
  unfold edges
  by_cases hd : r.directed = true
  · simp [hd]
  · rw [Bool.not_eq_true] at hd
    by_cases hk : a.key = b.key
    · simp [hd, hk]
    · by_cases hlt : a.key < b.key
      · simp [hd, hk, hlt]
      · simp [hd, hk, hlt, or_comm]

theorem nodup_edges (r : Reinforcement) (a b : Contact) : (r.edges a b).Nodup := by
  unfold edges
  split
  · simp
  · next h =>
    have hne : a.key ≠ b.key := by
      intro hk
      simp [hk] at h
    split <;> simp [hne, Ne.symm hne]

theorem mem_relations {r : Reinforcement} {relation : String} :
    relation ∈ r.relations ↔ relation = r.channel.name ∨ relation = Channel.combinedName := by
  simp [relations]

theorem nodup_relations {r : Reinforcement} (h : r.channel.name ≠ Channel.combinedName) :
    r.relations.Nodup := by
  simp [relations, h]

end Reinforcement

namespace Store

/-! ## Views -/

/-- The edge from one contact to another, with all its relations. -/
def record? (s : Store) (account origin target : String) : Option Bonds :=
  (s.edges account origin).find? target

theorem bond?_eq (s : Store) (account origin target relation : String) :
    s.bond? account origin target relation
      = (s.record? account origin target).bind (·.find? relation) := rfl

@[simp] theorem record?_empty (account origin target : String) :
    ({} : Store).record? account origin target = none := rfl

@[simp] theorem bond?_empty (account origin target relation : String) :
    ({} : Store).bond? account origin target relation = none := rfl

/-! ## Changing edges -/

theorem record?_alterEdge (s : Store) (account origin target : String) (f : Bonds → Bonds)
    (account' origin' target' : String) :
    (s.alterEdge account origin target f).record? account' origin' target'
      = if account' = account ∧ (origin', target') = (origin, target) then
          some (f ((s.record? account origin target).getD .empty))
        else s.record? account' origin' target' := by
  unfold record? edges alterEdge
  rw [Keyed.find?_upsert]
  by_cases hnode : (account', origin') = (account, origin)
  · rw [if_pos hnode, Option.getD_some, Keyed.find?_upsert]
    simp only [Prod.mk.injEq] at hnode
    obtain ⟨rfl, rfl⟩ := hnode
    by_cases ht : target' = target
    · simp [ht]
    · simp [ht]
  · rw [if_neg hnode, if_neg]
    rintro ⟨rfl, heq⟩
    simp only [Prod.mk.injEq] at heq
    exact hnode (by rw [heq.1])

/-- Changing some edges of an account, none of them twice, changes just these. -/
theorem record?_foldl_alterEdge (account : String) (f : Bonds → Bonds)
    {es : List (String × String)} (hes : es.Nodup) (s : Store)
    (account' origin target : String) :
    (es.foldl (fun s e => s.alterEdge account e.1 e.2 f) s).record? account' origin target
      = if account' = account ∧ (origin, target) ∈ es then
          some (f ((s.record? account' origin target).getD .empty))
        else s.record? account' origin target := by
  induction es generalizing s with
  | nil => simp
  | cons e rest ih =>
    obtain ⟨he, hrest⟩ := List.nodup_cons.1 hes
    rw [List.foldl_cons, ih hrest, record?_alterEdge]
    by_cases ha : account' = account
    · subst ha
      by_cases hmem : (origin, target) = e
      · subst hmem
        simp [he]
      · simp [hmem]
    · simp [ha]

/-! ## Reinforcing -/

/-- The relations of an edge after a reinforcement has written it. -/
def grownBonds (r : Reinforcement) (bonds : Bonds) : Bonds :=
  r.relations.foldl (fun m k => m.upsert k fun b => (b.getD {}).reinforced r.amount r.timestamp)
    (r.relations.foldl (fun m k => m.upsert k fun b => b.getD {}) bonds)

theorem find?_grownBonds {r : Reinforcement} (hr : r.channel.name ≠ Channel.combinedName)
    (bonds : Bonds) (relation : String) :
    (grownBonds r bonds).find? relation
      = if relation ∈ r.relations then
          some (((bonds.find? relation).getD {}).reinforced r.amount r.timestamp)
        else bonds.find? relation := by
  rw [grownBonds, Keyed.find?_foldl_upsert_of_nodup _ (Reinforcement.nodup_relations hr),
    Keyed.find?_foldl_ensure]
  by_cases hk : relation ∈ r.relations
  · simp [hk]
  · simp [hk]

theorem reinforce_eq (s : Store) (account : String) (a b : Contact) (r : Reinforcement) :
    s.reinforce account a b r
      = (r.edges a b).foldl
          (fun s e => s.alterEdge account e.1 e.2 fun bonds =>
            r.relations.foldl
              (fun m k => m.upsert k fun b => (b.getD {}).reinforced r.amount r.timestamp) bonds)
          ((r.edges a b).foldl
            (fun s e => s.alterEdge account e.1 e.2 fun bonds =>
              r.relations.foldl (fun m k => m.upsert k fun b => b.getD {}) bonds) s) := by
  rw [reinforce, run, reinforcing, List.foldl_append, List.foldl_map, List.foldl_map]
  rfl

/-- A reinforcement writes its edges and leaves all others as they are. -/
theorem record?_reinforce (s : Store) (account : String) (a b : Contact) (r : Reinforcement)
    (account' origin target : String) :
    (s.reinforce account a b r).record? account' origin target
      = if account' = account ∧ (origin, target) ∈ r.edges a b then
          some (grownBonds r ((s.record? account' origin target).getD .empty))
        else s.record? account' origin target := by
  have hes := r.nodup_edges a b
  rw [reinforce_eq, record?_foldl_alterEdge _ _ hes, record?_foldl_alterEdge _ _ hes]
  by_cases h : account' = account ∧ (origin, target) ∈ r.edges a b
  · simp only [if_pos h, Option.getD_some, grownBonds]
  · simp only [if_neg h]

/-- A reinforcement adds its amount to the relations that it names, on the edges that it writes. -/
theorem bond?_reinforce (s : Store) (account : String) (a b : Contact) {r : Reinforcement}
    (hr : r.channel.name ≠ Channel.combinedName) (account' origin target relation : String) :
    (s.reinforce account a b r).bond? account' origin target relation
      = if account' = account ∧ (origin, target) ∈ r.edges a b ∧ relation ∈ r.relations then
          some (((s.bond? account' origin target relation).getD {}).reinforced r.amount r.timestamp)
        else s.bond? account' origin target relation := by
  rw [bond?_eq, bond?_eq, record?_reinforce]
  by_cases h : account' = account ∧ (origin, target) ∈ r.edges a b
  · rw [if_pos h, Option.bind_some, find?_grownBonds hr]
    cases hrec : s.record? account' origin target with
    | none => simp [h]
    | some bonds => simp [h]
  · rw [if_neg h, if_neg fun h' => h ⟨h'.1, h'.2.1⟩]

/-! ## Removing -/

theorem edges_remove (s : Store) (account : String) (p : String → String → Bonds → Bool)
    (account' origin target : String) :
    ((s.remove account p).edges account' origin).find? target
      = ((s.edges account' origin).filter fun t bonds =>
          !(account' == account && p origin t bonds)).find? target := by
  unfold edges remove
  rw [Keyed.find?_filterMap]
  cases hnode : s.adjacency.find? (account', origin) with
  | none => rfl
  | some edges =>
    by_cases ha : account' = account
    · subst ha
      simp only [Option.bind_some, if_true, Option.getD_some, beq_self_eq_true, Bool.true_and]
      by_cases hkept : (edges.filter fun t bonds => !p origin t bonds).isEmpty = true
      · rw [if_pos hkept, Option.getD_none, Keyed.find?_empty,
          Keyed.find?_eq_none_of_isEmpty hkept]
      · rw [if_neg hkept, Option.getD_some]
    · have hb : (account' == account) = false := by simpa using ha
      simp only [Option.bind_some, if_neg ha, Option.getD_some, hb, Bool.false_and, Bool.not_false,
        Keyed.find?_filter]
      cases edges.find? target <;> rfl

/-- A removal takes out the edges of its account that satisfy the condition, and no others. -/
theorem record?_remove (s : Store) (account : String) (p : String → String → Bonds → Bool)
    (account' origin target : String) :
    (s.remove account p).record? account' origin target
      = (s.record? account' origin target).filter fun bonds =>
          !(account' == account && p origin target bonds) := by
  rw [record?, edges_remove, Keyed.find?_filter, record?]

theorem bond?_remove (s : Store) (account : String) (p : String → String → Bonds → Bool)
    (account' origin target relation : String) :
    (s.remove account p).bond? account' origin target relation
      = if account' = account ∧ (s.record? account' origin target).any (p origin target) then none
        else s.bond? account' origin target relation := by
  rw [bond?_eq, bond?_eq, record?_remove]
  cases hrec : s.record? account' origin target with
  | none => simp
  | some bonds =>
    by_cases ha : account' = account
    · subst ha
      by_cases hp : p origin target bonds = true
      · simp [Option.filter, hp]
      · simp [Option.filter, hp]
    · simp [Option.filter, ha]

/-- Two removals from an account, one after the other, are one: of the edges that either takes. -/
theorem remove_remove (s : Store) (account : String) (p q : String → String → Bonds → Bool) :
    (s.remove account p).remove account q
      = s.remove account fun origin target bonds =>
          p origin target bonds || q origin target bonds := by
  unfold remove
  rw [Keyed.filterMap_filterMap]
  congr 2
  funext node edges
  by_cases hnode : node.1 = account
  · have hkept : (edges.filter fun target bonds => !p node.2 target bonds).filter
          (fun target bonds => !q node.2 target bonds)
        = edges.filter fun target bonds => !(p node.2 target bonds || q node.2 target bonds) := by
      rw [Keyed.filter_filter]
      simp only [Bool.not_or]
    simp only [if_pos hnode, ← hkept]
    by_cases hempty : (edges.filter fun target bonds => !p node.2 target bonds).isEmpty = true
    · -- The contact is dropped by the first removal already.
      rw [if_pos hempty, Option.bind_none, if_pos]
      rw [Keyed.isEmpty, Keyed.entries_filter, List.isEmpty_iff.1 hempty]
      rfl
    · rw [if_neg hempty, Option.bind_some]
  · simp only [if_neg hnode, Option.bind_some]

end Store

end Rapport
