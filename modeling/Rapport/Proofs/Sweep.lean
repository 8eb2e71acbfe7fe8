import Mathlib.Algebra.Ring.Nat
import Rapport.Proofs.Keyed.Part
import Rapport.Proofs.Store

set_option autoImplicit false

/-! # Taking edges out of an account

`Store.remove` says at once what is left of a store. A store that is swept (`Store.sweep`) comes to
the same: one after the other the nodes are visited that were there at first, the edges to be taken
out are picked from those that leave the node and are dropped one by one, and the node goes with the
last of them. `visit_eq` says what one visit does, and `sweep_eq` that a sweep leaves what `remove`
leaves and counts what `countMatching` counts.

What is left of the account is described by the list of its edges (`edgesOf_remove`), and how many
are gone by the length of that list (`countMatching_add_edgeCount`). So two removals take as many
edges as one that takes what either takes (`countMatching_remove`). -/

namespace Rapport

/-! ## Changing and dropping one key -/

namespace Keyed

variable {κ ν : Type} [DecidableEq κ]

/-- Put `f` of the value of a key in its place, or drop the key if `f` gives nothing. -/
def revise (m : Keyed κ ν) (k : κ) (f : ν → Option ν) : Keyed κ ν :=
  m.filterMap fun k' v => if k' = k then f v else some v

/-- The collection without a key. -/
def erase (m : Keyed κ ν) (k : κ) : Keyed κ ν := m.revise k fun _ => none

@[simp] theorem find?_revise (m : Keyed κ ν) (k k' : κ) (f : ν → Option ν) :
    (m.revise k f).find? k' = if k' = k then (m.find? k).bind f else m.find? k' := by
  rw [revise, find?_filterMap]
  by_cases hk : k' = k
  · subst hk
    simp only [if_true]
  · simp only [if_neg hk, Option.bind_fun_some]

theorem revise_congr {m : Keyed κ ν} {k : κ} {v : ν} (hv : m.find? k = some v)
    {f g : ν → Option ν} (h : f v = g v) : m.revise k f = m.revise k g := by
  refine filterMap_congr fun e he => ?_
  by_cases hk : e.1 = k
  · have hfound : m.find? e.1 = some e.2 := mem_entries.1 he
    rw [hk, hv, Option.some_inj] at hfound
    rw [if_pos hk, if_pos hk, ← hfound, h]
  · rw [if_neg hk, if_neg hk]

theorem revise_some {m : Keyed κ ν} {k : κ} {v : ν} (hv : m.find? k = some v)
    {f : ν → Option ν} (h : f v = some v) : m.revise k f = m := by
  rw [revise_congr hv (g := some) h, revise]
  exact (filterMap_congr fun e _ => ite_self _).trans m.filterMap_some

omit [DecidableEq κ] in
/-- No other entry has the key of one that has been picked. -/
theorem mem_keys_filter (m : Keyed κ ν) (q : κ × ν → Bool) {e : κ × ν} (he : e ∈ m.entries) :
    e.1 ∈ (m.entries.filter q).map Prod.fst ↔ q e = true := by
  refine ⟨fun hmem => ?_, fun hq => List.mem_map.2 ⟨e, List.mem_filter.2 ⟨he, hq⟩, rfl⟩⟩
  obtain ⟨e', he', hkey⟩ := List.mem_map.1 hmem
  obtain ⟨hentry, hq⟩ := List.mem_filter.1 he'
  rwa [List.inj_on_of_nodup_map m.distinct hentry he hkey] at hq

/-- Keys that are dropped one by one are filtered out. -/
theorem foldl_erase (ks : List κ) (m : Keyed κ ν) :
    ks.foldl erase m = m.filter fun k _ => decide (k ∉ ks) := by
  induction ks generalizing m with
  | nil =>
    simp only [List.foldl_nil, List.not_mem_nil, not_false_eq_true, decide_true]
    exact m.filterMap_some.symm
  | cons k rest ih =>
    have hone : m.erase k = m.filter fun k' _ => decide (k' ≠ k) :=
      filterMap_congr fun e _ => by
        by_cases hk : e.1 = k
        · simp [hk]
        · simp [hk]
    rw [List.foldl_cons, ih, hone, filter_filter]
    refine filter_congr fun e _ => ?_
    simp [List.mem_cons, not_or]

end Keyed

namespace Store

variable (account : String) (p : String → String → Bonds → Bool)

/-! ## Sweeping -/

/-- What a removal leaves of the edges that leave a node. -/
def sift (node : String × String) (edges : Edges) : Option Edges :=
  if node.1 = account then
    let kept := edges.filter fun target bonds => !p node.2 target bonds
    if kept.isEmpty then none else some kept
  else some edges

theorem remove_eq (s : Store) : s.remove account p = ⟨s.adjacency.filterMap (sift account p)⟩ := rfl

/-- How many of the edges that leave a node are taken out. -/
def staleCount (node : String × String) (edges : Edges) : Nat :=
  if node.1 = account then edges.entries.countP fun e => p node.2 e.1 e.2 else 0

/-- Visit a node of a store from which some edges have been taken: if it is one of the account, drop
    the edges to be taken out, and the node itself if none are left. -/
def visit (t : Store × Nat) (node : String × String) : Store × Nat :=
  if node.1 = account then
    match t.1.adjacency.find? node with
    | none => t
    | some edges =>
      let stale := (edges.entries.filter fun e => p node.2 e.1 e.2).map Prod.fst
      let kept := stale.foldl Keyed.erase edges
      (⟨t.1.adjacency.revise node fun _ => if kept.isEmpty then none else some kept⟩,
        t.2 + stale.length)
  else t

/-- Visit all nodes that there are, and count the edges that are taken out. -/
def sweep (s : Store) : Store × Nat := s.adjacency.keys.foldl (visit account p) (s, 0)

variable {account p}

theorem visit_eq {t : Store × Nat} {node : String × String} {edges : Edges}
    (h : t.1.adjacency.find? node = some edges) :
    visit account p t node
      = (⟨t.1.adjacency.revise node (sift account p node)⟩,
          t.2 + staleCount account p node edges) := by
  by_cases hnode : node.1 = account
  · have hkept : ((edges.entries.filter fun e => p node.2 e.1 e.2).map Prod.fst).foldl
          Keyed.erase edges
        = edges.filter fun target bonds => !p node.2 target bonds := by
      rw [Keyed.foldl_erase]
      refine Keyed.filter_congr fun e he => ?_
      have hmem := edges.mem_keys_filter (fun e => p node.2 e.1 e.2) he
      simp only [hmem, decide_not, Bool.decide_eq_true]
    simp only [visit, if_pos hnode, h, hkept, staleCount, List.length_map,
      List.countP_eq_length_filter]
    rw [Keyed.revise_congr h (g := sift account p node)]
    simp only [sift, if_pos hnode]
  · have hsift : sift account p node edges = some edges := if_neg hnode
    rw [visit, if_neg hnode, Keyed.revise_some h hsift, staleCount, if_neg hnode, Nat.add_zero]

/-- Visits to different nodes do not get in each other's way: each leaves of its node what a removal
    leaves of it, and adds to the count what that takes. -/
theorem foldl_visit {nodes : List (String × String)} (hnodes : nodes.Nodup) (t : Store × Nat)
    (hpresent : ∀ node ∈ nodes, ∃ edges, t.1.adjacency.find? node = some edges) :
    nodes.foldl (visit account p) t
      = (⟨t.1.adjacency.filterMap fun node edges =>
            if node ∈ nodes then sift account p node edges else some edges⟩,
          t.2 + (nodes.map fun node =>
            staleCount account p node ((t.1.adjacency.find? node).getD .empty)).sum) := by
  induction nodes generalizing t with
  | nil =>
    simp only [List.foldl_nil, List.not_mem_nil, if_false, Keyed.filterMap_some, List.map_nil,
      List.sum_nil, Nat.add_zero]
  | cons node rest ih =>
    obtain ⟨hnode, hrest⟩ := List.nodup_cons.1 hnodes
    obtain ⟨edges, hedges⟩ := hpresent node List.mem_cons_self
    let t' : Store × Nat := (⟨t.1.adjacency.revise node (sift account p node)⟩,
      t.2 + staleCount account p node edges)
    -- The nodes that are still to be visited are as they were.
    have hsame : ∀ node' ∈ rest, t'.1.adjacency.find? node' = t.1.adjacency.find? node' := by
      intro node' hnode'
      have hne : node' ≠ node := fun heq => hnode (heq ▸ hnode')
      rw [Keyed.find?_revise, if_neg hne]
    have hsum : (rest.map fun node' =>
          staleCount account p node' ((t'.1.adjacency.find? node').getD .empty))
        = rest.map fun node' =>
          staleCount account p node' ((t.1.adjacency.find? node').getD .empty) :=
      List.map_congr_left fun node' hnode' => by rw [hsame node' hnode']
    have hstore : t'.1.adjacency.filterMap (fun node' edges' =>
          if node' ∈ rest then sift account p node' edges' else some edges')
        = t.1.adjacency.filterMap fun node' edges' =>
          if node' ∈ node :: rest then sift account p node' edges' else some edges' := by
      show (t.1.adjacency.revise node (sift account p node)).filterMap _ = _
      rw [Keyed.revise, Keyed.filterMap_filterMap]
      refine Keyed.filterMap_congr fun e _ => ?_
      by_cases he : e.1 = node
      · rw [if_pos he, if_pos (he ▸ List.mem_cons_self), he]
        simp only [if_neg hnode, Option.bind_fun_some]
      · rw [if_neg he, Option.bind_some]
        simp only [List.mem_cons, he, false_or]
    have hpresent' : ∀ node' ∈ rest, ∃ edges', t'.1.adjacency.find? node' = some edges' := by
      intro node' hnode'
      rw [hsame node' hnode']
      exact hpresent node' (List.mem_cons_of_mem _ hnode')
    rw [List.foldl_cons, visit_eq hedges, ih hrest t' hpresent', hsum, hstore, List.map_cons,
      List.sum_cons, hedges, Option.getD_some, ← Nat.add_assoc]

/-- The edges to be taken out are those that are so at one node or another. -/
theorem countMatching_eq_sum (s : Store) :
    s.countMatching account p = (s.adjacency.keys.map fun node =>
      staleCount account p node ((s.adjacency.find? node).getD .empty)).sum := by
  rw [countMatching, edgesOf, List.countP_flatMap, Keyed.keys, List.map_map]
  refine congrArg List.sum (List.map_congr_left fun e he => ?_)
  have hfound : s.adjacency.find? e.1 = some e.2 := Keyed.mem_entries.1 he
  simp only [Function.comp_apply, hfound, Option.getD_some, staleCount]
  split
  · rw [List.countP_map]
    rfl
  · rfl

/-- A sweep leaves what `remove` leaves, and counts what `countMatching` counts. -/
theorem sweep_eq (s : Store) :
    s.sweep account p = (s.remove account p, s.countMatching account p) := by
  have hpresent : ∀ node ∈ s.adjacency.keys, ∃ edges, s.adjacency.find? node = some edges := by
    intro node hnode
    obtain ⟨e, he, rfl⟩ := List.mem_map.1 hnode
    exact ⟨e.2, Keyed.mem_entries.1 he⟩
  have hnodes : s.adjacency.keys.Nodup := s.adjacency.distinct
  rw [sweep, foldl_visit hnodes (s, 0) hpresent, countMatching_eq_sum, Nat.zero_add,
    remove_eq]
  congr 2
  refine Keyed.filterMap_congr fun e he => ?_
  exact if_pos (List.mem_map_of_mem he)

/-! ## What is left -/

/-- Where nothing is left of the edges of a node, none was to be kept. -/
theorem entries_sift {node : String × String} (h : node.1 = account) (edges : Edges) :
    ((sift account p node edges).getD .empty).entries
      = edges.entries.filter fun e => !p node.2 e.1 e.2 := by
  rw [sift, if_pos h, ← Keyed.entries_filter edges fun target bonds => !p node.2 target bonds]
  dsimp only
  split
  · next hempty => exact (List.isEmpty_iff.1 hempty).symm
  · rfl

/-- The edges of the account that are left are those that were not to be taken out, and they are as
    they were. -/
theorem edgesOf_remove (s : Store) :
    (s.remove account p).edgesOf account
      = (s.edgesOf account).filter fun edge => !p edge.1 edge.2.1 edge.2.2 := by
  rw [edgesOf, edgesOf, remove_eq]
  show (Keyed.filterMapIn (sift account p) s.adjacency.entries).flatMap _ = _
  induction s.adjacency.entries with
  | nil => rfl
  | cons e rest ih =>
    rw [List.flatMap_cons, List.filter_append, ← ih, Keyed.filterMapIn, Keyed.filterMapIn]
    by_cases hnode : e.1.1 = account
    · rw [if_pos hnode, List.filter_map]
      have hleft := entries_sift (p := p) hnode e.2
      cases hsift : sift account p e.1 e.2 with
      | none =>
        rw [hsift] at hleft
        rw [List.filterMap_cons_none (by rw [hsift]; rfl)]
        exact congrArg (List.map (fun edge => (e.1.2, edge.1, edge.2)) · ++ _) hleft
      | some kept =>
        rw [hsift] at hleft
        rw [List.filterMap_cons_some (by rw [hsift]; rfl), List.flatMap_cons, if_pos hnode]
        exact congrArg (List.map (fun edge => (e.1.2, edge.1, edge.2)) · ++ _) hleft
    · have hsift : sift account p e.1 e.2 = some e.2 := if_neg hnode
      rw [List.filterMap_cons_some (by rw [hsift]; rfl), List.flatMap_cons, if_neg hnode,
        List.filter_nil]

variable (account p) in
/-- The edges that are taken out are missing afterwards. -/
theorem countMatching_add_edgeCount (s : Store) :
    s.countMatching account p + (s.remove account p).edgeCount account = s.edgeCount account := by
  rw [countMatching, edgeCount, edgeCount, edgesOf_remove, ← List.countP_eq_length_filter,
    List.length_eq_countP_add_countP fun edge => p edge.1 edge.2.1 edge.2.2]
  simp

/-- No node of the account is left that no edge leaves. -/
theorem isEmpty_eq_false_of_mem_remove {s : Store} {e : (String × String) × Edges}
    (he : e ∈ (s.remove account p).adjacency.entries) (hnode : e.1.1 = account) :
    e.2.isEmpty = false := by
  have hfound : (s.remove account p).adjacency.find? e.1 = some e.2 := Keyed.mem_entries.1 he
  rw [remove_eq, Keyed.find?_filterMap, Option.bind_eq_some_iff] at hfound
  obtain ⟨edges, -, hsift⟩ := hfound
  rw [sift, if_pos hnode] at hsift
  dsimp only at hsift
  split at hsift
  · exact absurd hsift (by simp)
  · next hempty =>
    rw [← Option.some.inj hsift]
    exact Bool.eq_false_iff.2 hempty

/-- A removal from an account does not touch what is stored for others. -/
theorem part_remove (s : Store) :
    (s.remove account p).adjacency.part (fun node => node.1 != account)
      = s.adjacency.part fun node => node.1 != account := by
  rw [remove_eq]
  refine Keyed.part_filterMap_of_some (fun node edges hnode => ?_) _
  exact if_neg (bne_iff_ne.1 hnode)

/-- What a removal takes is what either takes: the second has to do with the edges that the first
    left. -/
theorem countMatching_remove (s : Store) (q : String → String → Bonds → Bool) :
    s.countMatching account p + (s.remove account p).countMatching account q
      = s.countMatching account fun origin target bonds =>
          p origin target bonds || q origin target bonds := by
  have hfirst := s.countMatching_add_edgeCount account p
  have hsecond := (s.remove account p).countMatching_add_edgeCount account q
  have hboth := s.countMatching_add_edgeCount account fun origin target bonds =>
    p origin target bonds || q origin target bonds
  rw [remove_remove] at hsecond
  omega

/-- A sweep takes out of an account the edges that satisfy a condition, and nothing else: what is
    left are all the others, as they were, and whatever is stored for other accounts. It tells by
    how many edges the account has become poorer, and leaves no node that no edge leaves. Two
    sweeps, one after the other, leave the store and tell the number that one sweep does which takes
    out what either condition is true of. -/
theorem sweep_takes (s : Store) (account : String) (p q : String → String → Bonds → Bool) :
    let left := s.remove account p
    let taken := s.countMatching account p
    let either origin target bonds := p origin target bonds || q origin target bonds
    s.sweep account p = (left, taken)
      ∧ left.edgesOf account
        = (s.edgesOf account).filter (fun edge => !p edge.1 edge.2.1 edge.2.2)
      ∧ left.adjacency.part (fun node => node.1 != account)
        = s.adjacency.part (fun node => node.1 != account)
      ∧ (taken : Int) = s.edgeCount account - left.edgeCount account
      ∧ (∀ e ∈ left.adjacency.entries, e.1.1 = account → e.2.isEmpty = false)
      ∧ left.remove account q = s.remove account either
      ∧ taken + left.countMatching account q = s.countMatching account either := by
  intro left taken either
  have hcount : taken + left.edgeCount account = s.edgeCount account :=
    s.countMatching_add_edgeCount account p
  exact ⟨s.sweep_eq, s.edgesOf_remove, s.part_remove, by omega,
    fun e he hnode => isEmpty_eq_false_of_mem_remove he hnode, s.remove_remove account p q,
    s.countMatching_remove q⟩

/-- Two accounts, and a node of the first that no edge leaves. -/
def leftover : Store :=
  let edges := (({} : Store).ensure "x" "a" "b" ["to"]).ensure "x" "a" "c" ["cc"]
  ⟨(edges.ensure "y" "a" "b" ["to"]).adjacency.insert ("x", "d") .empty⟩

theorem sweep_takes_leftover :
    let toB := fun (_ target : String) (_ : Bonds) => target == "b"
    let fromA := fun (origin _ : String) (_ : Bonds) => origin == "a"
    let left := leftover.remove "x" toB
    (leftover.sweep "x" toB).2 = 1
      ∧ (left.edgesOf "x").map (fun edge => (edge.1, edge.2.1)) = [("a", "c")]
      ∧ (∃ e ∈ left.adjacency.entries, e.1 = ("x", "a") ∧ e.2.isEmpty = false)
      ∧ left.adjacency.keys = [("x", "a"), ("y", "a")]
      ∧ ((left.sweep "x" fromA).1.edgesOf "x") = []
      ∧ left.countMatching "x" fromA = 1 := by
  intro toB fromA left
  obtain ⟨hsweep, hedges, -, -, hnodes, hboth, hsum⟩ := sweep_takes leftover "x" toB fromA
  obtain ⟨hagain, -⟩ := sweep_takes left "x" fromA fromA
  have hone : leftover.countMatching "x" toB = 1 := by decide +kernel
  have htwo : leftover.countMatching "x"
      (fun origin target bonds => toB origin target bonds || fromA origin target bonds) = 2 := by
    decide +kernel
  refine ⟨?_, ?_, ?_, by decide +kernel, ?_, ?_⟩
  · rw [hsweep]
    exact hone
  · rw [hedges]
    decide +kernel
  · have hmem : (("x", "a"), left.edges "x" "a") ∈ left.adjacency.entries := by decide +kernel
    exact ⟨_, hmem, rfl, hnodes _ hmem rfl⟩
  · rw [hagain, hboth]
    decide +kernel
  · rw [hone, htwo] at hsum
    exact Nat.add_left_cancel hsum

end Store

end Rapport
