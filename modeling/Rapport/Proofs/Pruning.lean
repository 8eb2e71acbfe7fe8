import Rapport.Proofs.Consistency

set_option autoImplicit false

/-! # Pruning and what is still fresh

Pruning takes out the edges whose combined relation is no later than a cutoff; a query that asks for
what is fresh looks at the time of the relation that it ranks. In a consistent store no relation is
later than the combined one of its edge (`Bonds.AddUp.exists_combined_ge`), so a pruned edge has no
relation that is later than the cutoff, and a query that asks for later ones does not miss it
(`Store.Consistent.related_remove_stale`). `Graph.related_pruned` says this of all that graphs in
memory can come to. -/

namespace Rapport

/-! ## No relation is later than the combined one -/

theorem Bonds.AddUp.exists_combined_ge {bonds : Bonds} (h : bonds.AddUp) {relation : String}
    {b : Bond} (hb : bonds.find? relation = some b) :
    ∃ c, bonds.find? Channel.combinedName = some c ∧ b.updatedAt ≤ c.updatedAt := by
  obtain ⟨c, hc, _, hmax⟩ := h.combined
  refine ⟨c, hc, ?_⟩
  by_cases hrelation : relation = Channel.combinedName
  · rw [hrelation, hc, Option.some_inj] at hb
    exact Int.le_of_eq (congrArg Bond.updatedAt hb.symm)
  · have hmem : b.updatedAt ∈ bonds.typed.map (·.updatedAt) :=
      List.mem_map_of_mem (Bonds.mem_typed.2 ⟨relation, hrelation, hb⟩)
    exact (List.max?_eq_some_iff.1 hmax).2 _ hmem

/-- A relation of a stale edge is not later than the cutoff. -/
theorem Bonds.AddUp.updatedAt_le_of_stale {bonds : Bonds} (h : bonds.AddUp) {cutoff : Int}
    {origin target : String} (hstale : (Removal.stale cutoff).takes origin target bonds = true)
    {relation : String} {b : Bond} (hb : bonds.find? relation = some b) :
    b.updatedAt ≤ cutoff := by
  obtain ⟨c, hc, hle⟩ := h.exists_combined_ge hb
  simp only [Removal.takes, hc, decide_eq_true_eq] at hstale
  exact Int.le_trans hle hstale

namespace Store

/-! ## The edges that leave a contact -/

/-- A removal takes its edges from among those that leave a contact, and leaves the others in their
    order. -/
theorem outgoing_remove (s : Store) (account : String) (p : String → String → Bonds → Bool)
    (origin : String) :
    (s.remove account p).outgoing account origin
      = (s.outgoing account origin).filter fun e => !p origin e.1 e.2 := by
  unfold outgoing edges remove
  rw [Keyed.find?_filterMap]
  cases hnode : s.adjacency.find? (account, origin) with
  | none => rfl
  | some edges =>
    simp only [Option.bind_some, if_true, Option.getD_some]
    by_cases hkept : (edges.filter fun t bonds => !p origin t bonds).isEmpty = true
    · -- The contact is dropped: nothing of it was kept.
      have hnil := (Keyed.entries_filter edges _).symm.trans (List.isEmpty_iff.1 hkept)
      rw [if_pos hkept, Option.getD_none, hnil]
      rfl
    · rw [if_neg hkept, Option.getD_some, Keyed.entries_filter]

theorem record?_of_mem_outgoing {s : Store} {account origin : String} {e : String × Bonds}
    (he : e ∈ s.outgoing account origin) : s.record? account origin e.1 = some e.2 :=
  Keyed.mem_entries.1 he

/-! ## What a query counts -/

/-- What one edge contributes to the answer of a query. -/
def contribution (q : Query) (e : String × Bonds) : Option (String × Int) :=
  if q.seeds.contains e.1 then none
  else match e.2.find? q.relation with
    | none => none
    | some b =>
      if b.weight < q.lowerBound then none
      else match q.updateCutoff with
        | some cutoff => if b.updatedAt < cutoff then none else some (e.1, b.weight)
        | none => some (e.1, b.weight)

theorem contributions_eq (q : Query) (snapshot : List (String × Bonds)) :
    contributions q snapshot = snapshot.filterMap (contribution q) := rfl

/-- An edge whose relations are all too old contributes nothing. -/
theorem contribution_eq_none {q : Query} {fresh : Int} (hq : q.updateCutoff = some fresh)
    {e : String × Bonds} (hold : ∀ b, e.2.find? q.relation = some b → b.updatedAt < fresh) :
    contribution q e = none := by
  unfold contribution
  by_cases hseed : q.seeds.contains e.1 = true
  · rw [if_pos hseed]
  · rw [if_neg hseed]
    cases hb : e.2.find? q.relation with
    | none => rfl
    | some b => simp [hq, hold b hb]

/-- Edges that contribute nothing make no difference, whether they are left out or not. -/
theorem contributions_filter {q : Query} {snapshot : List (String × Bonds)}
    {keep : String × Bonds → Bool}
    (h : ∀ e ∈ snapshot, keep e = false → contribution q e = none) :
    contributions q (snapshot.filter keep) = contributions q snapshot := by
  induction snapshot with
  | nil => rfl
  | cons e rest ih =>
    have hrest : contributions q (rest.filter keep) = contributions q rest :=
      ih fun e' he' => h e' (List.mem_cons_of_mem _ he')
    simp only [contributions_eq] at hrest ⊢
    by_cases hkeep : keep e = true
    · rw [List.filter_cons_of_pos hkeep, List.filterMap_cons, List.filterMap_cons, hrest]
    · have hnone := h e List.mem_cons_self (Bool.eq_false_iff.2 hkeep)
      rw [List.filter_cons_of_neg hkeep, List.filterMap_cons, hnone, hrest]

/-! ## Pruning a consistent store -/

/-- No query for what is later than the cutoff misses what has been pruned. -/
theorem Consistent.related_remove_stale {s : Store} (hs : s.Consistent) (account : String)
    {q : Query} {cutoff fresh : Int} (hq : q.updateCutoff = some fresh) (hfresh : cutoff < fresh) :
    (s.remove account (Removal.stale cutoff).takes).related account q = s.related account q := by
  unfold related
  congr 1
  refine List.flatMap_congr fun seed _ => ?_
  rw [outgoing_remove]
  refine contributions_filter fun e he hdropped => contribution_eq_none hq fun b hb => ?_
  have hadd : Bonds.AddUp e.2 := hs.addUp account seed e.1 e.2 (record?_of_mem_outgoing he)
  rw [Bool.not_eq_false'] at hdropped
  exact Int.lt_of_le_of_lt (hadd.updatedAt_le_of_stale hdropped hb) hfresh

/-! ## Reachable stores -/

theorem Consistent.effect {s : Store} (hs : s.Consistent) {q : Request} (hq : q.IsTyped)
    (account : String) : (q.effect account s).Consistent := by
  rw [← Request.run_steps]
  exact hs.run fun step hstep => Request.isTyped_of_mem_steps hq hstep

theorem Consistent.after {s : Store} (hs : s.Consistent) {requests : List (String × Request)}
    (htyped : ∀ q ∈ requests, q.2.IsTyped) :
    (Graph.after Graph.inMemory s requests).Consistent := by
  rw [Graph.after_inMemory]
  induction requests generalizing s with
  | nil => exact hs
  | cons q rest ih =>
    rw [List.foldl_cons]
    exact ih (hs.effect (htyped q List.mem_cons_self) q.1) fun q' hq' =>
      htyped q' (List.mem_cons_of_mem _ hq')

end Store

namespace Graph

/-- Whatever has been asked of graphs in memory, as long as nothing was reinforced through a channel
    of the combined one's name: pruning an account up to a cutoff succeeds, and does not change the
    answer to any query for what is later. -/
theorem related_pruned (requests : List (String × Request))
    (htyped : ∀ r ∈ requests, r.2.IsTyped) (account : String) (cutoff : Int) (q : Query)
    (fresh : Int) (hq : q.updateCutoff = some fresh) (hfresh : cutoff < fresh) :
    let g := inMemory account
    let reached := after inMemory {} requests
    let pruned := (g.remove (.stale cutoff)).outcome reached
    pruned.1 = .ok ()
      ∧ ∃ suggestions, ((g.related q).outcome reached).1 = .ok suggestions
        ∧ ((g.related q).outcome pruned.2.state).1 = .ok suggestions := by
  intro g reached pruned
  have hconsistent : Store.Consistent reached := Store.consistent_empty.after htyped
  have hremove : (g.remove (.stale cutoff)).Ends reached (.ok ())
      (reached.remove account (Removal.stale cutoff).takes) :=
    (Action.Ends.state reached).bind
      ((Action.Ends.update (·.remove account (Removal.stale cutoff).takes) reached).bind
        (Action.Ends.note _ _))
  have hrelated : ∀ s : Store, (g.related q).Ends s (.ok (s.related account q)) s :=
    fun s => (Action.Ends.state s).bind (Action.Ends.pure _ s)
  have hpruned : pruned.2.state = reached.remove account (Removal.stale cutoff).takes :=
    hremove.outcome.2
  refine ⟨hremove.outcome.1, reached.related account q, (hrelated reached).outcome.1, ?_⟩
  rw [hpruned, (hrelated _).outcome.1, hconsistent.related_remove_stale account hq hfresh]

/-- Two messages to one pair of contacts, and one to another just in time. -/
def aging : List (String × Request) :=
  [("x", .reinforce ⟨"a", none⟩ ⟨"b", none⟩ { channel := .direct, timestamp := 4 }),
    ("x", .clique [⟨"a", none⟩, ⟨"c", none⟩] { channel := .cc, timestamp := 6 }),
    ("x", .reinforce ⟨"a", none⟩ ⟨"b", none⟩ { channel := .cc, timestamp := 5 })]

theorem related_pruned_aging :
    let reached := after inMemory {} aging
    let pruned := (((inMemory "x").remove (.stale 5)).outcome reached).2.state
    reached.edgeCount "x" = 4 ∧ pruned.edgeCount "x" = 2
      ∧ (((inMemory "x").related { contacts := ["a"], updateCutoff := some 6 }).outcome pruned).1
        = .ok [⟨"c", 2⟩] := by
  have htyped : ∀ r ∈ aging, r.2.IsTyped := by
    simp [aging, Request.IsTyped, Request.channel?, Channel.direct, Channel.cc,
      Channel.combinedName]
  obtain ⟨_, suggestions, hbefore, hafter⟩ := related_pruned aging htyped "x" 5
    { contacts := ["a"], updateCutoff := some 6 } 6 rfl (by decide)
  have hanswer : (((inMemory "x").related { contacts := ["a"], updateCutoff := some 6 }).outcome
      (after inMemory {} aging)).1 = .ok [⟨"c", 2⟩] := by decide +kernel
  exact ⟨by decide +kernel, by decide +kernel, hafter.trans (hbefore.symm.trans hanswer)⟩

end Graph

end Rapport
