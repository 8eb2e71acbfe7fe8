import Mathlib.Algebra.BigOperators.Group.List.Basic
import Mathlib.Algebra.Ring.Int.Defs
import Rapport.Proofs.Store

set_option autoImplicit false

/-! # Ties, one after the other

A `Tie` is one reinforcement of one pair of contacts. What a list of ties does to a store is read
off the list: a relation of an edge gains from the ties that write the edge and carry the relation,
and from no others. `bond?_tieAll` is this law. Ties of one reinforcement come to the same store if
they write every edge as often (`same_tieAll`). -/

namespace Rapport

/-- A pair of contacts and a reinforcement of it. -/
structure Tie where
  first : Contact
  second : Contact
  reinforcement : Reinforcement
deriving DecidableEq, Repr

namespace Tie

/-- Whether the tie writes the edge between two keys: the one from its first contact to its second,
    or the one back, unless it counts in one direction only. -/
def writes (t : Tie) (origin target : String) : Bool :=
  (origin == t.first.key && target == t.second.key)
    || (!t.reinforcement.directed && origin == t.second.key && target == t.first.key)

/-- Whether the tie adds to a relation: that of its channel, and the combined one. -/
def carries (t : Tie) (relation : String) : Bool :=
  relation == t.reinforcement.channel.name || relation == Channel.combinedName

theorem writes_iff {t : Tie} {origin target : String} :
    t.writes origin target = true
      ↔ (origin, target) ∈ t.reinforcement.edges t.first t.second := by
  rw [Reinforcement.mem_edges, writes, Bool.or_eq_true, Bool.and_eq_true, Bool.and_eq_true,
    Bool.and_eq_true, Bool.not_eq_true']
  simp only [beq_iff_eq, and_assoc]

theorem writes_swap {r : Reinforcement} (hr : r.directed = false) (a b : Contact)
    (origin target : String) :
    (⟨a, b, r⟩ : Tie).writes origin target = (⟨b, a, r⟩ : Tie).writes origin target := by
  rw [writes, writes, hr, Bool.not_false, Bool.true_and, Bool.true_and, Bool.or_comm]

theorem carries_iff {t : Tie} {relation : String} :
    t.carries relation = true ↔ relation ∈ t.reinforcement.relations := by
  simp [carries, Reinforcement.mem_relations]

@[simp] theorem carries_combined (t : Tie) : t.carries Channel.combinedName = true := by
  simp [carries]

/-! ## What ties add up to -/

/-- What a relation holds after ties have added to it, one after the other: its weight has grown by
    the sum of their amounts, and it is as recent as the latest of them. -/
def accumulate (old : Option Bond) (ties : List Tie) : Option Bond :=
  if ties = [] then old
  else some ⟨(old.getD {}).weight + (ties.map (·.reinforcement.amount)).sum,
    (ties.map (·.reinforcement.timestamp)).foldl max (old.getD {}).updatedAt⟩

@[simp] theorem accumulate_nil (old : Option Bond) : accumulate old [] = old := rfl

theorem accumulate_cons (old : Option Bond) (t : Tie) (ties : List Tie) :
    accumulate old (t :: ties)
      = accumulate (some ((old.getD {}).reinforced t.reinforcement.amount
          t.reinforcement.timestamp)) ties := by
  cases ties with
  | nil => simp [accumulate, Bond.reinforced]
  | cons t' rest => simp [accumulate, Bond.reinforced, add_assoc]

theorem accumulate_append (old : Option Bond) (xs ys : List Tie) :
    accumulate old (xs ++ ys) = accumulate (accumulate old xs) ys := by
  induction xs generalizing old with
  | nil => rfl
  | cons t rest ih => rw [List.cons_append, accumulate_cons, accumulate_cons, ih]

end Tie

namespace Store

/-- The store after ties, one after the other. -/
def tieAll (s : Store) (account : String) (ties : List Tie) : Store :=
  ties.foldl (fun s t => s.reinforce account t.first t.second t.reinforcement) s

@[simp] theorem tieAll_nil (s : Store) (account : String) : s.tieAll account [] = s := rfl

@[simp] theorem tieAll_cons (s : Store) (account : String) (t : Tie) (ties : List Tie) :
    s.tieAll account (t :: ties)
      = (s.reinforce account t.first t.second t.reinforcement).tieAll account ties := rfl

theorem tieAll_append (s : Store) (account : String) (xs ys : List Tie) :
    s.tieAll account (xs ++ ys) = (s.tieAll account xs).tieAll account ys :=
  List.foldl_append

/-- Ties that do not write an edge make no difference to it, whether they are left out or not. -/
theorem record?_tieAll_filter {s s' : Store} (account : String) {ties : List Tie}
    {account' origin target : String}
    (hs : s.record? account' origin target = s'.record? account' origin target)
    {keep : Tie → Bool} (h : account' = account → ∀ t ∈ ties, keep t = false →
      t.writes origin target = false) :
    (s.tieAll account (ties.filter keep)).record? account' origin target
      = (s'.tieAll account ties).record? account' origin target := by
  induction ties generalizing s s' with
  | nil => exact hs
  | cons t rest ih =>
    have hrest : account' = account → ∀ t ∈ rest, keep t = false →
        t.writes origin target = false :=
      fun ha t' ht' => h ha t' (List.mem_cons_of_mem _ ht')
    rw [tieAll_cons]
    by_cases hkeep : keep t = true
    · rw [List.filter_cons_of_pos hkeep, tieAll_cons]
      refine ih ?_ hrest
      rw [record?_reinforce, record?_reinforce, hs]
    · rw [List.filter_cons_of_neg hkeep]
      refine ih ?_ hrest
      rw [record?_reinforce, if_neg, hs]
      rintro ⟨ha, hmem⟩
      have hnot := h ha t List.mem_cons_self (Bool.eq_false_iff.2 hkeep)
      rw [Tie.writes_iff.2 hmem] at hnot
      exact absurd hnot (by simp)

/-- An edge that no tie writes is left as it is. -/
theorem record?_tieAll_of_not_writes (s : Store) (account : String) (ties : List Tie)
    {account' origin target : String}
    (h : account' = account → ∀ t ∈ ties, t.writes origin target = false) :
    (s.tieAll account ties).record? account' origin target = s.record? account' origin target := by
  have hfilter : (s.tieAll account (ties.filter fun _ => false)).record? account' origin target
      = (s.tieAll account ties).record? account' origin target :=
    record?_tieAll_filter account rfl fun ha t ht _ => h ha t ht
  rw [List.filter_false] at hfilter
  exact hfilter.symm

/-- A relation gains what the ties that write its edge and carry it add up to. -/
theorem bond?_tieAll (s : Store) (account : String) {ties : List Tie}
    (h : ∀ t ∈ ties, t.reinforcement.channel.name ≠ Channel.combinedName)
    (origin target relation : String) :
    (s.tieAll account ties).bond? account origin target relation
      = Tie.accumulate (s.bond? account origin target relation)
          (ties.filter fun t => t.writes origin target && t.carries relation) := by
  induction ties generalizing s with
  | nil => rfl
  | cons t rest ih =>
    rw [tieAll_cons, ih _ fun t' ht' => h t' (List.mem_cons_of_mem _ ht'),
      bond?_reinforce _ _ _ _ (h t List.mem_cons_self), List.filter_cons]
    by_cases hw : t.writes origin target = true
    · by_cases hc : t.carries relation = true
      · rw [if_pos ⟨rfl, Tie.writes_iff.1 hw, Tie.carries_iff.1 hc⟩, hw, hc, Bool.and_self,
          if_pos rfl, Tie.accumulate_cons]
      · rw [if_neg fun hcond => hc (Tie.carries_iff.2 hcond.2.2), if_neg (by simp [hc])]
    · rw [if_neg fun hcond => hw (Tie.writes_iff.2 hcond.2.1), if_neg (by simp [hw])]

/-! ## Ties of one reinforcement -/

/-- The same contacts are there, with the same edges, in whatever order these have come. -/
structure Same (s s' : Store) : Prop where
  nodes : ∀ node, (s.adjacency.find? node).isSome = true ↔ (s'.adjacency.find? node).isSome = true
  record? : ∀ account origin target,
    s.record? account origin target = s'.record? account origin target

theorem isSome_foldl_alterEdge (account : String) (f : Bonds → Bonds)
    (es : List (String × String)) (s : Store) (node : String × String) :
    ((es.foldl (fun s e => s.alterEdge account e.1 e.2 f) s).adjacency.find? node).isSome = true
      ↔ (s.adjacency.find? node).isSome = true ∨ ∃ e ∈ es, node = (account, e.1) := by
  induction es generalizing s with
  | nil => simp
  | cons e rest ih =>
    rw [List.foldl_cons, ih, alterEdge, Keyed.find?_upsert]
    by_cases hnode : node = (account, e.1)
    · simp [hnode]
    · simp [hnode]

/-- The contacts that ties add are those that they write edges from. -/
theorem isSome_tieAll (s : Store) (account : String) (ties : List Tie) (node : String × String) :
    ((s.tieAll account ties).adjacency.find? node).isSome = true
      ↔ (s.adjacency.find? node).isSome = true
        ∨ node.1 = account ∧ ∃ target, ∃ t ∈ ties, t.writes node.2 target = true := by
  induction ties generalizing s with
  | nil => simp
  | cons t rest ih =>
    have hedges : (∃ e ∈ t.reinforcement.edges t.first t.second, node = (account, e.1))
        ↔ node.1 = account ∧ ∃ target, t.writes node.2 target = true := by
      simp only [Tie.writes_iff, Prod.exists, Prod.ext_iff]
      constructor
      · rintro ⟨origin, target, hmem, haccount, rfl⟩
        exact ⟨haccount, target, hmem⟩
      · rintro ⟨haccount, target, hmem⟩
        exact ⟨node.2, target, hmem, haccount, rfl⟩
    rw [tieAll_cons, ih, reinforce_eq, isSome_foldl_alterEdge, isSome_foldl_alterEdge, hedges]
    simp only [List.exists_mem_cons_iff, exists_or]
    tauto

/-- An edge grows once with every tie that writes it. -/
theorem record?_tieAll_const (s : Store) (account : String) {r : Reinforcement} {ties : List Tie}
    (h : ∀ t ∈ ties, t.reinforcement = r) (origin target : String) :
    (s.tieAll account ties).record? account origin target
      = (fun bonds => some (grownBonds r (bonds.getD .empty)))^[
          ties.countP (·.writes origin target)] (s.record? account origin target) := by
  induction ties generalizing s with
  | nil => rfl
  | cons t rest ih =>
    have hr : t.reinforcement = r := h t List.mem_cons_self
    rw [tieAll_cons, ih _ fun t' ht' => h t' (List.mem_cons_of_mem _ ht'), record?_reinforce]
    by_cases hw : t.writes origin target = true
    · rw [if_pos ⟨rfl, Tie.writes_iff.1 hw⟩, List.countP_cons, if_pos hw,
        Function.iterate_succ_apply, hr]
    · rw [if_neg fun hcond => hw (Tie.writes_iff.2 hcond.2), List.countP_cons, if_neg hw, Nat.add_zero]

/-- Ties of one reinforcement come to the same if they write every edge as often. -/
theorem same_tieAll (s : Store) (account : String) {r : Reinforcement} {ties ties' : List Tie}
    (h : ∀ t ∈ ties, t.reinforcement = r) (h' : ∀ t ∈ ties', t.reinforcement = r)
    (hcount : ∀ origin target,
      ties.countP (·.writes origin target) = ties'.countP (·.writes origin target)) :
    (s.tieAll account ties).Same (s.tieAll account ties') where
  nodes node := by
    have hsome : ∀ target, (∃ t ∈ ties, t.writes node.2 target = true)
        ↔ ∃ t ∈ ties', t.writes node.2 target = true := by
      intro target
      rw [← List.countP_pos_iff, hcount, List.countP_pos_iff]
    simp only [isSome_tieAll, hsome]
  record? account' origin target := by
    by_cases ha : account' = account
    · rw [ha, record?_tieAll_const s account h, record?_tieAll_const s account h', hcount]
    · rw [record?_tieAll_of_not_writes _ _ _ fun heq => absurd heq ha,
        record?_tieAll_of_not_writes _ _ _ fun heq => absurd heq ha]

end Store

end Rapport
