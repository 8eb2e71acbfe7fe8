import Mathlib.Algebra.BigOperators.Group.List.Basic
import Mathlib.Algebra.Ring.Int.Defs
import Mathlib.Data.List.Induction
import Mathlib.Data.String.Basic
import Rapport.Proofs.Keyed
import Rapport.Ranking

set_option autoImplicit false

/-! # Ranks do not depend on the order of the edges

`Ranking.before` is a total order, so there is one way only to put given contacts in order.
`best_eq_take_sorted` says that the one pass that keeps few contacts finds the same first ones as
sorting them all, and `rank_eq_of_perm` that the answer of a query depends on the edges that it
found, but not on the order in which it found them. The totals list every contact once and lose no
weight (`entries_totals`, `sum_totals`), so a ranking without a limit does the same, and one with a
limit is the beginning of it (`rank_limited`). -/

namespace Rapport.Ranking

/-! ## The order of contacts -/

theorem before_iff {x y : String × Int} :
    before x y = true ↔ y.2 < x.2 ∨ (x.2 = y.2 ∧ x.1 ≤ y.1) := by
  simp [before]

theorem before_total (x y : String × Int) : (before x y || before y x) = true := by
  rw [Bool.or_eq_true, before_iff, before_iff]
  rcases lt_trichotomy x.2 y.2 with h | h | h
  · exact Or.inr (Or.inl h)
  · rcases le_total x.1 y.1 with hle | hle
    · exact Or.inl (Or.inr ⟨h, hle⟩)
    · exact Or.inr (Or.inr ⟨h.symm, hle⟩)
  · exact Or.inl (Or.inl h)

theorem before_trans (x y z : String × Int) (hxy : before x y = true) (hyz : before y z = true) :
    before x z = true := by
  rw [before_iff] at *
  rcases hxy with hxy | ⟨hxy, hle⟩
  · rcases hyz with hyz | ⟨hyz, _⟩
    · exact Or.inl (hyz.trans hxy)
    · exact Or.inl (hyz ▸ hxy)
  · rcases hyz with hyz | ⟨hyz, hle'⟩
    · exact Or.inl (hxy ▸ hyz)
    · exact Or.inr ⟨hxy.trans hyz, hle.trans hle'⟩

theorem before_antisymm {x y : String × Int} (hxy : before x y = true)
    (hyx : before y x = true) : x = y := by
  rw [before_iff] at *
  have hweight : x.2 = y.2 := by omega
  have hname : x.1 = y.1 := by
    rcases hxy with hxy | ⟨_, hle⟩
    · omega
    · rcases hyx with hyx | ⟨_, hle'⟩
      · omega
      · exact le_antisymm hle hle'
  exact Prod.ext hname hweight

theorem pairwise_sorted (xs : List (String × Int)) :
    (sorted xs).Pairwise fun x y => before x y = true :=
  List.pairwise_mergeSort before_trans before_total xs

/-- Contacts are in one order only. -/
theorem eq_of_perm_of_pairwise {xs ys : List (String × Int)} (h : xs.Perm ys)
    (hxs : xs.Pairwise fun x y => before x y = true)
    (hys : ys.Pairwise fun x y => before x y = true) : xs = ys :=
  List.Perm.eq_of_pairwise (fun _ _ _ _ => before_antisymm) hxs hys h

theorem sorted_eq_of_perm {xs ys : List (String × Int)} (h : xs.Perm ys) :
    sorted xs = sorted ys :=
  eq_of_perm_of_pairwise
    (((List.mergeSort_perm xs before).trans h).trans (List.mergeSort_perm ys before).symm)
    (pairwise_sorted xs) (pairwise_sorted ys)

/-! ## Keeping the first few -/

theorem perm_place (x : String × Int) (ys : List (String × Int)) :
    (place x ys).Perm (x :: ys) := by
  induction ys with
  | nil => exact List.Perm.refl _
  | cons y rest ih =>
    rw [place]
    split
    · exact List.Perm.refl _
    · exact (ih.cons y).trans (List.Perm.swap x y rest)

theorem pairwise_place (x : String × Int) {ys : List (String × Int)}
    (h : ys.Pairwise fun x y => before x y = true) :
    (place x ys).Pairwise fun x y => before x y = true := by
  induction ys with
  | nil => exact List.pairwise_singleton _ _
  | cons y rest ih =>
    obtain ⟨hy, hrest⟩ := List.pairwise_cons.1 h
    rw [place]
    split
    · next hxy =>
      refine List.pairwise_cons.2 ⟨fun z hz => ?_, h⟩
      rcases List.mem_cons.1 hz with rfl | hz
      · exact hxy
      · exact before_trans x y z hxy (hy z hz)
    · next hxy =>
      have hyx : before y x = true := by
        have htotal := before_total x y
        rw [Bool.or_eq_true] at htotal
        exact htotal.resolve_left hxy
      refine List.pairwise_cons.2 ⟨fun z hz => ?_, ih hrest⟩
      rcases List.mem_cons.1 ((perm_place x rest).mem_iff.1 hz) with rfl | hz
      · exact hyx
      · exact hy z hz

theorem place_sorted (x : String × Int) (xs : List (String × Int)) :
    place x (sorted xs) = sorted (xs ++ [x]) := by
  refine eq_of_perm_of_pairwise ?_ (pairwise_place x (pairwise_sorted xs)) (pairwise_sorted _)
  calc List.Perm (place x (sorted xs)) (x :: sorted xs) := perm_place x _
    List.Perm _ (x :: xs) := (List.mergeSort_perm xs before).cons x
    List.Perm _ (xs ++ [x]) := (List.perm_append_singleton x xs).symm
    List.Perm _ (sorted (xs ++ [x])) := (List.mergeSort_perm _ before).symm

/-- What stands behind the first `k` has no say in who the first `k` are. -/
theorem take_place_take (k : Nat) (x : String × Int) (ys : List (String × Int)) :
    (place x (ys.take k)).take k = (place x ys).take k := by
  -- Behind the head of the list there is one place less, so `k` goes down with it.
  induction ys generalizing k with
  | nil => rw [List.take_nil]
  | cons y rest ih =>
    cases k with
    | zero => rfl
    | succ k =>
      rw [List.take_succ_cons, place, place]
      split
      · cases k with
        | zero => rfl
        | succ k => simp [List.take_take]
      · rw [List.take_succ_cons, List.take_succ_cons, ih k]

theorem best_eq_take_sorted (k : Nat) (xs : List (String × Int)) :
    best k xs = (sorted xs).take k := by
  induction xs using List.reverseRecOn with
  | nil => rw [sorted, List.mergeSort_nil, List.take_nil, best, List.foldl_nil]
  | append_singleton xs x ih =>
    have hstep : best k (xs ++ [x]) = (place x (best k xs)).take k := by
      rw [best, List.foldl_append]
      rfl
    rw [hstep, ih, take_place_take, place_sorted]

/-- All contacts are among the first, if as many are kept as there are. -/
theorem sorted_eq_best (xs : List (String × Int)) : sorted xs = best xs.length xs := by
  rw [best_eq_take_sorted, List.take_of_length_le]
  exact Nat.le_of_eq (List.length_mergeSort xs)

/-! ## Adding up -/

theorem foldl_weights (edges : List (String × Int)) (n : Int) :
    edges.foldl (fun o e => some (o.getD 0 + e.2)) (some n)
      = some (n + (edges.map Prod.snd).sum) := by
  induction edges generalizing n with
  | nil => simp
  | cons e rest ih => rw [List.foldl_cons, Option.getD_some, ih, List.map_cons, List.sum_cons,
      add_assoc]

/-- A contact is among the totals if an edge leads to it, with the sum of the weights of these
    edges. -/
theorem find?_totals (edges : List (String × Int)) (k : String) :
    (totals edges).find? k
      = if edges.filter (·.1 = k) = [] then none
        else some ((edges.filter (·.1 = k)).map Prod.snd).sum := by
  rw [totals, Keyed.find?_foldl_upsert Prod.fst fun (e : String × Int) w => w.getD 0 + e.2]
  cases edges.filter (·.1 = k) with
  | nil => rfl
  | cons e rest =>
    rw [List.foldl_cons, Keyed.find?_empty, Option.getD_none, zero_add, foldl_weights]
    rfl

theorem perm_totals {xs ys : List (String × Int)} (h : xs.Perm ys) :
    (totals xs).entries.Perm (totals ys).entries := by
  refine Keyed.perm_entries fun k => ?_
  have hfilter := h.filter (·.1 = k)
  rw [find?_totals, find?_totals, (hfilter.map Prod.snd).sum_eq]
  have hnil : xs.filter (·.1 = k) = [] ↔ ys.filter (·.1 = k) = [] := by
    rw [← List.length_eq_zero_iff, ← List.length_eq_zero_iff, hfilter.length_eq]
  simp only [hnil]

/-- What all the edges that lead to a contact weigh together. -/
def weightTo (edges : List (String × Int)) (k : String) : Int :=
  ((edges.filter (·.1 = k)).map Prod.snd).sum

/-- Every contact that an edge leads to is listed once, with the weight of all its edges. -/
theorem entries_totals (edges : List (String × Int)) :
    (totals edges).entries
      = (edges.map Prod.fst).eraseDups.map fun k => (k, weightTo edges k) := by
  have hkeys : (totals edges).keys = (edges.map Prod.fst).eraseDups :=
    Keyed.keys_foldl_upsert Prod.fst (fun (e : String × Int) w => w.getD 0 + e.2) edges
  have hweight : ∀ e ∈ (totals edges).entries, weightTo edges e.1 = e.2 := by
    intro e he
    have hfound := Keyed.mem_entries.1 he
    rw [find?_totals] at hfound
    split at hfound
    · exact absurd hfound (by simp)
    · exact Option.some.inj hfound
  rw [← hkeys, Keyed.keys, List.map_map]
  refine (List.map_id'' (fun _ => rfl) _).symm.trans (List.map_congr_left fun e he => ?_)
  exact Prod.ext rfl (hweight e he).symm

/-- Adding an edge to the totals adds its weight to their sum. -/
theorem sum_upsertIn (k : String) (n : Int) (es : List (String × Int)) :
    ((Keyed.upsertIn k (fun w => w.getD 0 + n) es).map Prod.snd).sum
      = (es.map Prod.snd).sum + n := by
  induction es with
  | nil => simp [Keyed.upsertIn]
  | cons e rest ih =>
    obtain ⟨k', w⟩ := e
    rw [Keyed.upsertIn]
    split
    · simp only [List.map_cons, List.sum_cons, Option.getD_some]
      omega
    · simp only [List.map_cons, List.sum_cons, ih, add_assoc]

/-- Adding up loses no weight. -/
theorem sum_totals (edges : List (String × Int)) :
    ((totals edges).entries.map Prod.snd).sum = (edges.map Prod.snd).sum := by
  induction edges using List.reverseRecOn with
  | nil => rfl
  | append_singleton edges e ih =>
    have hstep : (totals (edges ++ [e])).entries
        = Keyed.upsertIn e.1 (fun w => w.getD 0 + e.2) (totals edges).entries := by
      rw [totals, List.foldl_append]
      rfl
    rw [hstep, sum_upsertIn, ih, List.map_append, List.sum_append, List.map_singleton,
      List.sum_singleton]

/-! ## Ranking -/

theorem rank_eq (edges : List (String × Int)) (limit : Int) :
    rank edges limit
      = (if 0 < limit then (sorted (totals edges).entries).take limit.toNat
          else sorted (totals edges).entries).map suggestion := by
  simp only [rank, best_eq_take_sorted]

/-- The order of the edges has no say in who is suggested. -/
theorem rank_eq_of_perm {xs ys : List (String × Int)} (h : xs.Perm ys) (limit : Int) :
    rank xs limit = rank ys limit := by
  rw [rank_eq, rank_eq, sorted_eq_of_perm (perm_totals h)]

theorem rank_of_pos (edges : List (String × Int)) {limit : Int} (h : 0 < limit) :
    rank edges limit = (rank edges 0).take limit.toNat := by
  rw [rank_eq, rank_eq, if_pos h, if_neg (lt_irrefl 0), List.map_take]

theorem length_best_le (k : Nat) (contacts : List (String × Int)) :
    (best k contacts).length ≤ k := by
  rw [best_eq_take_sorted]
  exact List.length_take_le k _

theorem sum_rank (edges : List (String × Int)) :
    ((rank edges 0).map (·.weight)).sum = (edges.map Prod.snd).sum := by
  have hperm := List.mergeSort_perm (totals edges).entries before
  rw [rank_eq, if_neg (lt_irrefl 0), List.map_map, ← sum_totals]
  exact (hperm.map Prod.snd).sum_eq

/-- A ranking with a limit, found in a pass that never keeps more contacts than that, is the
    beginning of the one without. That one lists every contact that an edge leads to, once, with the
    weight of all its edges, and in order; the weights in it add up to those of all edges. Neither
    depends on the order of the edges. -/
theorem rank_limited (edges : List (String × Int)) :
    (∀ limit : Int, 0 < limit → rank edges limit = (rank edges 0).take limit.toNat
        ∧ ∀ seen, (best limit.toNat seen).length ≤ limit.toNat)
      ∧ (∃ contacts : List (String × Int), rank edges 0 = contacts.map suggestion
        ∧ contacts.Perm ((edges.map Prod.fst).eraseDups.map fun k => (k, weightTo edges k))
        ∧ contacts.Pairwise fun x y => before x y = true)
      ∧ ((rank edges 0).map (·.weight)).sum = (edges.map Prod.snd).sum
      ∧ ∀ edges' : List (String × Int), edges.Perm edges' →
        ∀ limit, rank edges' limit = rank edges limit := by
  refine ⟨fun limit hlimit => ⟨rank_of_pos edges hlimit, length_best_le limit.toNat⟩,
    ⟨sorted (totals edges).entries, ?_, ?_, pairwise_sorted _⟩, sum_rank edges,
    fun edges' h limit => rank_eq_of_perm h.symm limit⟩
  · rw [rank_eq, if_neg (lt_irrefl 0)]
  · rw [← entries_totals]
    exact List.mergeSort_perm _ before

/-- Three contacts of one weight, one of them reached twice, and one that weighs less than
    nothing. -/
def tied : List (String × Int) := [("ds:b", 2), ("c", -1), ("b", 5), ("ds:b", 3), ("a", 5)]

theorem rank_limited_tied :
    rank tied 2 = [⟨"a", 5⟩, ⟨"b", 5⟩]
      ∧ (rank tied 0).take 2 = [⟨"a", 5⟩, ⟨"b", 5⟩]
      ∧ (rank tied 0).length = 4
      ∧ rank tied.reverse 3 = [⟨"a", 5⟩, ⟨"b", 5⟩, ⟨"b", 5⟩] := by
  obtain ⟨hlimited, ⟨contacts, hcontacts, hperm, _⟩, _, horder⟩ := rank_limited tied
  have htwo : rank tied 2 = [⟨"a", 5⟩, ⟨"b", 5⟩] := by decide +kernel
  have hthree : rank tied 3 = [⟨"a", 5⟩, ⟨"b", 5⟩, ⟨"b", 5⟩] := by decide +kernel
  refine ⟨htwo, (hlimited 2 (by decide)).1.symm.trans htwo, ?_, ?_⟩
  · rw [hcontacts, List.length_map, hperm.length_eq]
    decide +kernel
  · exact (horder tied.reverse tied.reverse_perm.symm 3).trans hthree

end Rapport.Ranking
