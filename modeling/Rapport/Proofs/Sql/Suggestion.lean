import Rapport.Proofs.Sql.Answer
import Rapport.Proofs.Suggestion

set_option autoImplicit false

/-! # What a query of rows answers

The rows that count for a query and lead to one contact (`leading`) have their weights added up. A
query of an edge table is answered if each of these sums has a place in the database, and then with
their list in order: `related_eq_ok_iff`. The rows need not show a store, so this holds of weights
that have become doubles too. -/

namespace Rapport.Sql.Rows

open Numeral

variable {rows : Rows} {account : String} {q : Query} {target : String}

/-! ## The rows that count -/

theorem counts_iff {k : RowKey} {cells : Cells} :
    counts q account k cells = true
      ↔ k.account = account ∧ k.origin ∈ q.seedKeys ∧ k.target ∉ q.seedKeys
        ∧ k.relation = q.relation ∧ q.Counts ⟨cells.weight.value, cells.updatedAt⟩ := by
  have hcounts : counts q account k cells
      = (k.account == account && q.seeds.contains k.origin && !q.seeds.contains k.target
        && k.relation == q.relation && decide ((q.lowerBound : Int) ≤ cells.weight.value)
        && q.updateCutoff.all fun cutoff => decide (cutoff ≤ cells.updatedAt)) := by
    unfold counts
    cases q.updateCutoff <;> rfl
  rw [hcounts, Query.Counts]
  simp only [Bool.and_eq_true, beq_iff_eq, List.contains_iff_mem, Query.mem_seeds,
    decide_eq_true_eq, Bool.not_eq_true', ← Bool.not_eq_true, and_assoc, Option.all_eq_true]
  rfl

/-- The rows that count for a query and lead to a contact. -/
def leading (rows : Rows) (account : String) (q : Query) (target : String) :
    List (RowKey × Cells) :=
  (rows.entries.filter fun row => counts q account row.1 row.2).filter (·.1.target = target)

/-- Their weights. -/
def leadingAmounts (rows : Rows) (account : String) (q : Query) (target : String) : List Amount :=
  (rows.leading account q target).map (·.2.weight)

theorem mem_leading {row : RowKey × Cells} :
    row ∈ rows.leading account q target
      ↔ rows.find? row.1 = some row.2 ∧ counts q account row.1 row.2 = true
        ∧ row.1.target = target := by
  obtain ⟨k, cells⟩ := row
  rw [leading, List.mem_filter, List.mem_filter, Keyed.mem_entries, decide_eq_true_eq, and_assoc]

theorem leading_eq_nil_of_mem (h : target ∈ q.seedKeys) : rows.leading account q target = [] := by
  refine List.eq_nil_iff_forall_not_mem.2 fun row hrow => ?_
  obtain ⟨_, hcounts, rfl⟩ := mem_leading.1 hrow
  exact (counts_iff.1 hcounts).2.2.1 h

/-! ## Adding up -/

/-- What is added up for each contact that rows that count lead to; for a sum that has no place in
    the database there stands nothing. -/
def sums (rows : Rows) (account : String) (q : Query) : List (String × Int) :=
  (groups (rows.entries.filter fun row => counts q account row.1 row.2)).entries.map fun g =>
    (g.1, (Amount.sum? g.2).getD 0)

/-- The contacts that a query lists, under their keys and with their sums. -/
def listed (rows : Rows) (account : String) (q : Query) : List (String × Int) :=
  let ordered := Ranking.sorted (rows.sums account q)
  if q.limit = 0 then ordered else ordered.take q.limit

theorem mem_groups {amounts : List Amount} :
    (target, amounts)
        ∈ (groups (rows.entries.filter fun row => counts q account row.1 row.2)).entries
      ↔ rows.leading account q target ≠ [] ∧ amounts = rows.leadingAmounts account q target := by
  rw [Keyed.mem_entries, find?_groups, leadingAmounts, leading]
  split
  · next hnil => exact iff_of_false nofun fun h => h.1 hnil
  · next hne => rw [Option.some_inj, eq_comm, and_iff_right hne]

theorem mem_sums {weight : Int} :
    (target, weight) ∈ rows.sums account q
      ↔ rows.leading account q target ≠ []
        ∧ weight = (Amount.sum? (rows.leadingAmounts account q target)).getD 0 := by
  rw [sums, List.mem_map]
  constructor
  · rintro ⟨⟨target', amounts⟩, hmem, heq⟩
    rw [Prod.mk.injEq] at heq
    obtain ⟨rfl, rfl⟩ := heq
    obtain ⟨hne, rfl⟩ := mem_groups.1 hmem
    exact ⟨hne, rfl⟩
  · rintro ⟨hne, rfl⟩
    exact ⟨_, mem_groups.2 ⟨hne, rfl⟩, rfl⟩

theorem nodup_map_fst_sums (rows : Rows) (account : String) (q : Query) :
    ((rows.sums account q).map Prod.fst).Nodup := by
  rw [sums, List.map_map]
  exact Keyed.distinct _

/-! ## Answering -/

/-- Add up the weights of a group, if they have a sum. -/
def addUp (g : String × List Amount) : Except Refusal (String × Int) :=
  match Amount.sum? g.2 with
  | some total => .ok (g.1, total)
  | none => .error .refused

theorem addUp_eq_ok_iff {g : String × List Amount} {e : String × Int} :
    addUp g = .ok e ↔ (Amount.sum? g.2).isSome = true ∧ e = (g.1, (Amount.sum? g.2).getD 0) := by
  rw [addUp]
  cases Amount.sum? g.2 with
  | none => exact iff_of_false nofun nofun
  | some total => simp [eq_comm]

/-- Adding up comes to the sums, where there are any. -/
theorem mapM_addUp_eq_ok_iff {found : List (String × Int)} :
    (groups (rows.entries.filter fun row => counts q account row.1 row.2)).entries.mapM addUp
        = .ok found
      ↔ (∀ target, rows.leading account q target ≠ [] →
          (Amount.sum? (rows.leadingAmounts account q target)).isSome = true)
        ∧ found = rows.sums account q := by
  have hsums : (∀ target, rows.leading account q target ≠ [] →
        (Amount.sum? (rows.leadingAmounts account q target)).isSome = true) →
      (groups (rows.entries.filter fun row => counts q account row.1 row.2)).entries.mapM addUp
        = .ok (rows.sums account q) := by
    refine fun hall => mapM_eq_ok fun g hg => addUp_eq_ok_iff.2 ⟨?_, rfl⟩
    obtain ⟨hne, hamounts⟩ := mem_groups.1 hg
    rw [hamounts]
    exact hall g.1 hne
  constructor
  · intro h
    have hall : ∀ target, rows.leading account q target ≠ [] →
        (Amount.sum? (rows.leadingAmounts account q target)).isSome = true := by
      intro target hne
      obtain ⟨_, hadd⟩ := exists_eq_ok_of_mapM h _ (mem_groups.2 ⟨hne, rfl⟩)
      exact (addUp_eq_ok_iff.1 hadd).1
    exact ⟨hall, Except.ok.inj (h.symm.trans (hsums hall))⟩
  · rintro ⟨hall, rfl⟩
    exact hsums hall

/-- A query is answered if its integers have a place in the database and each of its sums has, and
    then with the list of these sums. -/
theorem related_eq_ok_iff {suggestions : List Suggestion} :
    rows.related account q = .ok suggestions
      ↔ bindQuery q = .ok ()
        ∧ (∀ target, rows.leading account q target ≠ [] →
          (Amount.sum? (rows.leadingAmounts account q target)).isSome = true)
        ∧ suggestions = (rows.listed account q).map Ranking.suggestion := by
  have hrelated : rows.related account q = (do
      bindQuery q
      let sums ← (groups (rows.entries.filter fun row =>
        counts q account row.1 row.2)).entries.mapM addUp
      let ordered := Ranking.sorted sums
      return (if q.limit = 0 then ordered else ordered.take q.limit).map Ranking.suggestion) := rfl
  rw [hrelated]
  cases bindQuery q with
  | error e => exact iff_of_false nofun nofun
  | ok _ =>
    cases hsums : (groups (rows.entries.filter fun row =>
        counts q account row.1 row.2)).entries.mapM addUp with
    | error e =>
      refine iff_of_false nofun fun h => ?_
      rw [mapM_addUp_eq_ok_iff.2 ⟨h.2.1, rfl⟩] at hsums
      cases hsums
    | ok found =>
      obtain ⟨hall, rfl⟩ := mapM_addUp_eq_ok_iff.1 hsums
      show Except.ok _ = Except.ok _ ↔ _
      rw [Except.ok.injEq]
      exact ⟨fun h => ⟨rfl, hall, h.symm⟩, fun h => h.2.2.symm⟩

end Rapport.Sql.Rows
