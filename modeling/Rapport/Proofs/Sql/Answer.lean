import Rapport.Proofs.List
import Rapport.Proofs.Ranking
import Rapport.Proofs.Sql.Rows

set_option autoImplicit false

/-! # Queries of rows that show a store

A query of the rows of an account picks those that count, adds up the weights that lead to one
contact, and ranks what comes out. The store goes along its edges instead and adds up as it goes.
Where the rows show the store, both find the same weights in another order (`perm_counted`,
`perm_sums`), and the order has no say in the ranking: `related_eq`. -/

namespace Rapport.Sql.Rows

open Numeral

variable {rows : Rows} {account : String} {s : Store} {q : Query}

/-! ## The rows that count -/

/-- The rows that stand for the relation of an edge that a query looks at: one, if it counts. -/
def countedOf (q : Query) (account origin : String) (e : String × Bonds) :
    List (RowKey × Cells) :=
  match e.2.find? q.relation with
  | some b =>
    if counts q account ⟨account, origin, e.1, q.relation⟩ (.ofBond b) then
      [(⟨account, origin, e.1, q.relation⟩, .ofBond b)]
    else []
  | none => []

/-- The rows that count for a query, as the store lists what they stand for. -/
def counted (s : Store) (account : String) (q : Query) : List (RowKey × Cells) :=
  q.seeds.flatMap fun seed => (s.outgoing account seed).flatMap (countedOf q account seed)

/-- Where a row leads to, and how heavy it is. -/
def lead (row : RowKey × Cells) : String × Int := (row.1.target, row.2.weight.value)

theorem mem_countedOf {origin : String} {e : String × Bonds} {row : RowKey × Cells} :
    row ∈ countedOf q account origin e
      ↔ row.1 = ⟨account, origin, e.1, q.relation⟩
        ∧ (e.2.find? q.relation).map Cells.ofBond = some row.2
        ∧ counts q account row.1 row.2 = true := by
  obtain ⟨k, cells⟩ := row
  rw [countedOf]
  cases e.2.find? q.relation with
  | none => simp
  | some b =>
    dsimp only
    split
    · next hcounts =>
      rw [List.mem_singleton, Prod.mk.injEq, Option.map_some, Option.some.injEq]
      constructor
      · rintro ⟨rfl, rfl⟩
        exact ⟨rfl, rfl, hcounts⟩
      · rintro ⟨rfl, rfl, _⟩
        exact ⟨rfl, rfl⟩
    · next hcounts =>
      refine ⟨fun hmem => absurd hmem (by simp), ?_⟩
      rintro ⟨rfl, hcells, hcounts'⟩
      rw [Option.map_some, Option.some.injEq] at hcells
      exact absurd (hcells ▸ hcounts') hcounts

theorem mem_counted {row : RowKey × Cells} :
    row ∈ counted s account q
      ↔ counts q account row.1 row.2 = true
        ∧ (s.bond? account row.1.origin row.1.target row.1.relation).map Cells.ofBond
          = some row.2 := by
  simp only [counted, List.mem_flatMap, mem_countedOf]
  constructor
  · rintro ⟨seed, _, e, he, hkey, hcells, hcounts⟩
    refine ⟨hcounts, ?_⟩
    rw [hkey, Store.bond?_eq, Store.record?, Keyed.mem_entries.1 he]
    exact hcells
  · rintro ⟨hcounts, hcells⟩
    have hparts := hcounts
    simp only [counts, Bool.and_eq_true, beq_iff_eq, List.contains_iff_mem] at hparts
    obtain ⟨⟨⟨⟨⟨haccount, hseed⟩, _⟩, hrelation⟩, _⟩, _⟩ := hparts
    rw [Store.bond?_eq, hrelation] at hcells
    cases hrec : s.record? account row.1.origin row.1.target with
    | none =>
      rw [hrec] at hcells
      exact absurd hcells (by simp)
    | some bonds =>
      rw [hrec, Option.bind_some] at hcells
      exact ⟨row.1.origin, hseed, (row.1.target, bonds), Keyed.mem_entries.2 hrec,
        by rw [← haccount, ← hrelation], hcells, hcounts⟩

theorem nodup_counted (s : Store) (account : String) (q : Query) :
    (counted s account q).Nodup := by
  have hseeds : (q.seeds.map id).Nodup := by
    rw [List.map_id]
    exact (Ascending.pairwise_ofList _).imp fun h => h.ne
  refine nodup_flatMap hseeds (fun seed _ => ?_) (fun row => row.1.origin) ?_
  · refine nodup_flatMap (s.edges account seed).distinct (fun e _ => ?_)
      (fun row => row.1.target) fun e _ row hrow => by rw [(mem_countedOf.1 hrow).1]
    unfold countedOf
    split
    · split <;> simp
    · exact List.nodup_nil
  · intro seed _ row hrow
    obtain ⟨e, _, hrow⟩ := List.mem_flatMap.1 hrow
    rw [(mem_countedOf.1 hrow).1, id]

/-- The rows that count are those that the store lists. -/
theorem perm_counted (h : rows.Shows account s) (q : Query) :
    (rows.entries.filter fun row => counts q account row.1 row.2).Perm (counted s account q) := by
  refine (List.perm_ext_iff_of_nodup (rows.nodup_entries.filter _)
    (nodup_counted s account q)).2 ?_
  rintro ⟨k, cells⟩
  rw [List.mem_filter, mem_counted, Keyed.mem_entries, and_comm]
  refine and_congr_right fun hcounts => ?_
  have haccount : k.account = account := by
    simp only [counts, Bool.and_eq_true, beq_iff_eq] at hcounts
    exact hcounts.1.1.1.1.1
  subst haccount
  rw [← h]

/-- What the rows that count add up is what the store finds. -/
theorem map_lead_counted (s : Store) (account : String) (q : Query) :
    (counted s account q).map lead
      = q.seeds.flatMap fun seed => Store.contributions q (s.outgoing account seed) := by
  rw [counted, List.map_flatMap]
  refine List.flatMap_congr fun seed hseed => ?_
  rw [List.map_flatMap, Store.contributions, List.filterMap_eq_flatMap_toList]
  refine List.flatMap_congr fun e _ => ?_
  obtain ⟨target, bonds⟩ := e
  dsimp only [countedOf]
  cases bonds.find? q.relation with
  | none => simp
  | some b =>
    -- The row asks all at once what the store asks one after the other.
    have hcounts : counts q account ⟨account, seed, target, q.relation⟩ (.ofBond b)
        = (!q.seeds.contains target && decide ((q.lowerBound : Int) ≤ b.weight)
          && q.updateCutoff.all fun cutoff => decide (cutoff ≤ b.updatedAt)) := by
      cases hcutoff : q.updateCutoff <;> simp [counts, hseed, hcutoff]
    dsimp only
    rw [hcounts]
    by_cases htarget : target ∈ q.seeds
    · simp [htarget]
    · by_cases hweight : b.weight < q.lowerBound
      · simp [hweight]
      · have hheavy : (q.lowerBound : Int) ≤ b.weight := not_lt.1 hweight
        cases q.updateCutoff with
        | none => simp [htarget, hweight, hheavy, lead]
        | some cutoff =>
          by_cases htime : b.updatedAt < cutoff
          · simp [hweight, htime]
          · simp [htarget, hweight, hheavy, htime, not_lt.1 htime, lead]

/-! ## Adding up -/

/-- Whole numbers are added up to their sum, if it fits. -/
theorem sum?_eq {amounts : List Amount} (hwhole : ∀ a ∈ amounts, ∃ n, a = .whole n)
    (hfits : Word64.holds (amounts.map Amount.value).sum = true) :
    Amount.sum? amounts = some (amounts.map Amount.value).sum := by
  have htotal : amounts.foldr (fun a total => a.value + total) 0
      = (amounts.map Amount.value).sum := by
    rw [List.sum, List.foldr_map]
  unfold Amount.sum?
  dsimp only
  rw [htotal, if_pos, if_pos hfits]
  refine List.all_eq_true.2 fun a ha => ?_
  obtain ⟨n, rfl⟩ := hwhole a ha
  rfl

theorem foldl_amounts (rows : List (RowKey × Cells)) (ws : List Amount) :
    rows.foldl (fun o row => some (o.getD [] ++ [row.2.weight])) (some ws)
      = some (ws ++ rows.map fun row => row.2.weight) := by
  induction rows generalizing ws with
  | nil => simp
  | cons row rest ih => rw [List.foldl_cons, Option.getD_some, ih, List.map_cons,
      List.append_assoc, List.singleton_append]

/-- The group of a contact has the weights of the rows that lead to it. -/
theorem find?_groups (rows : List (RowKey × Cells)) (target : String) :
    (groups rows).find? target
      = if rows.filter (·.1.target = target) = [] then none
        else some ((rows.filter (·.1.target = target)).map fun row => row.2.weight) := by
  rw [groups, Keyed.find?_foldl_upsert (fun row : RowKey × Cells => row.1.target)
    fun row ws => ws.getD [] ++ [row.2.weight]]
  cases rows.filter (·.1.target = target) with
  | nil => rfl
  | cons row rest =>
    rw [List.foldl_cons, Keyed.find?_empty, Option.getD_none, List.nil_append, foldl_amounts]
    rfl

/-- The sums of the groups are the totals. -/
theorem perm_sums (rows : List (RowKey × Cells)) :
    ((groups rows).entries.map fun g => (g.1, (g.2.map Amount.value).sum)).Perm
      (Ranking.totals (rows.map lead)).entries := by
  have hnodup : ((groups rows).entries.map fun g => (g.1, (g.2.map Amount.value).sum)).Nodup := by
    refine List.Nodup.of_map Prod.fst ?_
    rw [List.map_map]
    exact (groups rows).distinct
  refine (List.perm_ext_iff_of_nodup hnodup (Keyed.nodup_entries _)).2 ?_
  rintro ⟨target, total⟩
  have hlead : (rows.map lead).filter (·.1 = target)
      = (rows.filter (·.1.target = target)).map lead := by
    rw [List.filter_map]
    rfl
  rw [Keyed.mem_entries, Ranking.find?_totals, hlead, List.mem_map]
  constructor
  · rintro ⟨⟨target', ws⟩, hmem, heq⟩
    rw [Prod.mk.injEq] at heq
    obtain ⟨rfl, rfl⟩ := heq
    rw [Keyed.mem_entries, find?_groups] at hmem
    split at hmem
    · exact absurd hmem (by simp)
    · next hne =>
      rw [Option.some.injEq] at hmem
      rw [if_neg (by simpa using hne), ← hmem, List.map_map, List.map_map]
      rfl
  · intro htotal
    split at htotal
    · exact absurd htotal (by simp)
    · next hne =>
      rw [Option.some.injEq, List.map_map] at htotal
      refine ⟨(target, (rows.filter (·.1.target = target)).map fun row => row.2.weight), ?_, ?_⟩
      · rw [Keyed.mem_entries, find?_groups, if_neg (by simpa using hne)]
      · rw [← htotal, List.map_map]
        rfl

/-! ## Answering -/

theorem bindQuery_eq (hbound : Word64.holds q.lowerBound = true)
    (hcutoff : ∀ cutoff ∈ q.updateCutoff, Word64.holds cutoff = true)
    (hlimit : Word64.holds q.limit = true) : bindQuery q = .ok () := by
  rw [bindQuery, bind_of_holds hbound, bind_of_holds hlimit]
  cases hq : q.updateCutoff with
  | none => split <;> rfl
  | some cutoff =>
    simp only [bind_of_holds (hcutoff cutoff hq)]
    split <;> rfl

/-- A query whose integers and sums fit has the answer that it has in the store. -/
theorem related_eq (h : rows.Shows account s) (hbound : Word64.holds q.lowerBound = true)
    (hcutoff : ∀ cutoff ∈ q.updateCutoff, Word64.holds cutoff = true)
    (hlimit : Word64.holds q.limit = true)
    (hsums : ∀ e ∈ (Ranking.totals (q.seeds.flatMap fun seed =>
      Store.contributions q (s.outgoing account seed))).entries, Word64.holds e.2 = true) :
    rows.related account q = .ok (s.related account q) := by
  let found := rows.entries.filter fun row => counts q account row.1 row.2
  let sum (g : String × List Amount) : String × Int := (g.1, (g.2.map Amount.value).sum)
  have hfound : found.Perm (counted s account q) := perm_counted h q
  have htotals : ((groups found).entries.map sum).Perm
      (Ranking.totals (q.seeds.flatMap fun seed =>
        Store.contributions q (s.outgoing account seed))).entries := by
    rw [← map_lead_counted]
    exact (perm_sums found).trans (Ranking.perm_totals (hfound.map lead))
  have hgroup : ∀ g ∈ (groups found).entries, Amount.sum? g.2 = some (sum g).2 := by
    intro g hg
    refine sum?_eq (fun a ha => ?_)
      (hsums _ (htotals.mem_iff.1 (List.mem_map_of_mem hg)))
    have hweights := Keyed.mem_entries.1 hg
    rw [find?_groups] at hweights
    split at hweights
    · exact absurd hweights (by simp)
    · rw [Option.some.injEq] at hweights
      rw [← hweights] at ha
      obtain ⟨row, hrow, rfl⟩ := List.mem_map.1 ha
      have hcounted := (mem_counted.1 (hfound.mem_iff.1 (List.mem_filter.1 hrow).1)).2
      obtain ⟨b, _, hb⟩ := Option.map_eq_some_iff.1 hcounted
      exact ⟨b.weight, by rw [← hb, Cells.ofBond]⟩
  rw [related, bindQuery_eq hbound hcutoff hlimit]
  show Except.bind (List.mapM (m := Except Refusal) _ (groups found).entries) _ = _
  rw [mapM_eq_ok (g := sum)]
  · rw [Store.related, Ranking.rank_eq, ← Ranking.sorted_eq_of_perm htotals]
    show Except.ok _ = _
    by_cases hzero : q.limit = 0
    · simp [hzero]
    · simp [hzero, Nat.pos_of_ne_zero hzero]
  · intro g hg
    obtain ⟨target, amounts⟩ := g
    have hsum := hgroup _ hg
    dsimp only at hsum ⊢
    rw [hsum]

end Rapport.Sql.Rows
