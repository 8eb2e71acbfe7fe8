import Mathlib.Algebra.BigOperators.Group.Finset.Basic
import Rapport.Proofs.Pruning
import Rapport.Proofs.Ranking

set_option autoImplicit false

/-! # What a query answers

A query in memory looks at one seed after the other, and each `Sighting` adds what it finds to the
totals. What an edge adds is settled by one relation of it: nothing unless it `Counts`, else its
weight (`Store.worth`). So the total of a contact is the sum of what it is worth to the sightings
(`find?_totals_found`), and the answer is the list of these totals in order.

This says all there is to an answer: `related_inMemory` takes it from the relations of the edges and
the set of the seeds, and neither the order in which the store keeps the edges nor that of the
contacts asked about, or their repetition, has any say in it. -/

namespace Rapport

/-! ## Entries under one key -/

/-- What is made of the entries of a collection, and keeps their keys, has at most one thing under a
    key. -/
theorem Keyed.filter_filterMap {κ ν β : Type} [DecidableEq κ] (m : Keyed κ ν)
    {f : κ × ν → Option (κ × β)} (hf : ∀ e x, f e = some x → x.1 = e.1) (k : κ) :
    (m.entries.filterMap f).filter (·.1 = k) = ((m.find? k).bind fun v => f (k, v)).toList := by
  have hentries : ∀ es : List (κ × ν), (es.map Prod.fst).Nodup →
      (es.filterMap f).filter (·.1 = k) = ((findIn k es).bind fun v => f (k, v)).toList := by
    intro es hes
    induction es with
    | nil => rfl
    | cons e rest ih =>
      obtain ⟨k₀, v⟩ := e
      obtain ⟨hk₀, hrest⟩ := List.nodup_cons.1 hes
      have ih := ih hrest
      by_cases hk : k₀ = k
      · subst hk
        rw [(findIn_eq_none_iff k₀ rest).2 hk₀, Option.bind_none, Option.toList_none] at ih
        rw [findIn, if_pos rfl, Option.bind_some]
        cases hx : f (k₀, v) with
        | none => rw [List.filterMap_cons_none hx, ih, Option.toList_none]
        | some x =>
          rw [List.filterMap_cons_some hx, List.filter_cons_of_pos (by simpa using hf _ x hx), ih,
            Option.toList_some]
      · rw [findIn, if_neg hk, ← ih]
        cases hx : f (k₀, v) with
        | none => rw [List.filterMap_cons_none hx]
        | some x =>
          have hne : ¬x.1 = k := fun heq => hk ((hf _ x hx).symm.trans heq)
          rw [List.filterMap_cons_some hx, List.filter_cons_of_neg (by simpa using hne)]
  exact hentries m.entries m.distinct

/-! ## What counts -/

namespace Query

/-- A relation is heavy and recent enough for a query. -/
def Counts (q : Query) (b : Bond) : Prop :=
  (q.lowerBound : Int) ≤ b.weight ∧ ∀ cutoff ∈ q.updateCutoff, cutoff ≤ b.updatedAt

instance (q : Query) (b : Bond) : Decidable (q.Counts b) := inferInstanceAs (Decidable (_ ∧ _))

/-- The set of the keys of the contacts asked about. -/
def seedKeys (q : Query) : Finset String :=
  (q.contacts.map fun address => (⟨address, q.source⟩ : Contact).key).toFinset

theorem mem_seeds {q : Query} {k : String} : k ∈ q.seeds ↔ k ∈ q.seedKeys := by
  rw [seeds, Ascending.mem_ofList, seedKeys, List.mem_toFinset, seedContacts, List.map_map]
  rfl

theorem nodup_seeds (q : Query) : q.seeds.Nodup :=
  (Ascending.pairwise_ofList _).imp fun hlt => hlt.ne

/-- The combined relation is ranked for all channels, and where there is none. -/
theorem relation_eq (q : Query) :
    q.relation = if q.allChannels then "combined" else (q.channel.map (·.name)).getD "combined" := by
  rw [relation]
  cases q.channel with
  | none => exact (ite_self _).symm
  | some channel => rfl

/-- The list of the seeds has each of the keys once. -/
theorem sum_seeds (q : Query) (f : String → Int) :
    (q.seeds.map f).sum = ∑ seed ∈ q.seedKeys, f seed := by
  have hkeys : q.seeds.toFinset = q.seedKeys := by
    ext k
    rw [List.mem_toFinset, mem_seeds]
  rw [← hkeys, List.sum_toFinset f q.nodup_seeds]

end Query

namespace Store

/-- The relation of the edge from a seed to another contact that a query looks at, if it counts. -/
def counted? (s : Store) (account : String) (q : Query) (seed target : String) : Option Bond :=
  (s.bond? account seed target q.relation).filter fun b => q.Counts b

/-- What the edge from a seed to another contact is worth to a query. -/
def worth (s : Store) (account : String) (q : Query) (seed target : String) : Int :=
  ((s.counted? account q seed target).map (·.weight)).getD 0

/-- An edge contributes its weight if it leads away from the seeds and counts. -/
theorem contribution_eq (q : Query) (e : String × Bonds) :
    contribution q e
      = if e.1 ∈ q.seeds then none
        else ((e.2.find? q.relation).filter fun b => q.Counts b).map fun b => (e.1, b.weight) := by
  unfold contribution
  by_cases hseed : e.1 ∈ q.seeds
  · rw [if_pos (List.contains_iff_mem.2 hseed), if_pos hseed]
  · rw [if_neg (by simpa using hseed), if_neg hseed]
    cases e.2.find? q.relation with
    | none => rfl
    | some b =>
      dsimp only
      by_cases hweight : b.weight < q.lowerBound
      · rw [if_pos hweight, Option.filter_some, if_neg]
        · rfl
        · simp [Query.Counts, not_le.2 hweight]
      · rw [if_neg hweight, Option.filter_some]
        have hheavy : (q.lowerBound : Int) ≤ b.weight := not_lt.1 hweight
        cases hcutoff : q.updateCutoff with
        | none => simp [Query.Counts, hheavy, hcutoff]
        | some cutoff =>
          by_cases htime : b.updatedAt < cutoff
          · simp [Query.Counts, hcutoff, htime]
          · simp [Query.Counts, hheavy, hcutoff, htime, not_lt.1 htime]

/-- Of what a snapshot contributes, one edge at most leads to a given contact. -/
theorem filter_contributions (s : Store) (account : String) (q : Query) (seed target : String) :
    (contributions q (s.outgoing account seed)).filter (·.1 = target)
      = if target ∈ q.seeds then []
        else ((s.counted? account q seed target).map fun b => (target, b.weight)).toList := by
  have hkey : ∀ e x, contribution q e = some x → x.1 = e.1 := by
    intro e x hx
    rw [contribution_eq] at hx
    split at hx
    · cases hx
    · obtain ⟨b, _, rfl⟩ := Option.map_eq_some_iff.1 hx
      rfl
  rw [contributions_eq, outgoing, Keyed.filter_filterMap _ hkey]
  simp only [contribution_eq]
  by_cases hseed : target ∈ q.seeds
  · simp only [if_pos hseed, Option.bind_fun_none, Option.toList_none]
  · simp only [if_neg hseed]
    rw [counted?, bond?_eq, record?]
    cases (s.edges account seed).find? target <;> rfl

end Store

/-! ## Looking at one seed after the other -/

/-- A look at the edges that leave a seed, and the store as it is then. -/
structure Sighting where
  store : Store
  seed : String

namespace Query

/-- What a query finds in some sightings. -/
def found (q : Query) (account : String) (sightings : List Sighting) : List (String × Int) :=
  sightings.flatMap fun x => Store.contributions q (x.store.outgoing account x.seed)

variable {q : Query} {account : String} {target : String}

theorem filter_found (h : target ∉ q.seeds) (sightings : List Sighting) :
    (q.found account sightings).filter (·.1 = target)
      = sightings.filterMap fun x =>
          (x.store.counted? account q x.seed target).map fun b => (target, b.weight) := by
  rw [found, List.filter_flatMap, List.filterMap_eq_flatMap_toList]
  refine List.flatMap_congr fun x _ => ?_
  rw [Store.filter_contributions, if_neg h]

/-- What leads to a contact adds up to what the contact is worth to the sightings. -/
theorem sum_filter_found (h : target ∉ q.seeds) (sightings : List Sighting) :
    (((q.found account sightings).filter (·.1 = target)).map Prod.snd).sum
      = (sightings.map fun x => x.store.worth account q x.seed target).sum := by
  rw [filter_found h]
  induction sightings with
  | nil => rfl
  | cons x rest ih =>
    rw [List.map_cons, List.sum_cons, ← ih, Store.worth]
    cases hx : x.store.counted? account q x.seed target with
    | none =>
      rw [List.filterMap_cons_none (by rw [hx, Option.map_none]), Option.map_none,
        Option.getD_none, zero_add]
    | some b =>
      rw [List.filterMap_cons_some (by rw [hx, Option.map_some]), List.map_cons, List.sum_cons,
        Option.map_some, Option.getD_some]

theorem filter_found_eq_nil_iff (h : target ∉ q.seeds) (sightings : List Sighting) :
    (q.found account sightings).filter (·.1 = target) = []
      ↔ ¬∃ x ∈ sightings, (x.store.counted? account q x.seed target).isSome = true := by
  rw [filter_found h, List.filterMap_eq_nil_iff]
  simp

/-- The total of a contact is what it is worth to all sightings together. It has one if it counts to
    some of them. -/
theorem find?_totals_found_eq_some_iff (h : target ∉ q.seeds) (sightings : List Sighting)
    (weight : Int) :
    (Ranking.totals (q.found account sightings)).find? target = some weight
      ↔ (∃ x ∈ sightings, (x.store.counted? account q x.seed target).isSome = true)
        ∧ weight = (sightings.map fun x => x.store.worth account q x.seed target).sum := by
  rw [Ranking.find?_totals, sum_filter_found h]
  by_cases hnil : (q.found account sightings).filter (·.1 = target) = []
  · rw [if_pos hnil]
    exact iff_of_false nofun fun hcounts => (filter_found_eq_nil_iff h sightings).1 hnil hcounts.1
  · rw [if_neg hnil, Option.some_inj]
    have hcounts := not_not.1 (mt (filter_found_eq_nil_iff h sightings).2 hnil)
    exact ⟨fun heq => ⟨hcounts, heq.symm⟩, fun hboth => hboth.2.symm⟩

/-- No seed has a total. -/
theorem find?_totals_found_of_mem (h : target ∈ q.seeds) (sightings : List Sighting) :
    (Ranking.totals (q.found account sightings)).find? target = none := by
  rw [Ranking.find?_totals, if_pos]
  rw [found, List.filter_flatMap, List.flatMap_eq_nil_iff]
  intro x _
  rw [Store.filter_contributions, if_pos h]

/-- The sightings of a query that nothing comes between. -/
def sightings (q : Query) (s : Store) : List Sighting := q.seeds.map fun seed => ⟨s, seed⟩

end Query

namespace Store

variable {s : Store} {account : String} {q : Query}

theorem related_eq (s : Store) (account : String) (q : Query) :
    s.related account q = Ranking.rank (q.found account (q.sightings s)) q.limit := by
  rw [related, Query.found, Query.sightings, List.flatMap_map]

/-- The total of a contact, from the set of the seeds. -/
theorem find?_totals_sightings (s : Store) (account : String) (q : Query) (target : String)
    (weight : Int) :
    (Ranking.totals (q.found account (q.sightings s))).find? target = some weight
      ↔ target ∉ q.seedKeys
        ∧ (∃ seed ∈ q.seedKeys, (s.counted? account q seed target).isSome = true)
        ∧ weight = ∑ seed ∈ q.seedKeys, s.worth account q seed target := by
  by_cases hseed : target ∈ q.seeds
  · rw [Query.find?_totals_found_of_mem hseed]
    exact iff_of_false nofun fun h => h.1 (Query.mem_seeds.1 hseed)
  · have hsum : ((q.sightings s).map fun x => x.store.worth account q x.seed target).sum
        = ∑ seed ∈ q.seedKeys, s.worth account q seed target := by
      rw [Query.sightings, List.map_map]
      exact q.sum_seeds fun seed => s.worth account q seed target
    have hcounts : (∃ x ∈ q.sightings s, (x.store.counted? account q x.seed target).isSome = true)
        ↔ ∃ seed ∈ q.seedKeys, (s.counted? account q seed target).isSome = true := by
      simp only [Query.sightings, List.mem_map, exists_exists_and_eq_and, Query.mem_seeds]
    rw [Query.find?_totals_found_eq_some_iff hseed, hsum, hcounts]
    exact ⟨fun h => ⟨mt Query.mem_seeds.2 hseed, h⟩, And.right⟩

/-- An answer depends on the relations that count, and on the set of the seeds. -/
theorem related_congr {s' : Store} {q' : Query} (hkeys : q'.seedKeys = q.seedKeys)
    (hcounted : ∀ seed target, s'.counted? account q' seed target = s.counted? account q seed target)
    (hlimit : q'.limit = q.limit) : s'.related account q' = s.related account q := by
  have hperm : (Ranking.totals (q'.found account (q'.sightings s'))).entries.Perm
      (Ranking.totals (q.found account (q.sightings s))).entries := by
    refine Keyed.perm_entries fun target => Option.ext fun weight => ?_
    simp only [find?_totals_sightings, worth, hkeys, hcounted]
  rw [related_eq, related_eq, Ranking.rank_eq, Ranking.rank_eq, hlimit,
    Ranking.sorted_eq_of_perm hperm]

/-- The contacts that a query lists, under their keys and with their totals. -/
def listed (s : Store) (account : String) (q : Query) : List (String × Int) :=
  let ordered := Ranking.sorted (Ranking.totals (q.found account (q.sightings s))).entries
  if q.limit = 0 then ordered else ordered.take q.limit

theorem related_eq_map (s : Store) (account : String) (q : Query) :
    s.related account q = (s.listed account q).map Ranking.suggestion := by
  rw [related_eq, Ranking.rank_eq, listed]
  by_cases hzero : q.limit = 0
  · simp [hzero]
  · simp [hzero, Nat.pos_of_ne_zero hzero]

end Store

namespace Ranking

/-- Contacts in order that are all different are in strict order. -/
theorem pairwise_strict {xs : List (String × Int)} (h : (xs.map Prod.fst).Nodup)
    (hordered : xs.Pairwise fun x y => before x y = true) :
    xs.Pairwise fun x y => y.2 < x.2 ∨ (x.2 = y.2 ∧ x.1 < y.1) := by
  have hdistinct : xs.Pairwise fun x y => x.1 ≠ y.1 := List.pairwise_map.1 h
  refine (hordered.and hdistinct).imp fun ⟨hbefore, hne⟩ => ?_
  exact (before_iff.1 hbefore).imp_right fun ⟨heq, hle⟩ => ⟨heq, lt_of_le_of_ne hle hne⟩

theorem nodup_map_fst_sorted (m : Keyed String Int) : ((sorted m.entries).map Prod.fst).Nodup :=
  ((List.mergeSort_perm m.entries before).map Prod.fst).nodup_iff.2 m.distinct

end Ranking

namespace Graph

theorem ends_related_inMemory (account : String) (q : Query) (s : Store) :
    ((inMemory account).related q).Ends s (.ok (s.related account q)) s :=
  (Action.Ends.state s).bind (Action.Ends.pure _ s)

/-- What a query in memory answers: each contact that is no seed and to which a relation leads from
    a seed that counts, with the sum of the weights of these relations, one for each seed however
    often it is given; heaviest first and equal ones by key; no more than are wanted, if there is a
    limit; and each under its address. The relation is that of the channel that is given, or the
    combined one if none is or all are asked for. Two stores that hold the same relations of the
    account give the same answer to the same set of contacts. -/
theorem outcome_related_inMemory (s : Store) (account : String) (q : Query) :
    let relation := if q.allChannels then "combined" else (q.channel.map (·.name)).getD "combined"
    let seeds := (q.contacts.map fun address => (⟨address, q.source⟩ : Contact).key).toFinset
    let counted (seed target : String) : Option Bond :=
      (s.bond? account seed target relation).filter fun b => q.Counts b
    ∃ entries : List (String × Int),
      (∀ target weight, (target, weight) ∈ entries
        ↔ target ∉ seeds
          ∧ (∃ seed ∈ seeds, (counted seed target).isSome = true)
          ∧ weight = ∑ seed ∈ seeds, ((counted seed target).map (·.weight)).getD 0)
      ∧ entries.Pairwise (fun x y => y.2 < x.2 ∨ (x.2 = y.2 ∧ x.1 < y.1))
      ∧ (((inMemory account).related q).outcome s).1
        = .ok ((if q.limit = 0 then entries else entries.take q.limit).map fun e =>
            ⟨Contact.addressOfKey e.1, e.2⟩)
      ∧ (((inMemory account).related q).outcome s).2.state = s
      ∧ ∀ (s' : Store) (contacts : List String),
          (∀ origin target relation, s'.bond? account origin target relation
            = s.bond? account origin target relation) →
          (∀ c, c ∈ contacts ↔ c ∈ q.contacts) →
          (((inMemory account).related { q with contacts }).outcome s').1
            = (((inMemory account).related q).outcome s).1 := by
  intro relation seeds counted
  have hcounted : ∀ seed target, counted seed target = s.counted? account q seed target := by
    intro seed target
    rw [Store.counted?, q.relation_eq]
  obtain ⟨hanswer, hstate⟩ := (ends_related_inMemory account q s).outcome
  refine ⟨Ranking.sorted (Ranking.totals (q.found account (q.sightings s))).entries,
    fun target weight => ?_, ?_, ?_, hstate, fun s' contacts hbonds hcontacts => ?_⟩
  · rw [Ranking.sorted, List.mem_mergeSort, Keyed.mem_entries, Store.find?_totals_sightings]
    simp only [hcounted]
    rfl
  · exact Ranking.pairwise_strict (Ranking.nodup_map_fst_sorted _) (Ranking.pairwise_sorted _)
  · rw [hanswer, Store.related_eq_map, Store.listed]
    rfl
  · have hkeys : Query.seedKeys { q with contacts } = q.seedKeys := by
      ext k
      simp only [Query.seedKeys, List.mem_toFinset, List.mem_map, hcontacts]
    have hsame : ∀ seed target, s'.counted? account { q with contacts } seed target
        = s.counted? account q seed target := by
      intro seed target
      exact congrArg (Option.filter _) (hbonds seed target q.relation)
    rw [hanswer, (ends_related_inMemory account { q with contacts } s').outcome.1,
      Store.related_congr hkeys hsame rfl]

/-- The steps of three messages: in one data source from one contact to a second and from a third to
    the same, and in none from the first to a fourth. -/
def threeTies : List Store.Step :=
  Store.reinforcing "x" ⟨"a", some "w"⟩ ⟨"b", some "w"⟩ { channel := .direct, timestamp := 7 }
    ++ Store.reinforcing "x" ⟨"c", some "w"⟩ ⟨"b", some "w"⟩ { channel := .cc, timestamp := 9 }
    ++ Store.reinforcing "x" ⟨"a", none⟩ ⟨"d", none⟩ { channel := .cc, timestamp := 8 }

/-- The steps have been taken in another order, and a contact is asked about twice: through one
    channel, and through all. -/
theorem outcome_related_inMemory_threeTies :
    (∀ origin target relation,
        (({} : Store).run threeTies.reverse).bond? "x" origin target relation
          = (({} : Store).run threeTies).bond? "x" origin target relation)
      ∧ ({} : Store).run threeTies.reverse ≠ ({} : Store).run threeTies
      ∧ ∀ allChannels,
          let q : Query :=
            { contacts := ["c", "a", "c"], source := some "w", channel := some .cc, allChannels }
          (((inMemory "x").related q).outcome (({} : Store).run threeTies.reverse)).1
            = .ok [⟨"b", if allChannels then 5 else 2⟩] := by
  have hbonds : ∀ origin target relation,
      (({} : Store).run threeTies.reverse).bond? "x" origin target relation
        = (({} : Store).run threeTies).bond? "x" origin target relation :=
    fun origin target relation => Store.bond?_run_perm {} (List.reverse_perm threeTies)
      (by simp [threeTies, Store.reinforcing]) "x" origin target relation
  refine ⟨hbonds, by decide +kernel, fun allChannels => ?_⟩
  obtain ⟨_, _, _, _, _, hsame⟩ := outcome_related_inMemory (({} : Store).run threeTies) "x"
    { contacts := ["a", "c"], source := some "w", channel := some .cc, allChannels }
  refine (hsame _ ["c", "a", "c"] hbonds (by simp [or_comm])).trans ?_
  cases allChannels <;> decide +kernel

end Graph

end Rapport
