import Mathlib.Algebra.Order.BigOperators.Group.List
import Rapport.Proofs.List
import Rapport.Proofs.Schedule
import Rapport.Proofs.Suggestion

set_option autoImplicit false

/-! # Queries beside writers

A query looks at its seeds one after the other, and writers may take steps in between, so no single
store need explain its answer. What happens to the store is a list of `Event`s, the looks of the
query among the steps of the writers, and the query finds what its `sightings` show.

As long as nothing is removed and no amount is negative, a store only grows (`Grows`): relations stay
and become heavier and later, and what an edge is worth to a query does not become less
(`Grows.worth_le`). So what a query adds up for a contact lies between what it would have found at
its start and what it would have found at its end, with nothing in between: `total_interleaved`. -/

namespace Rapport

namespace Store

/-! ## Growing stores -/

/-- Every relation of a store is still there in another one, as heavy and as recent at least. -/
def Grows (s s' : Store) : Prop :=
  ∀ account origin target relation b, s.bond? account origin target relation = some b →
    ∃ b', s'.bond? account origin target relation = some b'
      ∧ b.weight ≤ b'.weight ∧ b.updatedAt ≤ b'.updatedAt

theorem Grows.refl (s : Store) : s.Grows s :=
  fun _ _ _ _ b hb => ⟨b, hb, le_refl _, le_refl _⟩

theorem Grows.trans {s s' s'' : Store} (h : s.Grows s') (h' : s'.Grows s'') : s.Grows s'' := by
  intro account origin target relation b hb
  obtain ⟨b', hb', hweight, htime⟩ := h account origin target relation b hb
  obtain ⟨b'', hb'', hweight', htime'⟩ := h' account origin target relation b' hb'
  exact ⟨b'', hb'', hweight.trans hweight', htime.trans htime'⟩

/-- Whether a step takes nothing away. -/
def Step.IsGrowing : Step → Prop
  | .ensure _ _ _ _ => True
  | .increment _ _ _ _ amount _ => 0 ≤ amount
  | .remove _ _ => False

theorem Step.IsGrowing.amount_nonneg {step : Step} (h : step.IsGrowing)
    {account origin target relation : String} {x : Addition}
    (hx : x ∈ step.additions account origin target relation) : 0 ≤ x.amount := by
  cases step with
  | ensure account' origin' target' relations => exact absurd hx List.not_mem_nil
  | increment account' origin' target' relations amount timestamp =>
    rw [Step.additions] at hx
    split at hx
    · rw [List.eq_of_mem_replicate hx]
      exact h
    · exact absurd hx List.not_mem_nil
  | remove account' p => exact absurd hx List.not_mem_nil

theorem grows_apply (s : Store) {step : Step} (h : step.IsGrowing) : s.Grows (s.apply step) := by
  intro account origin target relation b hb
  have hremove : ∀ account p, step ≠ .remove account p := by
    rintro account p rfl
    exact h
  rw [s.bond?_apply hremove, hb]
  split
  · refine ⟨_, rfl, ?_, le_foldl_max _ _⟩
    refine le_add_of_nonneg_right (List.sum_nonneg fun amount hamount => ?_)
    obtain ⟨x, hx, rfl⟩ := List.mem_map.1 hamount
    exact h.amount_nonneg hx
  · exact ⟨b, rfl, le_refl _, le_refl _⟩

/-- A relation that counts goes on counting, and no weight that counts is negative. -/
theorem Grows.worth_le {s s' : Store} (h : s.Grows s') (account : String) (q : Query)
    (seed target : String) : s.worth account q seed target ≤ s'.worth account q seed target := by
  rw [worth, worth]
  cases hcounted : s.counted? account q seed target with
  | none =>
    rw [Option.map_none, Option.getD_none]
    cases hcounted' : s'.counted? account q seed target with
    | none => exact le_refl 0
    | some b' =>
      have hcounts := of_decide_eq_true (Option.filter_eq_some_iff.1 hcounted').2
      exact (Int.natCast_nonneg q.lowerBound).trans hcounts.1
  | some b =>
    obtain ⟨hbond, hcounts⟩ := Option.filter_eq_some_iff.1 hcounted
    obtain ⟨hheavy, hrecent⟩ := of_decide_eq_true hcounts
    obtain ⟨b', hbond', hweight, htime⟩ := h account seed target q.relation b hbond
    have hcounts' : q.Counts b' :=
      ⟨hheavy.trans hweight, fun cutoff hcutoff => (hrecent cutoff hcutoff).trans htime⟩
    have hcounted' : s'.counted? account q seed target = some b' :=
      Option.filter_eq_some_iff.2 ⟨hbond', decide_eq_true hcounts'⟩
    rw [hcounted', Option.map_some, Option.map_some]
    exact hweight

/-! ## What happens while a query is at work -/

/-- What happens to a store: a step of a writer, or a look of a query at the edges that leave a
    seed. -/
inductive Event
  | step (step : Step)
  | look (seed : String)

/-- The seed that is looked at, if one is. -/
def Event.seed? : Event → Option String
  | step _ => none
  | look seed => some seed

/-- The store after some events. A look does not change it. -/
def pass (s : Store) : List Event → Store
  | [] => s
  | .step step :: rest => (s.apply step).pass rest
  | .look _ :: rest => s.pass rest

/-- What the looks among some events see. -/
def sightings (s : Store) : List Event → List Sighting
  | [] => []
  | .step step :: rest => (s.apply step).sightings rest
  | .look seed :: rest => ⟨s, seed⟩ :: s.sightings rest

theorem map_seed_sightings (s : Store) (events : List Event) :
    (s.sightings events).map (·.seed) = events.filterMap Event.seed? := by
  induction events generalizing s with
  | nil => rfl
  | cons event rest ih =>
    cases event with
    | step step => exact ih (s.apply step)
    | look seed => exact congrArg (seed :: ·) (ih s)

theorem filterMap_seed?_eq_nil {events : List Event} (h : ∀ seed, .look seed ∉ events) :
    events.filterMap Event.seed? = [] := by
  rw [List.filterMap_eq_nil_iff]
  intro event hevent
  cases event with
  | step step => rfl
  | look seed => exact absurd hevent (h seed)

theorem grows_pass (s : Store) {events : List Event}
    (h : ∀ step, .step step ∈ events → step.IsGrowing) : s.Grows (s.pass events) := by
  induction events generalizing s with
  | nil => exact Grows.refl s
  | cons event rest ih =>
    have hrest : ∀ step, .step step ∈ rest → step.IsGrowing :=
      fun step hstep => h step (List.mem_cons_of_mem _ hstep)
    cases event with
    | step step => exact (s.grows_apply (h step List.mem_cons_self)).trans (ih _ hrest)
    | look seed => exact ih s hrest

/-- What is seen lies between what the store was and what it becomes. -/
theorem grows_of_mem_sightings {s : Store} {events : List Event}
    (h : ∀ step, .step step ∈ events → step.IsGrowing) {x : Sighting}
    (hx : x ∈ s.sightings events) : s.Grows x.store ∧ x.store.Grows (s.pass events) := by
  induction events generalizing s with
  | nil => exact absurd hx List.not_mem_nil
  | cons event rest ih =>
    have hrest : ∀ step, .step step ∈ rest → step.IsGrowing :=
      fun step hstep => h step (List.mem_cons_of_mem _ hstep)
    cases event with
    | step step =>
      obtain ⟨hbefore, hafter⟩ := ih hrest hx
      exact ⟨(s.grows_apply (h step List.mem_cons_self)).trans hbefore, hafter⟩
    | look seed =>
      rcases List.mem_cons.1 hx with rfl | hx
      · exact ⟨Grows.refl s, s.grows_pass h⟩
      · exact ih hrest hx

end Store

namespace Query

/-- The looks of a query, in order. -/
def looks (q : Query) : List Store.Event := q.seeds.map .look

/-- What a query adds up for a contact; nothing, if the contact is not among what is found. -/
def total (q : Query) (account : String) (sightings : List Sighting) (target : String) : Int :=
  ((Ranking.totals (q.found account sightings)).find? target).getD 0

theorem sightings_looks (q : Query) (s : Store) : s.sightings q.looks = q.sightings s := by
  rw [looks, sightings]
  induction q.seeds with
  | nil => rfl
  | cons seed rest ih => exact congrArg (⟨s, seed⟩ :: ·) ih

theorem seeds_looks (q : Query) : q.looks.filterMap Store.Event.seed? = q.seeds := by
  rw [looks, List.filterMap_map]
  exact List.filterMap_some

variable {q : Query} {account : String} {target : String}

theorem total_eq (h : target ∉ q.seeds) (sightings : List Sighting) :
    q.total account sightings target
      = (sightings.map fun x => x.store.worth account q x.seed target).sum := by
  rw [← sum_filter_found h, total, Ranking.find?_totals]
  split
  · next hnil => rw [hnil]; rfl
  · rfl

theorem total_of_mem (h : target ∈ q.seeds) (sightings : List Sighting) :
    q.total account sightings target = 0 := by
  rw [total, find?_totals_found_of_mem h, Option.getD_none]

/-- Sightings of the same seeds in stores that have grown find no less. -/
theorem total_le_total {xs ys : List Sighting}
    (h : List.Forall₂ (fun x y => x.seed = y.seed ∧ x.store.Grows y.store) xs ys) :
    q.total account xs target ≤ q.total account ys target := by
  by_cases hseed : target ∈ q.seeds
  · rw [total_of_mem hseed, total_of_mem hseed]
  · rw [total_eq hseed, total_eq hseed]
    refine List.Forall₂.sum_le_sum ?_
    rw [List.forall₂_map_left_iff, List.forall₂_map_right_iff]
    refine h.imp fun x y hxy => ?_
    rw [hxy.1]
    exact hxy.2.worth_le account q y.seed target

/-- The looks of a query keep their order, whatever comes in between. -/
theorem seeds_of_interleaving {steps : List (List Store.Step)} {events : List Store.Event}
    (h : Interleaving (q.looks :: steps.map (·.map .step)) events) :
    events.filterMap Store.Event.seed? = q.seeds := by
  have hsteps : ((steps.map (·.map Store.Event.step)).flatten).filterMap Store.Event.seed?
      = [] := by
    rw [List.filterMap_eq_nil_iff]
    intro event hevent
    obtain ⟨_, hmem, hevent⟩ := List.mem_flatten.1 hevent
    obtain ⟨l, _, rfl⟩ := List.mem_map.1 hmem
    obtain ⟨step, _, rfl⟩ := List.mem_map.1 hevent
    rfl
  have hperm : (events.filterMap Store.Event.seed?).Perm q.seeds := by
    refine (h.perm_flatten.filterMap _).trans (.of_eq ?_)
    rw [List.flatten_cons, List.filterMap_append, hsteps, seeds_looks, List.append_nil]
  have hsublist : q.seeds.Sublist (events.filterMap Store.Event.seed?) := by
    rw [← seeds_looks]
    exact (h.sublist List.mem_cons_self).filterMap _
  exact (hsublist.eq_of_length hperm.length_eq.symm).symm

end Query

namespace Store

/-- The steps of ties grow, if no tie has a negative amount. -/
theorem isGrowing_of_mem_tying {account : String} {ties : List Tie}
    (hties : ∀ t ∈ ties, 0 ≤ t.reinforcement.amount) {step : Step}
    (h : step ∈ tying account ties) : step.IsGrowing := by
  obtain ⟨t, ht, e, _, rfl | rfl⟩ := exists_of_mem_tying h
  · exact trivial
  · exact hties t ht

/-- However the looks of a query at its seeds are interleaved with the steps of writers who make
    ties, none of a negative amount: what the query adds up for a contact is no less than it would
    have added up at its start, and no more than at its end, with nothing in between. Its start is
    any time before its first look, its end any time after its last. -/
theorem total_interleaved (s : Store) (account : String) (q : Query)
    (writers : List (String × List Tie))
    (hamounts : ∀ w ∈ writers, ∀ t ∈ w.2, 0 ≤ t.reinforcement.amount)
    (before during after : List Event)
    (h : Interleaving (q.looks :: writers.map fun w => (tying w.1 w.2).map .step)
      (before ++ during ++ after))
    (hbefore : ∀ seed, .look seed ∉ before) (hafter : ∀ seed, .look seed ∉ after)
    (target : String) :
    let start := s.pass before
    let finish := start.pass during
    q.total account (start.sightings q.looks) target
        ≤ q.total account (start.sightings during) target
      ∧ q.total account (start.sightings during) target
        ≤ q.total account (finish.sightings q.looks) target
      ∧ ∀ s' : Store, s'.related account q
        = Ranking.rank (q.found account (s'.sightings q.looks)) q.limit := by
  intro start finish
  have hgrowing : ∀ step, .step step ∈ during → step.IsGrowing := by
    intro step hstep
    obtain ⟨l, hl, hmem⟩ := h.mem (List.mem_append_left after (List.mem_append_right before hstep))
    rcases List.mem_cons.1 hl with rfl | hl
    · obtain ⟨seed, _, heq⟩ := List.mem_map.1 hmem
      cases heq
    · obtain ⟨w, hw, rfl⟩ := List.mem_map.1 hl
      obtain ⟨step', hstep', heq⟩ := List.mem_map.1 hmem
      cases heq
      exact isGrowing_of_mem_tying (hamounts w hw) hstep'
  have hseeds : (start.sightings during).map (·.seed) = q.seeds := by
    have hsteps : Interleaving
        (q.looks :: (writers.map fun w => tying w.1 w.2).map (·.map .step))
        (before ++ during ++ after) := by
      rw [List.map_map]
      exact h
    have hall := Query.seeds_of_interleaving hsteps
    rw [List.filterMap_append, List.filterMap_append, filterMap_seed?_eq_nil hbefore,
      filterMap_seed?_eq_nil hafter, List.nil_append, List.append_nil] at hall
    rw [map_seed_sightings, hall]
  rw [Query.sightings_looks, Query.sightings_looks, Query.sightings, Query.sightings, ← hseeds,
    List.map_map, List.map_map]
  refine ⟨Query.total_le_total ?_, Query.total_le_total ?_, fun s' => ?_⟩
  · rw [List.forall₂_map_left_iff, List.forall₂_same]
    exact fun x hx => ⟨rfl, (grows_of_mem_sightings hgrowing hx).1⟩
  · rw [List.forall₂_map_right_iff, List.forall₂_same]
    exact fun x hx => ⟨rfl, (grows_of_mem_sightings hgrowing hx).2⟩
  · rw [related_eq, Query.sightings_looks]

/-- Two messages that tie a third contact to two others. -/
def meeting : List (String × List Tie) :=
  [("x", [⟨⟨"a", none⟩, ⟨"c", none⟩, { channel := .direct, timestamp := 7, directed := true }⟩]),
    ("x", [⟨⟨"b", none⟩, ⟨"c", none⟩, { channel := .cc, timestamp := 9 }⟩])]

/-- A query that looks at the first of the two before the first message is done with it, and at the
    second when the second message is nearly done. -/
def meetingEvents : List Event :=
  [.look "a", .step (.increment "x" "a" "c" ["to", "combined"] 3 7),
    .step (.ensure "x" "b" "c" ["cc", "combined"]), .step (.ensure "x" "c" "b" ["cc", "combined"]),
    .step (.increment "x" "b" "c" ["cc", "combined"] 2 9), .look "b"]

/-- The query finds less than the whole, and no store in between explains its answer. -/
theorem total_interleaved_meeting :
    let q : Query := { contacts := ["b", "a"] }
    let before : List Event := [.step (.ensure "x" "a" "c" ["to", "combined"])]
    let after : List Event := [.step (.increment "x" "c" "b" ["cc", "combined"] 2 9)]
    let start := ({} : Store).pass before
    Interleaving (q.looks :: meeting.map fun w => (tying w.1 w.2).map .step)
        (before ++ meetingEvents ++ after)
      ∧ 0 ≤ q.total "x" (start.sightings meetingEvents) "c"
      ∧ q.total "x" (start.sightings meetingEvents) "c" = 2
      ∧ q.total "x" (start.sightings meetingEvents) "c" ≤ 5 := by
  intro q before after start
  have hseeds : q.looks = [.look "a", .look "b"] := by
    have hkeys : q.seeds = ["a", "b"] := by decide +kernel
    rw [Query.looks, hkeys, List.map_cons, List.map_cons, List.map_nil]
  have hmeeting : Interleaving (q.looks :: meeting.map fun w => (tying w.1 w.2).map .step)
      (before ++ meetingEvents ++ after) := by
    rw [hseeds]
    exact .next [_] _ (.next [] _ (.next [_] _ (.next [_, _] _ (.next [_, _] _ (.next [_, _] _
      (.next [] _ (.next [_, _] _ (.done (by simp)))))))))
  have hamounts : ∀ w ∈ meeting, ∀ t ∈ w.2, 0 ≤ t.reinforcement.amount := by
    simp [meeting, Reinforcement.amount, Channel.direct, Channel.cc]
  obtain ⟨hstart, hfinish, _⟩ := total_interleaved {} "x" q meeting hamounts before meetingEvents
    after hmeeting (by simp [before]) (by simp [after]) "c"
  have hzero : q.total "x" (start.sightings q.looks) "c" = 0 := by
    rw [hseeds]
    decide +kernel
  have hwhole : q.total "x" ((start.pass meetingEvents).sightings q.looks) "c" = 5 := by
    rw [hseeds]
    decide +kernel
  exact ⟨hmeeting, hzero ▸ hstart, by decide +kernel, hwhole ▸ hfinish⟩

end Store

end Rapport
