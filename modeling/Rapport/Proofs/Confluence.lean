import Rapport.Proofs.List
import Rapport.Proofs.Mail.Event
import Rapport.Proofs.Schedule

set_option autoImplicit false

/-! # Writers at work together

A `Writer` reinforces one tie, or brings a message to the graph of its account. What it writes is
settled before it begins: its ties, each in several steps. `Writer.additions` lists what this adds to
a relation of an edge, and `bond?_interleaved` says that any number of writers together add just
this, in whatever order their steps are taken. -/

namespace Rapport

/-! ## The additions of ties -/

/-- What a tie adds to a relation of an edge. -/
def Tie.additions (origin target relation : String) (t : Tie) : List Addition :=
  if t.writes origin target then
    List.replicate (t.reinforcement.relations.count relation)
      ⟨t.reinforcement.amount, t.reinforcement.timestamp⟩
  else []

namespace Store

theorem additions_reinforcing (account : String) (t : Tie)
    (account' origin target relation : String) :
    (reinforcing account t.first t.second t.reinforcement).flatMap
        (·.additions account' origin target relation)
      = if account' = account then t.additions origin target relation else [] := by
  have hensure : ((t.reinforcement.edges t.first t.second).map
      fun e => Step.ensure account e.1 e.2 t.reinforcement.relations).flatMap
        (·.additions account' origin target relation) = [] := by
    rw [List.flatMap_map, List.flatMap_eq_nil_iff]
    exact fun _ _ => rfl
  rw [reinforcing, List.flatMap_append, hensure, List.nil_append, List.flatMap_map]
  simp only [Step.additions]
  by_cases ha : account' = account
  · simp only [ha, true_and, if_true]
    rw [flatMap_ite_eq (t.reinforcement.nodup_edges t.first t.second) (origin, target)]
    simp only [← Tie.writes_iff, Tie.additions]
  · simp [ha]

theorem additions_tying (account : String) (ties : List Tie)
    (account' origin target relation : String) :
    (tying account ties).flatMap (·.additions account' origin target relation)
      = if account' = account then ties.flatMap (·.additions origin target relation) else [] := by
  rw [tying, List.flatMap_assoc]
  simp only [additions_reinforcing]
  by_cases ha : account' = account
  · simp [ha]
  · simp [ha]

/-- The steps of ties reach a relation only if one of them adds something to it. -/
theorem additions_ne_nil_of_reaches {account : String} {ties : List Tie} {step : Step}
    (hstep : step ∈ tying account ties) {account' origin target relation : String}
    (h : step.reaches account' origin target relation = true) :
    (tying account ties).flatMap (·.additions account' origin target relation) ≠ [] := by
  -- What is created on an edge is increased there later on.
  obtain ⟨t, ht, e, he, hstep⟩ := exists_of_mem_tying hstep
  have hreaches : account' = account ∧ (origin, target) = (e.1, e.2)
      ∧ relation ∈ t.reinforcement.relations := by
    rcases hstep with rfl | rfl
    · exact of_decide_eq_true h
    · exact of_decide_eq_true h
  obtain ⟨rfl, hedge, hrelation⟩ := hreaches
  have hwrites : t.writes origin target = true := Tie.writes_iff.2 (hedge ▸ he)
  have hadds : t.additions origin target relation ≠ [] := by
    rw [Tie.additions, if_pos hwrites, ne_eq, List.replicate_eq_nil_iff, List.count_eq_zero]
    exact not_not_intro hrelation
  rw [additions_tying, if_pos rfl, ne_eq, List.flatMap_eq_nil_iff]
  exact fun hnil => hadds (hnil t ht)

end Store

/-! ## Writers -/

/-- Someone who writes to the graphs of accounts. -/
inductive Writer
  /-- By reinforcing a tie. -/
  | update (account : String) (a b : Contact) (r : Reinforcement)
  /-- By bringing a message, as the settings say. -/
  | mail (settings : Settings) (e : Mail.Event)

namespace Writer

/-- The account whose graph is written to. -/
def account : Writer → String
  | update account _ _ _ => account
  | mail _ e => e.account

/-- The ties that are made. -/
def ties : Writer → List Tie
  | update _ a b r => (Request.reinforce a b r).ties
  | mail settings e => e.ties settings.maxCliqueSize

/-- The steps that are taken, in order. -/
def steps (w : Writer) : List Store.Step := Store.tying w.account w.ties

/-- What a writer does when nobody else is at work. -/
def act : Writer → Action Deployment Unit
  | update account a b r => do (← Registry.graph account).reinforce a b r
  | mail settings e => e.deliver settings

/-- What a writer adds to a relation of an edge. -/
def additions (account origin target relation : String) (w : Writer) : List Addition :=
  if account = w.account then w.ties.flatMap (·.additions origin target relation) else []

/-! ## Steps in any order -/

theorem additions_steps (w : Writer) (account origin target relation : String) :
    w.steps.flatMap (·.additions account origin target relation)
      = w.additions account origin target relation :=
  Store.additions_tying _ _ _ _ _ _

theorem not_mem_steps (w : Writer) (account : String) (p : String → String → Bonds → Bool) :
    .remove account p ∉ w.steps := by
  intro h
  obtain ⟨t, _, e, _, h | h⟩ := Store.exists_of_mem_tying h
  · exact Store.Step.noConfusion h
  · exact Store.Step.noConfusion h

/-- All steps of some writers, in whatever order, add to a relation just what the writers do. -/
theorem bond?_run_of_perm (s : Store) {writers : List Writer} {steps : List Store.Step}
    (h : steps.Perm (writers.flatMap Writer.steps)) (account origin target relation : String) :
    (s.run steps).bond? account origin target relation
      = if writers.flatMap (·.additions account origin target relation) = [] then
          s.bond? account origin target relation
        else some (Bond.afterAll (s.bond? account origin target relation)
          (writers.flatMap (·.additions account origin target relation))) := by
  have hadditions : (steps.flatMap (·.additions account origin target relation)).Perm
      (writers.flatMap (·.additions account origin target relation)) := by
    refine (h.flatMap_right _).trans (.of_eq ?_)
    rw [List.flatMap_assoc]
    exact List.flatMap_congr fun w _ => w.additions_steps account origin target relation
  have hremove : ∀ account p, .remove account p ∉ steps := by
    intro account p hmem
    obtain ⟨w, _, hmem⟩ := List.mem_flatMap.1 (h.mem_iff.1 hmem)
    exact w.not_mem_steps account p hmem
  rw [s.bond?_run hremove]
  by_cases hnil : writers.flatMap (·.additions account origin target relation) = []
  · have hnone : ¬steps.any (·.reaches account origin target relation) = true := by
      intro hany
      obtain ⟨step, hstep, hreaches⟩ := List.any_eq_true.1 hany
      obtain ⟨w, hw, hmem⟩ := List.mem_flatMap.1 (h.mem_iff.1 hstep)
      refine Store.additions_ne_nil_of_reaches hmem hreaches ?_
      exact (w.additions_steps account origin target relation).trans
        (List.flatMap_eq_nil_iff.1 hnil w hw)
    rw [if_neg hnone, if_pos hnil]
  · have hany : steps.any (·.reaches account origin target relation) = true := by
      by_contra hnone
      rw [Bool.not_eq_true, List.any_eq_false] at hnone
      have hempty : steps.flatMap (·.additions account origin target relation) = [] :=
        List.flatMap_eq_nil_iff.2 fun step hstep =>
          Store.Step.additions_of_not_reaches (by simpa using hnone step hstep)
      rw [hempty] at hadditions
      exact hnil hadditions.symm.eq_nil
    rw [if_pos hany, if_neg hnil, Bond.afterAll_perm _ hadditions]

/-! ## One writer after the other -/

/-- What a writer does comes down to its steps, in a backend that keeps its graphs in memory. -/
theorem exists_ends_act {d : Deployment} {serial : Nat} {shelf : Shelf}
    (hd : d.active = some ⟨serial, .memory shelf⟩) (w : Writer) :
    ∃ result d', w.act.Ends d result d' ∧ Deployment.Took w.account shelf d w.ties d' := by
  cases w with
  | update account a b r =>
    obtain ⟨d', hends, htook⟩ := (Backend.takesTies_graph serial shelf account).reinforce a b r d
    exact ⟨_, d', (Mail.ends_graph hd account).bind hends, htook⟩
  | mail settings e =>
    obtain ⟨d', hends, htook⟩ := e.exists_ends_deliver hd settings
    exact ⟨_, d', hends, htook⟩

/-- The deployment after writers, one after the other. -/
def actAll (d : Deployment) (writers : List Writer) : Deployment :=
  writers.foldl (fun d w => (w.act.outcome d).2.state) d

theorem store_actAll {d : Deployment} {serial : Nat} {shelf : Shelf}
    (hd : d.active = some ⟨serial, .memory shelf⟩) (writers : List Writer) :
    (actAll d writers).store shelf = (d.store shelf).run (writers.flatMap Writer.steps) := by
  induction writers generalizing d with
  | nil => rfl
  | cons w rest ih =>
    obtain ⟨result, d', hends, hstore, hsame⟩ := exists_ends_act hd w
    have hactive : d'.active = some ⟨serial, .memory shelf⟩ := by
      rw [← hd, ← hsame.1]
    have hact : actAll d (w :: rest) = actAll d' rest := by
      rw [actAll, List.foldl_cons, hends.outcome.2, actAll]
    rw [hact, ih hactive, hstore, List.flatMap_cons, Store.run_append, steps, Store.run_tying]

/-! ## Writers at work together -/

/-- However the steps of writers are interleaved, the store ends up the same: a relation that any of
    them adds to has grown by the sum of all their additions, and is as recent as the latest. It is
    also what the writers leave when they come one after the other, in any order. -/
theorem bond?_interleaved (writers : List Writer) (schedule : List Store.Step)
    (h : Interleaving (writers.map Writer.steps) schedule) :
    (∀ (s : Store) (account origin target relation : String),
      let old := s.bond? account origin target relation
      let additions := writers.flatMap (·.additions account origin target relation)
      (s.run schedule).bond? account origin target relation
        = if additions = [] then old
          else some {
            weight := (old.getD {}).weight + (additions.map (·.amount)).sum
            updatedAt := (additions.map (·.timestamp)).foldl max (old.getD {}).updatedAt })
    ∧ ∀ (d : Deployment) (serial : Nat) (shelf : Shelf),
        d.active = some ⟨serial, .memory shelf⟩ → ∀ order : List Writer, order.Perm writers →
          ∀ account origin target relation,
            ((actAll d order).store shelf).bond? account origin target relation
              = ((d.store shelf).run schedule).bond? account origin target relation := by
  have hperm : schedule.Perm (writers.flatMap Writer.steps) := h.perm_flatten
  refine ⟨fun s account origin target relation =>
    bond?_run_of_perm s hperm account origin target relation, ?_⟩
  intro d serial shelf hd order horder account origin target relation
  rw [store_actAll hd, bond?_run_of_perm _ hperm, bond?_run_of_perm _ (horder.flatMap_right _)]

/-- Two writers to the same two edges, through different channels. -/
def twoWriters : List Writer :=
  [.update "x" ⟨"b", none⟩ ⟨"a", none⟩ { channel := .cc, timestamp := 9, multiplier := 2 },
    .mail {} (.sent "x" { direct := ["a", "b"] } 7 none)]

/-- A schedule in which each of the two gets in between the steps of the other. -/
def crossed : List Store.Step :=
  [.ensure "x" "a" "b" ["cc", "combined"], .ensure "x" "a" "b" ["to", "combined"],
    .ensure "x" "b" "a" ["to", "combined"], .increment "x" "a" "b" ["to", "combined"] 3 7,
    .ensure "x" "b" "a" ["cc", "combined"], .increment "x" "a" "b" ["cc", "combined"] 4 9,
    .increment "x" "b" "a" ["cc", "combined"] 4 9, .increment "x" "b" "a" ["to", "combined"] 3 7]

theorem bond?_interleaved_crossed :
    Interleaving (twoWriters.map Writer.steps) crossed
      ∧ (({} : Store).run crossed).bond? "x" "a" "b" Channel.combinedName = some ⟨7, 9⟩
      ∧ ((actAll { active := some ⟨0, .memory .shared⟩ } twoWriters.reverse).store .shared).bond?
          "x" "a" "b" Channel.combinedName = some ⟨7, 9⟩ := by
  have hties : (Mail.Event.sent "x" { direct := ["a", "b"] } 7 none).ties 10
      = [⟨⟨"a", none⟩, ⟨"b", none⟩, { channel := .direct, timestamp := 7 }⟩] := by
    decide +kernel
  have hsteps : twoWriters.map Writer.steps
      = [[.ensure "x" "a" "b" ["cc", "combined"], .ensure "x" "b" "a" ["cc", "combined"],
          .increment "x" "a" "b" ["cc", "combined"] 4 9,
          .increment "x" "b" "a" ["cc", "combined"] 4 9],
        [.ensure "x" "a" "b" ["to", "combined"], .ensure "x" "b" "a" ["to", "combined"],
          .increment "x" "a" "b" ["to", "combined"] 3 7,
          .increment "x" "b" "a" ["to", "combined"] 3 7]] := by
    show [Store.tying "x" _, Store.tying "x"
      ((Mail.Event.sent "x" { direct := ["a", "b"] } 7 none).ties 10)] = _
    rw [hties]
    rfl
  have hcrossed : Interleaving (twoWriters.map Writer.steps) crossed := by
    rw [hsteps]
    exact .next [] _ (.next [_] [] (.next [_] [] (.next [_] [] (.next [] _ (.next [] _
      (.next [] _ (.next [_] [] (.done (by simp)))))))))
  obtain ⟨hbond, horder⟩ := bond?_interleaved twoWriters crossed hcrossed
  have hsum : (({} : Store).run crossed).bond? "x" "a" "b" Channel.combinedName = some ⟨7, 9⟩ :=
    (hbond {} "x" "a" "b" Channel.combinedName).trans (by decide +kernel)
  exact ⟨hcrossed, hsum,
    (horder _ 0 .shared rfl _ (List.reverse_perm _) "x" "a" "b" Channel.combinedName).trans hsum⟩

end Writer

end Rapport
