import Rapport.Proofs.Request

set_option autoImplicit false

/-! # Schedules

Several calls may be at work on one store. Each takes its steps in order, but between two of them
any number of steps of others may come. An `Interleaving` of some lists is a list in which each of
them has kept its order, so a schedule of calls is an interleaving of their steps.

`Store.bond?_run` says what a schedule without removals adds up to: a relation of an edge gains the
additions of all steps, whatever their order is. -/

namespace Rapport

/-! ## Interleavings -/

/-- Lists put together into one, in which each keeps its order: the first of some list comes first,
    and what is left of all goes on. -/
inductive Interleaving {α : Type} : List (List α) → List α → Prop
  | done {ls : List (List α)} (h : ∀ l ∈ ls, l = []) : Interleaving ls []
  | next {a : α} {rest xs : List α} (before after : List (List α))
      (h : Interleaving (before ++ rest :: after) xs) :
      Interleaving (before ++ (a :: rest) :: after) (a :: xs)

namespace Interleaving

variable {α : Type} {ls : List (List α)} {xs : List α}

theorem perm_flatten (h : Interleaving ls xs) : xs.Perm ls.flatten := by
  induction h with
  | done h => rw [List.flatten_eq_nil_iff.2 h]
  | next before after _ ih =>
    simp only [List.flatten_append, List.flatten_cons, List.cons_append] at ih ⊢
    exact (ih.cons _).trans List.perm_middle.symm

theorem sublist (h : Interleaving ls xs) {l : List α} (hl : l ∈ ls) : l.Sublist xs := by
  induction h generalizing l with
  | done h => rw [h l hl]
  | next before after _ ih =>
    rcases List.mem_append.1 hl with hl | hl
    · exact (ih (List.mem_append_left _ hl)).cons _
    · rcases List.mem_cons.1 hl with rfl | hl
      · exact (ih (List.mem_append_right _ List.mem_cons_self)).cons_cons _
      · exact (ih (List.mem_append_right _ (List.mem_cons_of_mem _ hl))).cons _

theorem mem (h : Interleaving ls xs) {a : α} (ha : a ∈ xs) : ∃ l ∈ ls, a ∈ l :=
  List.mem_flatten.1 (h.perm_flatten.mem_iff.1 ha)

end Interleaving

/-! ## The steps of requests -/

namespace Store

/-- The steps that make ties, one after the other. -/
def tying (account : String) (ties : List Tie) : List Step :=
  ties.flatMap fun t => reinforcing account t.first t.second t.reinforcement

/-- Every step that makes ties creates or increases an edge of one of them. -/
theorem exists_of_mem_tying {account : String} {ties : List Tie} {step : Step}
    (h : step ∈ tying account ties) :
    ∃ t ∈ ties, ∃ e ∈ t.reinforcement.edges t.first t.second,
      step = .ensure account e.1 e.2 t.reinforcement.relations
        ∨ step = .increment account e.1 e.2 t.reinforcement.relations t.reinforcement.amount
            t.reinforcement.timestamp := by
  obtain ⟨t, ht, hstep⟩ := List.mem_flatMap.1 h
  refine ⟨t, ht, ?_⟩
  rcases List.mem_append.1 hstep with hstep | hstep
  · obtain ⟨e, he, rfl⟩ := List.mem_map.1 hstep
    exact ⟨e, he, Or.inl rfl⟩
  · obtain ⟨e, he, rfl⟩ := List.mem_map.1 hstep
    exact ⟨e, he, Or.inr rfl⟩

theorem reinforcing_sublist_tying {ties : List Tie} {t : Tie} (ht : t ∈ ties) (account : String) :
    (reinforcing account t.first t.second t.reinforcement).Sublist (tying account ties) :=
  List.sublist_flatten_of_mem (List.mem_map_of_mem ht)

theorem run_append (s : Store) (xs ys : List Step) : s.run (xs ++ ys) = (s.run xs).run ys :=
  List.foldl_append

theorem run_tying (s : Store) (account : String) (ties : List Tie) :
    s.run (tying account ties) = s.tieAll account ties := by
  induction ties generalizing s with
  | nil => rfl
  | cons t rest ih =>
    rw [tying, List.flatMap_cons, run_append, tieAll_cons, ← ih]
    rfl

end Store

/-- The steps that a request takes in a store. Those that only read take none. -/
def Request.steps (account : String) : Request → List Store.Step
  | remove what => [.remove account what.takes]
  | q => Store.tying account q.ties

/-- The steps of a request that nothing comes between have its effect. -/
theorem Request.run_steps (account : String) (s : Store) (q : Request) :
    s.run (q.steps account) = q.effect account s := by
  cases q with
  | remove what => rfl
  | reinforce a b r => exact s.run_tying account _
  | clique contacts r => exact s.run_tying account _
  | bond a b relation => exact s.run_tying account _
  | related q => exact s.run_tying account _

theorem Request.mem_steps {q : Request} {account : String} {step : Store.Step}
    (h : step ∈ q.steps account) :
    step ∈ Store.tying account q.ties ∨ ∃ p, step = .remove account p := by
  cases q with
  | remove what => exact Or.inr ⟨_, List.mem_singleton.1 h⟩
  | reinforce a b r => exact Or.inl h
  | clique contacts r => exact Or.inl h
  | bond a b relation => exact Or.inl h
  | related q => exact Or.inl h

/-- A request takes all steps of each of its ties. -/
theorem Request.reinforcing_sublist_steps {q : Request} {t : Tie} (ht : t ∈ q.ties)
    (account : String) :
    (Store.reinforcing account t.first t.second t.reinforcement).Sublist (q.steps account) := by
  have htying := Store.reinforcing_sublist_tying ht account
  cases q with
  | remove what => exact absurd ht List.not_mem_nil
  | reinforce a b r => exact htying
  | clique contacts r => exact htying
  | bond a b relation => exact absurd ht List.not_mem_nil
  | related q => exact absurd ht List.not_mem_nil

/-! ## What steps add -/

/-- An amount that is added to the weight of a relation, and the time that comes with it. -/
structure Addition where
  amount : Int
  timestamp : Int
deriving DecidableEq, Repr

/-- A relation after additions; one that is not there has no weight. -/
def Bond.afterAll (old : Option Bond) (additions : List Addition) : Bond where
  weight := (old.getD {}).weight + (additions.map (·.amount)).sum
  updatedAt := (additions.map (·.timestamp)).foldl max (old.getD {}).updatedAt

theorem Bond.afterAll_singleton (old : Option Bond) (amount timestamp : Int) :
    afterAll old [⟨amount, timestamp⟩] = (old.getD {}).reinforced amount timestamp := by
  simp [afterAll, reinforced]

theorem Bond.afterAll_append (old : Option Bond) (xs ys : List Addition) :
    afterAll (some (afterAll old xs)) ys = afterAll old (xs ++ ys) := by
  simp [afterAll, add_assoc]

theorem Bond.afterAll_perm (old : Option Bond) {xs ys : List Addition} (h : xs.Perm ys) :
    afterAll old xs = afterAll old ys := by
  have hmax : (xs.map (·.timestamp)).foldl max (old.getD {}).updatedAt
      = (ys.map (·.timestamp)).foldl max (old.getD {}).updatedAt :=
    (h.map _).foldl_eq _
  rw [afterAll, afterAll, (h.map _).sum_eq, hmax]

namespace Store

/-- Whether a step creates or increases a relation of an edge. -/
def Step.reaches (account origin target relation : String) : Step → Bool
  | .ensure account' origin' target' relations
  | .increment account' origin' target' relations _ _ =>
    decide (account = account' ∧ (origin, target) = (origin', target') ∧ relation ∈ relations)
  | .remove _ _ => false

/-- What a step adds to a relation of an edge. One that is listed twice is added to twice. -/
def Step.additions (account origin target relation : String) : Step → List Addition
  | .increment account' origin' target' relations amount timestamp =>
    if account = account' ∧ (origin, target) = (origin', target') then
      List.replicate (relations.count relation) ⟨amount, timestamp⟩
    else []
  | .ensure _ _ _ _ | .remove _ _ => []

theorem bond?_alterEdge (s : Store) (account origin target : String) (f : Bonds → Bonds)
    (account' origin' target' relation : String) :
    (s.alterEdge account origin target f).bond? account' origin' target' relation
      = if account' = account ∧ (origin', target') = (origin, target) then
          (f ((s.record? account origin target).getD .empty)).find? relation
        else s.bond? account' origin' target' relation := by
  rw [bond?_eq, bond?_eq, record?_alterEdge]
  split
  · rw [Option.bind_some]
  · rfl

theorem find?_getD_record? (s : Store) (account origin target relation : String) :
    ((s.record? account origin target).getD .empty).find? relation
      = s.bond? account origin target relation := by
  rw [bond?_eq]
  cases s.record? account origin target <;> rfl

theorem bond?_ensure (s : Store) (account origin target : String) (relations : List String)
    (account' origin' target' relation : String) :
    (s.ensure account origin target relations).bond? account' origin' target' relation
      = if account' = account ∧ (origin', target') = (origin, target) ∧ relation ∈ relations then
          some ((s.bond? account' origin' target' relation).getD {})
        else s.bond? account' origin' target' relation := by
  rw [ensure, bond?_alterEdge, Keyed.find?_foldl_ensure, find?_getD_record?]
  by_cases hedge : account' = account ∧ (origin', target') = (origin, target)
  · obtain ⟨rfl, heq⟩ := hedge
    rw [Prod.mk.injEq] at heq
    obtain ⟨rfl, rfl⟩ := heq
    simp
  · rw [if_neg hedge, if_neg fun h => hedge ⟨h.1, h.2.1⟩]

theorem foldl_reinforced (old : Option Bond) (amount timestamp : Int) {α : Type} (l : List α) :
    l.foldl (fun b _ => some ((b.getD {}).reinforced amount timestamp)) old
      = if l = [] then old
        else some (Bond.afterAll old (List.replicate l.length ⟨amount, timestamp⟩)) := by
  induction l generalizing old with
  | nil => rfl
  | cons a rest ih =>
    rw [List.foldl_cons, ih, if_neg (List.cons_ne_nil a rest), ← Bond.afterAll_singleton]
    split
    · next hrest => rw [hrest]; rfl
    · rw [Bond.afterAll_append]; rfl

theorem bond?_increment (s : Store) (account origin target : String) (relations : List String)
    (amount timestamp : Int) (account' origin' target' relation : String) :
    (s.increment account origin target relations amount timestamp).bond?
        account' origin' target' relation
      = if account' = account ∧ (origin', target') = (origin, target) ∧ relation ∈ relations then
          some (Bond.afterAll (s.bond? account' origin' target' relation)
            (List.replicate (relations.count relation) ⟨amount, timestamp⟩))
        else s.bond? account' origin' target' relation := by
  have hfold := Keyed.find?_foldl_upsert id
    (fun _ (b : Option Bond) => (b.getD {}).reinforced amount timestamp) relations
    ((s.record? account origin target).getD .empty) relation
  have hcount : relations.filter (id · = relation)
      = List.replicate (relations.count relation) relation := List.filter_eq relation
  rw [increment, bond?_alterEdge]
  by_cases hedge : account' = account ∧ (origin', target') = (origin, target)
  · rw [if_pos hedge]
    refine hfold.trans ?_
    rw [hcount, foldl_reinforced, find?_getD_record?, List.length_replicate]
    obtain ⟨rfl, heq⟩ := hedge
    rw [Prod.mk.injEq] at heq
    obtain ⟨rfl, rfl⟩ := heq
    by_cases hmem : relation ∈ relations
    · have hpos := List.count_pos_iff.2 hmem
      rw [if_neg (by simp; omega), if_pos ⟨rfl, rfl, hmem⟩]
    · rw [if_pos (by simp [List.count_eq_zero.2 hmem])]
      exact (if_neg fun h => hmem h.2.2).symm
  · rw [if_neg hedge, if_neg fun h => hedge ⟨h.1, h.2.1⟩]

/-- A step that removes nothing adds its additions to the relations that it reaches. -/
theorem bond?_apply (s : Store) {step : Step} (h : ∀ account p, step ≠ .remove account p)
    (account origin target relation : String) :
    (s.apply step).bond? account origin target relation
      = if step.reaches account origin target relation then
          some (Bond.afterAll (s.bond? account origin target relation)
            (step.additions account origin target relation))
        else s.bond? account origin target relation := by
  cases step with
  | ensure account' origin' target' relations =>
    rw [apply, bond?_ensure, Step.reaches, Step.additions]
    simp [Bond.afterAll]
  | increment account' origin' target' relations amount timestamp =>
    rw [apply, bond?_increment, Step.reaches, Step.additions]
    simp only [decide_eq_true_eq]
    split
    · next hreaches => rw [if_pos ⟨hreaches.1, hreaches.2.1⟩]
    · rfl
  | remove account' p => exact absurd rfl (h account' p)

theorem Step.additions_of_not_reaches {step : Step} {account origin target relation : String}
    (h : step.reaches account origin target relation = false) :
    step.additions account origin target relation = [] := by
  cases step with
  | ensure account' origin' target' relations => rfl
  | increment account' origin' target' relations amount timestamp =>
    rw [Step.reaches, decide_eq_false_iff_not] at h
    rw [Step.additions]
    split
    · next hedge =>
      have hnot : relation ∉ relations := fun hmem => h ⟨hedge.1, hedge.2, hmem⟩
      rw [List.count_eq_zero.2 hnot, List.replicate_zero]
    · rfl
  | remove account' p => rfl

/-- A schedule without removals adds to a relation what all its steps add, and changes no relation
    that no step reaches. -/
theorem bond?_run (s : Store) {steps : List Step} (h : ∀ account p, .remove account p ∉ steps)
    (account origin target relation : String) :
    (s.run steps).bond? account origin target relation
      = if steps.any (·.reaches account origin target relation) then
          some (Bond.afterAll (s.bond? account origin target relation)
            (steps.flatMap (·.additions account origin target relation)))
        else s.bond? account origin target relation := by
  induction steps generalizing s with
  | nil => rfl
  | cons step rest ih =>
    have hhead : ∀ account p, step ≠ .remove account p :=
      fun account p heq => h account p (heq ▸ List.mem_cons_self)
    have hstep := s.bond?_apply hhead account origin target relation
    have hrest := ih (s.apply step) fun account p hmem => h account p (List.mem_cons_of_mem _ hmem)
    rw [show s.run (step :: rest) = (s.apply step).run rest from rfl, hrest, hstep,
      List.any_cons, List.flatMap_cons]
    cases hreaches : step.reaches account origin target relation with
    | true =>
      rw [if_pos rfl, Bool.true_or, if_pos rfl, Bond.afterAll_append]
      split
      · rfl
      · next hnone =>
        have hnil : rest.flatMap (·.additions account origin target relation) = [] := by
          refine List.flatMap_eq_nil_iff.2 fun step' hmem => Step.additions_of_not_reaches ?_
          rw [Bool.not_eq_true, List.any_eq_false] at hnone
          simpa using hnone step' hmem
        rw [hnil, List.append_nil]
    | false =>
      simp only [Bool.false_eq_true, if_false, Bool.false_or, List.nil_append,
        Step.additions_of_not_reaches hreaches]

/-- Without removals the order of the steps has no say in the relations. -/
theorem bond?_run_perm (s : Store) {xs ys : List Step} (h : xs.Perm ys)
    (hxs : ∀ account p, .remove account p ∉ xs) (account origin target relation : String) :
    (s.run xs).bond? account origin target relation
      = (s.run ys).bond? account origin target relation := by
  have hys : ∀ account p, .remove account p ∉ ys :=
    fun account p hmem => hxs account p (h.mem_iff.2 hmem)
  rw [s.bond?_run hxs, s.bond?_run hys, h.any_eq, Bond.afterAll_perm _ (h.flatMap_right _)]

end Store

end Rapport
