import Rapport.Proofs.Keyed.Part
import Rapport.Proofs.Schedule

set_option autoImplicit false

/-! # Accounts that share a state

The graphs of many accounts are stored in one state. A run is `Undisturbed` for an account if the
account cannot tell it from the run in which only its own requests are made: it gets the same
answers, and what it sees of the state in the end is the same. `Unwinds.undisturbed` shows this by a
relation between the states of both runs, which a request of the account keeps when it is made in
both, and a request of any other when it is made in the first alone.

In a store the relation is that the parts of the account are the same, since a request of an account
reads and changes its part only. -/

namespace Rapport

/-! ## Runs with and without others -/

namespace Graph

variable {σ α : Type}

/-- The answers that an account gets in a run, in order. -/
def results (graphOf : String → Graph σ) (account : String) (s : σ) :
    List (String × Request) → List (Except Failure Answer)
  | [] => []
  | q :: rest =>
    let (result, t) := ((graphOf q.1).serve q.2).outcome s
    if q.1 = account then result :: results graphOf account t.state rest
    else results graphOf account t.state rest

theorem after_cons {graphOf : String → Graph σ} {s s' : σ} {q : String × Request}
    {result : Except Failure Answer} (h : ((graphOf q.1).serve q.2).Ends s result s')
    (rest : List (String × Request)) : after graphOf s (q :: rest) = after graphOf s' rest := by
  rw [after, List.foldl_cons, h.outcome.2, after]

/-- The requests of a run that an account makes. -/
def requestsOf (account : String) (run : List (String × Request)) : List (String × Request) :=
  run.filter fun q => q.1 = account

/-- An account cannot tell a run from the one in which only its own requests are made, neither by
    what it is answered nor by what it sees in the end. -/
structure Undisturbed (graphOf : String → Graph σ) (view : σ → α) (account : String) (s : σ)
    (run : List (String × Request)) : Prop where
  answered : results graphOf account s run = results graphOf account s (requestsOf account run)
  seen : view (after graphOf s run) = view (after graphOf s (requestsOf account run))

/-- A relation between the states of a run and of the run of an account alone. Requests that are not
    `allowed` where they are made are left aside. -/
structure Unwinds (graphOf : String → Graph σ) (account : String)
    (allowed : σ → String × Request → Prop) (alike : σ → σ → Prop) : Prop where
  own : ∀ {s s' : σ} {q : Request}, alike s s' → allowed s (account, q) →
    (((graphOf account).serve q).outcome s).1 = (((graphOf account).serve q).outcome s').1
      ∧ alike (((graphOf account).serve q).outcome s).2.state
          (((graphOf account).serve q).outcome s').2.state
  other : ∀ {s s' : σ} {q : String × Request}, q.1 ≠ account → alike s s' → allowed s q →
    alike (((graphOf q.1).serve q.2).outcome s).2.state s'

namespace Unwinds

variable {graphOf : String → Graph σ} {account : String} {allowed : σ → String × Request → Prop}
  {alike : σ → σ → Prop}

/-- The relation holds at the end of a run if it holds at its beginning, and the answers are the
    same. -/
theorem results_eq (h : Unwinds graphOf account allowed alike) {s s' : σ} (hs : alike s s')
    {run : List (String × Request)}
    (hrun : ∀ before q rest, run = before ++ q :: rest → allowed (after graphOf s before) q) :
    results graphOf account s run = results graphOf account s' (requestsOf account run)
      ∧ alike (after graphOf s run) (after graphOf s' (requestsOf account run)) := by
  induction run generalizing s s' with
  | nil => exact ⟨rfl, hs⟩
  | cons q rest ih =>
    obtain ⟨account', q⟩ := q
    have hq : allowed s (account', q) := hrun [] _ rest rfl
    have hrest : ∀ before q' rest', rest = before ++ q' :: rest' →
        allowed (after graphOf (((graphOf account').serve q).outcome s).2.state before) q' :=
      fun before q' rest' heq => hrun ((account', q) :: before) q' rest' (by rw [heq]; rfl)
    -- The second run takes the step as well if it is the account's own, and waits else.
    by_cases haccount : account' = account
    · subst haccount
      obtain ⟨hresult, hstate⟩ := h.own hs hq
      obtain ⟨hresults, hend⟩ := ih hstate hrest
      have hfilter : requestsOf account' ((account', q) :: rest)
          = (account', q) :: requestsOf account' rest := by
        rw [requestsOf, List.filter_cons_of_pos (by simp), requestsOf]
      rw [hfilter]
      refine ⟨?_, hend⟩
      simp only [Graph.results, if_true, hresult, hresults]
    · obtain ⟨hresults, hend⟩ := ih (h.other haccount hs hq) hrest
      have hfilter : requestsOf account ((account', q) :: rest) = requestsOf account rest := by
        rw [requestsOf, List.filter_cons_of_neg (by simpa using haccount), requestsOf]
      rw [hfilter]
      refine ⟨?_, hend⟩
      simp only [Graph.results, if_neg haccount, hresults]

theorem undisturbed (h : Unwinds graphOf account allowed alike) {view : σ → α}
    (hview : ∀ s s', alike s s' → view s = view s') {s : σ} (hs : alike s s)
    {run : List (String × Request)}
    (hrun : ∀ before q rest, run = before ++ q :: rest → allowed (after graphOf s before) q) :
    Undisturbed graphOf view account s run :=
  ⟨(h.results_eq hs hrun).1, hview _ _ (h.results_eq hs hrun).2⟩

end Unwinds

end Graph

/-! ## Cliques -/

namespace Action.Closed

variable {σ : Type} {P : (α : Type) → Action σ α → Prop} {account : String} {r : Reinforcement}
  {reinforce : Contact → Contact → Reinforcement → Action σ Unit}

/-- What is true of the reinforcement of each pair is true of that of all pairs. -/
theorem reinforceAll (hP : Closed P) {ps : List (Contact × Contact)}
    (h : ∀ p ∈ ps, P Unit (reinforce p.1 p.2 r)) :
    P Nat (Graph.reinforceAll account reinforce r ps) := by
  induction ps with
  | nil => exact hP.pure 0
  | cons p rest ih =>
    have hrest := ih fun q hq => h q (List.mem_cons_of_mem _ hq)
    refine hP.bind (hP.attempt (h p List.mem_cons_self)) fun result => ?_
    cases result with
    | ok _ => exact hrest
    | error f =>
      dsimp only
      split
      · exact hP.bind (hP.note _) fun _ => hP.bind hrest fun _ => hP.pure _
      · exact hP.throw f

/-- What is done after a reinforcement has been checked may rely on its being accepted. -/
theorem check (hP : Closed P) {act : Action σ Unit} (h : ¬r.multiplier < 1 → P Unit act) :
    P Unit (Action.ofExcept (Graph.check account r) >>= fun _ => act) := by
  rw [Graph.check]
  split
  · exact hP.throw _
  · next hr => exact h hr

theorem reinforceClique (hP : Closed P) {contacts : List Contact}
    (h : ¬r.multiplier < 1 → ∀ p ∈ Graph.pairs contacts, P Unit (reinforce p.1 p.2 r)) :
    P Unit (Graph.reinforceClique account reinforce contacts r) := by
  refine hP.check fun hr => hP.bind (hP.reinforceAll (h hr)) fun failed => ?_
  split
  · exact hP.throw _
  · exact hP.pure ()

end Action.Closed

/-! ## Parts of a store -/

namespace Store

/-- What a store holds for an account. -/
def part (s : Store) (account : String) : Store :=
  ⟨s.adjacency.part fun node => node.1 = account⟩

/-- The account that a step is about. -/
def Step.account : Step → String
  | ensure account _ _ _ | increment account _ _ _ _ _ | remove account _ => account

theorem edges_part (s : Store) (account origin : String) :
    (s.part account).edges account origin = s.edges account origin := by
  rw [edges, part, Keyed.find?_part, if_pos (decide_eq_true rfl), edges]

theorem edgesOf_part (s : Store) (account : String) :
    (s.part account).edgesOf account = s.edgesOf account := by
  rw [edgesOf, edgesOf, part, Keyed.entries_part]
  induction s.adjacency.entries with
  | nil => rfl
  | cons e rest ih =>
    by_cases he : e.1.1 = account
    · rw [List.filter_cons_of_pos (by simpa using he), List.flatMap_cons, List.flatMap_cons, ih]
    · rw [List.filter_cons_of_neg (by simpa using he), List.flatMap_cons, if_neg he, ih]
      rfl

variable {account : String}

theorem part_alterEdge (s : Store) (account origin target : String) (f : Bonds → Bonds) :
    (s.alterEdge account origin target f).part account
      = (s.part account).alterEdge account origin target f := by
  let mine (node : String × String) : Bool := node.1 = account
  have hnode : mine (account, origin) = true := decide_eq_true rfl
  exact congrArg Store.mk (Keyed.part_upsert hnode _ _)

theorem part_alterEdge_of_ne (s : Store) {account' : String} (h : account' ≠ account)
    (origin target : String) (f : Bonds → Bonds) :
    (s.alterEdge account' origin target f).part account = s.part account := by
  let mine (node : String × String) : Bool := node.1 = account
  have hnode : mine (account', origin) = false := decide_eq_false h
  exact congrArg Store.mk (Keyed.part_upsert_of_not hnode _ _)

/-- A step for an account acts on its part as on the whole. -/
theorem part_apply (s : Store) {step : Step} (h : step.account = account) :
    (s.apply step).part account = (s.part account).apply step := by
  subst h
  cases step with
  | ensure account origin target relations => exact s.part_alterEdge account origin target _
  | increment account origin target relations amount timestamp =>
    exact s.part_alterEdge account origin target _
  | remove account p => exact congrArg Store.mk (Keyed.part_filterMap _ _ _)

/-- A step for another account does not show. -/
theorem part_apply_of_ne (s : Store) {step : Step} (h : step.account ≠ account) :
    (s.apply step).part account = s.part account := by
  cases step with
  | ensure account' origin target relations => exact s.part_alterEdge_of_ne h origin target _
  | increment account' origin target relations amount timestamp =>
    exact s.part_alterEdge_of_ne h origin target _
  | remove account' p =>
    refine congrArg Store.mk (Keyed.part_filterMap_of_some (fun node edges hnode => ?_) _)
    have hne : node.1 ≠ account' := fun heq => h (heq ▸ of_decide_eq_true hnode)
    exact if_neg hne

theorem part_run (s : Store) {steps : List Step} (h : ∀ step ∈ steps, step.account = account) :
    (s.run steps).part account = (s.part account).run steps := by
  induction steps generalizing s with
  | nil => rfl
  | cons step rest ih =>
    have hstep := s.part_apply (h step List.mem_cons_self)
    have hrest := ih (s.apply step) fun step' hmem => h step' (List.mem_cons_of_mem _ hmem)
    rw [hstep] at hrest
    exact hrest

theorem part_run_of_ne (s : Store) {steps : List Step}
    (h : ∀ step ∈ steps, step.account ≠ account) : (s.run steps).part account = s.part account := by
  induction steps generalizing s with
  | nil => rfl
  | cons step rest ih =>
    have hstep := s.part_apply_of_ne (h step List.mem_cons_self)
    have hrest := ih (s.apply step) fun step' hmem => h step' (List.mem_cons_of_mem _ hmem)
    rw [hstep] at hrest
    exact hrest

end Store

/-! ## Requests to a store -/

namespace Request

variable {account : String}

/-- All steps of a request are for the account that makes it. -/
theorem account_of_mem_steps {q : Request} {step : Store.Step} (h : step ∈ q.steps account) :
    step.account = account := by
  rcases mem_steps h with h | ⟨p, rfl⟩
  · obtain ⟨t, _, e, _, rfl | rfl⟩ := Store.exists_of_mem_tying h
    · rfl
    · rfl
  · rfl

theorem part_effect (q : Request) (s : Store) :
    (q.effect account s).part account = q.effect account (s.part account) := by
  rw [← run_steps, ← run_steps]
  exact s.part_run fun _ => account_of_mem_steps

theorem part_effect_of_ne {account' : String} (h : account' ≠ account) (q : Request) (s : Store) :
    (q.effect account' s).part account = s.part account := by
  rw [← run_steps]
  refine s.part_run_of_ne fun step hstep => ?_
  rw [account_of_mem_steps hstep]
  exact h

/-- What an account is answered depends on its part of the store. -/
theorem answer_part (q : Request) (s : Store) :
    q.answer account (s.part account) = q.answer account s := by
  cases q with
  | reinforce a b r | clique contacts r | remove what => rfl
  | bond a b relation => simp only [answer, Store.bond?, Store.edges_part]
  | related q => simp only [answer, Store.related, Store.outgoing, Store.edges_part]

end Request

namespace Graph

theorem unwinds_inMemory (account : String) :
    Unwinds inMemory account (fun _ _ => True) fun s s' => s.part account = s'.part account where
  own {s s' q} hs _ := by
    rw [(ends_serve_inMemory account q s).outcome.1, (ends_serve_inMemory account q s').outcome.1,
      (ends_serve_inMemory account q s).outcome.2, (ends_serve_inMemory account q s').outcome.2]
    refine ⟨?_, ?_⟩
    · rw [← q.answer_part s, hs, q.answer_part s']
    · rw [q.part_effect, hs, ← q.part_effect]
  other {s s' q} hq hs _ := by
    rw [(ends_serve_inMemory q.1 q.2 s).outcome.2, q.2.part_effect_of_ne hq, hs]

/-- In a store no account is disturbed by others. -/
theorem undisturbed_inMemory (account : String) (s : Store) (run : List (String × Request)) :
    Undisturbed inMemory (·.edgesOf account) account s run :=
  (unwinds_inMemory account).undisturbed
    (fun s s' hs => by
      show s.edgesOf account = s'.edgesOf account
      rw [← s.edgesOf_part, hs, s'.edgesOf_part])
    rfl fun _ _ _ _ => trivial

end Graph

end Rapport
