import Rapport.Graph.InMemory
import Rapport.Proofs.Action
import Rapport.Proofs.Tie

set_option autoImplicit false

/-! # Requests to the graphs of accounts

Everything that can be asked of a graph is a `Request`. `Graph.serve` has a graph answer one, and
`Graph.after` is what a list of requests, each to the graph of some account, makes of the state that
the graphs share.

For graphs in memory both are known in advance: `Request.effect` is what a request does to the
store, `Request.answer` what comes back, and `ends_serve_inMemory` says so. An accepted
reinforcement or clique is a list of ties, `Request.ties`. How a clique is made of its pairs is the
same for all graphs: `exists_ends_reinforceClique` needs no more than what a single tie does.

Some kinds of failure are a graph's own, and whoever asks several things of it goes on past them:
`Failure.IsOfGraph`. -/

namespace Rapport

/-! ## The failures of graphs -/

namespace Failure

/-- Whether a failure is one that a graph answers with: an argument that it refuses, no graph to
    answer, a backend that fails, or one that is not configured as it should be. -/
def IsOfGraph (f : Failure) : Prop :=
  f.kind ∈ [Kind.invalidArgument, .graphNotFound, .backendFailure, .configuration]

theorem isGraphFailure_iff {f : Failure} : f.isGraphFailure = true ↔ f.IsOfGraph := by
  unfold isGraphFailure IsOfGraph
  cases f.kind <;> decide

theorem not_isOfGraph_integerTooLarge : ¬integerTooLarge.IsOfGraph :=
  mt isGraphFailure_iff.2 nofun

end Failure

/-! ## Requests and answers -/

/-- What can be asked of the graph of an account. -/
inductive Request
  | reinforce (a b : Contact) (r : Reinforcement)
  | clique (contacts : List Contact) (r : Reinforcement)
  | remove (what : Removal)
  | bond (a b : Contact) (relation : Option String)
  | related (q : Query)
deriving DecidableEq

/-- What a graph answers. -/
inductive Answer
  | done
  | bond (b : Option Bond)
  | related (suggestions : List Suggestion)
deriving DecidableEq

namespace Graph

variable {σ : Type}

/-- Have a graph answer a request. -/
def serve (g : Graph σ) : Request → Action σ Answer
  | .reinforce a b r => do g.reinforce a b r; return .done
  | .clique contacts r => do g.clique contacts r; return .done
  | .remove what => do g.remove what; return .done
  | .bond a b relation => return .bond (← g.bond? a b relation)
  | .related q => return .related (← g.related q)

/-- The state after requests to the graphs of accounts, one after the other. A request that fails
    does not keep the others from being served. -/
def after (graphOf : String → Graph σ) (s : σ) (requests : List (String × Request)) : σ :=
  requests.foldl (fun s q => (((graphOf q.1).serve q.2).outcome s).2.state) s

end Graph

namespace Request

/-- The channel through which a request reinforces, if it does. -/
def channel? : Request → Option Channel
  | reinforce _ _ r | clique _ r => some r.channel
  | remove _ | bond _ _ _ | related _ => none

/-- Whether a request reinforces through no channel of the combined one's name. -/
def IsTyped (q : Request) : Prop := ∀ c ∈ q.channel?, c.name ≠ Channel.combinedName

/-- The ties that a request makes, in order. A multiplier below one makes none. -/
def ties : Request → List Tie
  | reinforce a b r => if r.multiplier < 1 then [] else [⟨a, b, r⟩]
  | clique contacts r =>
    if r.multiplier < 1 then [] else (Graph.pairs contacts).map fun p => ⟨p.1, p.2, r⟩
  | remove _ | bond _ _ _ | related _ => []

theorem name_ne_of_mem_ties {q : Request} (hq : q.IsTyped) {t : Tie} (ht : t ∈ q.ties) :
    t.reinforcement.channel.name ≠ Channel.combinedName := by
  cases q with
  | reinforce a b r =>
    rw [ties] at ht
    split at ht
    · exact absurd ht (by simp)
    · rw [List.mem_singleton] at ht
      subst ht
      exact hq _ rfl
  | clique contacts r =>
    rw [ties] at ht
    split at ht
    · exact absurd ht (by simp)
    · obtain ⟨p, _, rfl⟩ := List.mem_map.1 ht
      exact hq _ rfl
  | remove what => exact absurd ht (by simp [ties])
  | bond a b relation => exact absurd ht (by simp [ties])
  | related q => exact absurd ht (by simp [ties])

/-- What a request does to a store. -/
def effect (account : String) (s : Store) : Request → Store
  | remove what => s.remove account what.takes
  | q => s.tieAll account q.ties

theorem effect_of_ne_remove {q : Request} (hq : ∀ what, q ≠ .remove what) (account : String)
    (s : Store) : q.effect account s = s.tieAll account q.ties := by
  cases q with
  | remove what => exact absurd rfl (hq what)
  | reinforce a b r => rfl
  | clique contacts r => rfl
  | bond a b relation => rfl
  | related q => rfl

/-- What a graph in a store answers to a request. -/
def answer (account : String) (s : Store) : Request → Except Failure Answer
  | reinforce _ _ r | clique _ r => (Graph.check account r).map fun _ => .done
  | remove _ => .ok .done
  | bond a b relation =>
    .ok (.bond (s.bond? account a.key b.key (Graph.relationName relation)))
  | related q => .ok (.related (s.related account q))

end Request

/-! ## Cliques of accepted ties -/

/-- What taking in ties makes of a state: nothing, where there are none, and one after the other,
    where there are several. -/
structure Taking {σ : Type} (took : σ → List Tie → σ → Prop) : Prop where
  nothing : ∀ s, took s [] s
  append : ∀ {s s' s'' : σ} {xs ys : List Tie},
    took s xs s' → took s' ys s'' → took s (xs ++ ys) s''

theorem Store.taking_tieAll (account : String) :
    Taking fun (s : Store) ties s' => s' = s.tieAll account ties where
  nothing _ := rfl
  append := by
    rintro s _ _ xs ys rfl rfl
    exact (s.tieAll_append account xs ys).symm

namespace Graph

variable {σ : Type}

theorem ends_check_of_lt {r : Reinforcement} (h : r.multiplier < 1) (account : String) (s : σ) :
    (Action.ofExcept (check account r)).Ends s (.error (.multiplierTooSmall account)) s := by
  have hcheck : check account r = .error (.multiplierTooSmall account) := if_pos h
  exact hcheck ▸ Action.Ends.ofExcept (check account r) s

theorem ends_check_of_not_lt {r : Reinforcement} (h : ¬r.multiplier < 1) (account : String)
    (s : σ) : (Action.ofExcept (check account r)).Ends s (.ok ()) s := by
  have hcheck : check account r = .ok () := if_neg h
  exact hcheck ▸ Action.Ends.ofExcept (check account r) s

theorem failsOnly_check {holds : σ → Prop} (account : String) (r : Reinforcement) :
    (Action.ofExcept (check account r)).FailsOnly holds fun f => f = .multiplierTooSmall account := by
  refine Action.FailsOnly.ofExcept fun f hf => ?_
  rw [check] at hf
  split at hf
  · exact (Except.error.inj hf).symm
  · exact absurd hf (by simp)

variable {took : σ → List Tie → σ → Prop} {account : String}
  {reinforce : Contact → Contact → Reinforcement → Action σ Unit} {r : Reinforcement}

/-- Where no tie fails, no pair of a clique does. -/
theorem exists_ends_reinforceAll (htook : Taking took)
    (h : ∀ a b s, ∃ s', (reinforce a b r).Ends s (.ok ()) s' ∧ took s [⟨a, b, r⟩] s')
    (ps : List (Contact × Contact)) (s : σ) :
    ∃ s', (reinforceAll account reinforce r ps).Ends s (.ok 0) s'
      ∧ took s (ps.map fun p => ⟨p.1, p.2, r⟩) s' := by
  induction ps generalizing s with
  | nil => exact ⟨s, Action.Ends.pure 0 s, htook.nothing s⟩
  | cons p rest ih =>
    obtain ⟨a, b⟩ := p
    obtain ⟨s₁, hpair, htie⟩ := h a b s
    obtain ⟨s₂, hrest, hties⟩ := ih s₁
    exact ⟨s₂, hpair.attempt.bind hrest, htook.append htie hties⟩

/-- Where a tie fails only as the check says, a clique does. -/
theorem exists_ends_reinforceClique (htook : Taking took)
    (h : ∀ a b s, ∃ s', (reinforce a b r).Ends s (check account r) s'
      ∧ took s (Request.reinforce a b r).ties s') (contacts : List Contact) (s : σ) :
    ∃ s', (reinforceClique account reinforce contacts r).Ends s (check account r) s'
      ∧ took s (Request.clique contacts r).ties s' := by
  by_cases hr : r.multiplier < 1
  · simp only [check, Request.ties, if_pos hr]
    exact ⟨s, Action.Ends.bind_error _ (ends_check_of_lt hr account s), htook.nothing s⟩
  · simp only [check, Request.ties, if_neg hr] at h ⊢
    obtain ⟨s', hall, hties⟩ := exists_ends_reinforceAll htook h (pairs contacts) s
    exact ⟨s', (ends_check_of_not_lt hr account s).bind (hall.bind (Action.Ends.pure () s')), hties⟩

end Graph

/-! ## Graphs in memory -/

namespace Graph

/-- The combined relation is meant where no name is given, or the empty one, and else that of the
    name in lower case. -/
theorem relationName_eq (name : Option String) :
    relationName name
      = name.elim "combined" fun text => if text = "" then "combined" else Text.lower text := by
  have hcombined : Text.lower Channel.combinedName = "combined" := by decide +kernel
  cases name with
  | none => exact hcombined
  | some text =>
    rw [relationName, Option.getD_some, Option.elim_some]
    split
    · exact hcombined
    · rfl

theorem ends_reinforceInMemory (account : String) (a b : Contact) (r : Reinforcement) (s : Store) :
    (reinforceInMemory account a b r).Ends s (check account r)
      (s.tieAll account (Request.reinforce a b r).ties) := by
  by_cases hr : r.multiplier < 1
  · simp only [check, Request.ties, if_pos hr, Store.tieAll_nil]
    exact Action.Ends.bind_error _ (ends_check_of_lt hr account s)
  · simp only [check, Request.ties, if_neg hr]
    exact (ends_check_of_not_lt hr account s).bind
      (Action.Ends.update (·.reinforce account a b r) s)

/-- A tie that passes the check is made, and nothing is written to the journal. -/
theorem runs_reinforceInMemory {r : Reinforcement} (h : ¬r.multiplier < 1) (account : String)
    (a b : Contact) (t : Traced Store) :
    (reinforceInMemory account a b r).Runs t (.ok ()) ⟨t.state.reinforce account a b r, t.journal⟩ := by
  have hcheck : check account r = .ok () := if_neg h
  rw [reinforceInMemory, hcheck]
  exact (Action.Runs.ofExcept (.ok ()) t).bind (Action.Runs.update _ t)

theorem ends_reinforceClique_inMemory (account : String) (contacts : List Contact)
    (r : Reinforcement) (s : Store) :
    (reinforceClique account (reinforceInMemory account) contacts r).Ends s (check account r)
      (s.tieAll account (Request.clique contacts r).ties) := by
  obtain ⟨s', hends, hs'⟩ := exists_ends_reinforceClique (Store.taking_tieAll account)
    (fun a b s => ⟨_, ends_reinforceInMemory account a b r s, rfl⟩) contacts s
  rw [← hs']
  exact hends

theorem ends_remove_inMemory (account : String) (what : Removal) (s : Store) :
    ((inMemory account).remove what).Ends s (.ok ()) (s.remove account what.takes) :=
  (Action.Ends.state s).bind
    ((Action.Ends.update (·.remove account what.takes) s).bind (Action.Ends.note _ _))

/-- In memory every request has the effect and the answer that are foretold. -/
theorem ends_serve_inMemory (account : String) (q : Request) (s : Store) :
    ((inMemory account).serve q).Ends s (q.answer account s) (q.effect account s) := by
  cases q with
  | reinforce a b r => exact (ends_reinforceInMemory account a b r s).map fun _ => Answer.done
  | clique contacts r =>
    exact (ends_reinforceClique_inMemory account contacts r s).map fun _ => Answer.done
  | remove what =>
    exact (ends_remove_inMemory account what s).bind (Action.Ends.pure Answer.done _)
  | bond a b relation =>
    have hbond : ((inMemory account).bond? a b relation).Ends s
        (.ok (s.bond? account a.key b.key (relationName relation))) s :=
      (Action.Ends.state s).bind (Action.Ends.pure _ s)
    exact hbond.bind (Action.Ends.pure _ s)
  | related q =>
    have hrelated : ((inMemory account).related q).Ends s (.ok (s.related account q)) s :=
      (Action.Ends.state s).bind (Action.Ends.pure _ s)
    exact hrelated.bind (Action.Ends.pure _ s)

theorem after_inMemory (s : Store) (requests : List (String × Request)) :
    after inMemory s requests = requests.foldl (fun s q => q.2.effect q.1 s) s := by
  unfold after
  congr 1
  funext s q
  exact (ends_serve_inMemory q.1 q.2 s).outcome.2

/-- What reinforcements and removals keep true of a store is kept by all requests. -/
theorem after_inMemory_induction {holds : Store → Prop}
    (hreinforce : ∀ s account a b r, holds s → holds (s.reinforce account a b r))
    (hremove : ∀ s account p, holds s → holds (s.remove account p)) {s : Store} (hs : holds s)
    (requests : List (String × Request)) : holds (after inMemory s requests) := by
  have htieAll : ∀ account ties s, holds s → holds (s.tieAll account ties) := by
    intro account ties
    induction ties with
    | nil => exact fun _ hs => hs
    | cons t rest ih => exact fun s hs => ih _ (hreinforce s account _ _ _ hs)
  have heffect : ∀ account (q : Request) s, holds s → holds (q.effect account s) := by
    intro account q s hs
    by_cases hq : ∃ what, q = .remove what
    · obtain ⟨what, rfl⟩ := hq
      exact hremove s account what.takes hs
    · rw [Request.effect_of_ne_remove (fun what hwhat => hq ⟨what, hwhat⟩)]
      exact htieAll account q.ties s hs
  rw [after_inMemory]
  induction requests generalizing s with
  | nil => exact hs
  | cons q rest ih => exact ih (heffect q.1 q.2 s hs)

end Graph

end Rapport
