import Rapport.Mail.Delivery
import Rapport.Proofs.Request

set_option autoImplicit false

/-! # Running the errands of a message

What a message asks for comes down to a list of ties. `Errand.ties` are those of one errand, and
`exists_ends_runErrands` says that a graph that takes ties in (`Graph.TakesTies`) takes in those of
all errands, in order, and that nothing fails. A backend that keeps its graphs in memory has such
graphs (`Backend.takesTies_graph`): the ties go into the store on its shelf, and nothing else in the
deployment changes.

Of graphs that fail, the errands contain the failures that are a graph's own and let the others pass
(`failsOnly_runErrands`). One that passes ends the run (`exists_ends_runErrands_error`). -/

namespace Rapport

/-! ## Deployments -/

namespace Deployment

/-- Two deployments that differ in what is stored on one shelf, and in nothing else. -/
def SameBeside (shelf : Shelf) (d d' : Deployment) : Prop :=
  { d' with stores := d.stores } = d ∧ ∀ other, other ≠ shelf → d'.store other = d.store other

theorem sameBeside_refl (shelf : Shelf) (d : Deployment) : d.SameBeside shelf d :=
  ⟨rfl, fun _ _ => rfl⟩

theorem SameBeside.trans {shelf : Shelf} {d d' d'' : Deployment} (h : d.SameBeside shelf d')
    (h' : d'.SameBeside shelf d'') : d.SameBeside shelf d'' := by
  refine ⟨?_, fun other hne => (h'.2 other hne).trans (h.2 other hne)⟩
  have hfields := h.1
  rw [← h'.1] at hfields
  exact hfields

@[simp] theorem store_setStore (shelf : Shelf) (s : Store) (d : Deployment) :
    (setStore shelf s d).store shelf = s := by
  simp [store, setStore]

theorem sameBeside_setStore (shelf : Shelf) (s : Store) (d : Deployment) :
    d.SameBeside shelf (setStore shelf s d) := by
  refine ⟨rfl, fun other hne => ?_⟩
  simp [store, setStore, hne]

end Deployment

/-! ## Graphs that take ties in -/

/-- The store on a shelf has taken in ties under an account, and nothing else has changed. -/
def Deployment.Took (account : String) (shelf : Shelf) (d : Deployment) (ties : List Tie)
    (d' : Deployment) : Prop :=
  d'.store shelf = (d.store shelf).tieAll account ties ∧ d.SameBeside shelf d'

theorem Deployment.taking_took (account : String) (shelf : Shelf) :
    Taking (Deployment.Took account shelf) where
  nothing d := ⟨rfl, d.sameBeside_refl shelf⟩
  append := by
    rintro d d' d'' xs ys ⟨hstore, hsame⟩ ⟨hstore', hsame'⟩
    exact ⟨by rw [hstore', hstore, Store.tieAll_append], hsame.trans hsame'⟩

/-- A graph that takes ties in and fails only as the check says. -/
structure Graph.TakesTies {σ : Type} (g : Graph σ) (account : String)
    (took : σ → List Tie → σ → Prop) : Prop where
  taking : Taking took
  reinforce : ∀ (a b : Contact) (r : Reinforcement) (s : σ), ∃ s',
    (g.reinforce a b r).Ends s (check account r) s' ∧ took s (Request.reinforce a b r).ties s'
  clique : ∀ (contacts : List Contact) (r : Reinforcement) (s : σ), ∃ s',
    (g.clique contacts r).Ends s (check account r) s' ∧ took s (Request.clique contacts r).ties s'

@[simp] theorem Backend.account_graph (b : Backend) (account : String) :
    (b.graph account).account = account := by
  obtain ⟨serial, _ | _ | _⟩ := b <;> rfl

theorem Backend.takesTies_graph (serial : Nat) (shelf : Shelf) (account : String) :
    ((⟨serial, .memory shelf⟩ : Backend).graph account).TakesTies account
      (Deployment.Took account shelf) where
  taking := Deployment.taking_took account shelf
  reinforce a b r d :=
    ⟨_, (Graph.ends_reinforceInMemory account a b r (d.store shelf)).within
      (Deployment.store · shelf) (Deployment.setStore shelf),
      Deployment.store_setStore _ _ _, Deployment.sameBeside_setStore _ _ _⟩
  clique contacts r d :=
    ⟨_, (Graph.ends_reinforceClique_inMemory account contacts r (d.store shelf)).within
      (Deployment.store · shelf) (Deployment.setStore shelf),
      Deployment.store_setStore _ _ _, Deployment.sameBeside_setStore _ _ _⟩

namespace Mail

/-! ## Errands -/

variable {σ : Type}

/-- The ties that an errand asks for. -/
def Errand.ties : Errand → List Tie
  | note _ => []
  | clique members r => (Request.clique members r).ties
  | tie sender recipient r => (Request.reinforce sender recipient r).ties

/-- A refusal by the check is noted, and nothing comes of it. -/
theorem ends_contain {account : String} {r : Reinforcement} {entry : Journal.Entry}
    {act : Action σ Unit} {s s' : σ} (h : act.Ends s (Graph.check account r) s') :
    (contain entry act).Ends s (.ok ()) s' := by
  refine Action.Ends.bind h.attempt ?_
  by_cases hr : r.multiplier < 1
  · rw [Graph.check, if_pos hr]
    exact Action.Ends.note entry s'
  · rw [Graph.check, if_neg hr]
    exact Action.Ends.pure () s'

variable {g : Graph σ} {account : String} {took : σ → List Tie → σ → Prop}

theorem exists_ends_run (hg : g.TakesTies account took) (e : Errand) (s : σ) :
    ∃ s', (e.run g).Ends s (.ok ()) s' ∧ took s e.ties s' := by
  cases e with
  | note entry => exact ⟨s, Action.Ends.note entry s, hg.taking.nothing s⟩
  | clique members r =>
    obtain ⟨s', h, hties⟩ := hg.clique members r s
    exact ⟨s', ends_contain h, hties⟩
  | tie sender recipient r =>
    obtain ⟨s', h, hties⟩ := hg.reinforce sender recipient r s
    exact ⟨s', ends_contain h, hties⟩

/-- All errands are run, and all their ties are taken in. -/
theorem exists_ends_runErrands (hg : g.TakesTies account took) (errands : List Errand) (s : σ) :
    ∃ s', (runErrands g errands).Ends s (.ok ()) s'
      ∧ took s (errands.flatMap Errand.ties) s' := by
  induction errands generalizing s with
  | nil => exact ⟨s, Action.Ends.pure () s, hg.taking.nothing s⟩
  | cons e rest ih =>
    obtain ⟨s₁, hrun, hties⟩ := exists_ends_run hg e s
    obtain ⟨s₂, hrest, hties'⟩ := ih s₁
    exact ⟨s₂, Action.Ends.bind hrun hrest, hg.taking.append hties hties'⟩

/-! ### Failures of errands -/

section Failures

variable {holds : σ → Prop} {fails : Failure → Prop}

/-- Pairs that are reinforced one after the other let the failures pass that are not a graph's. -/
theorem failsOnly_reinforceAll {reinforce : Contact → Contact → Reinforcement → Action σ Unit}
    {r : Reinforcement} {ps : List (Contact × Contact)}
    (h : ∀ p ∈ ps, (reinforce p.1 p.2 r).FailsOnly holds fails) (account : String) :
    (Graph.reinforceAll account reinforce r ps).FailsOnly holds
      fun f => fails f ∧ ¬f.IsOfGraph := by
  induction ps with
  | nil => exact Action.FailsOnly.pure 0
  | cons p rest ih =>
    have hrest := ih fun q hq => h q (List.mem_cons_of_mem _ hq)
    refine (h p List.mem_cons_self).bind_attempt (fun _ => hrest) fun f hf => ?_
    dsimp only
    split
    · exact (Action.FailsOnly.note _).bind fun _ => hrest.bind fun _ => Action.FailsOnly.pure _
    · next hgraph => exact Action.FailsOnly.throw ⟨hf, mt Failure.isGraphFailure_iff.2 hgraph⟩

theorem failsOnly_reinforceClique {reinforce : Contact → Contact → Reinforcement → Action σ Unit}
    {r : Reinforcement} {contacts : List Contact}
    (h : ∀ p ∈ Graph.pairs contacts, (reinforce p.1 p.2 r).FailsOnly holds fails)
    (account : String) :
    (Graph.reinforceClique account reinforce contacts r).FailsOnly holds
      fun f => f.IsOfGraph ∨ fails f := by
  refine ((Graph.failsOnly_check account r).mono fun f hf =>
    Or.inl (hf ▸ Failure.isGraphFailure_iff.1 rfl)).bind fun _ =>
      ((failsOnly_reinforceAll h account).mono fun f hf => Or.inr hf.1).bind fun failed => ?_
  split
  · exact Action.FailsOnly.throw (Or.inl (Failure.isGraphFailure_iff.1 rfl))
  · exact Action.FailsOnly.pure ()

theorem failsOnly_contain {act : Action σ Unit} (h : act.FailsOnly holds fails)
    (entry : Journal.Entry) :
    (contain entry act).FailsOnly holds fun f => fails f ∧ ¬f.IsOfGraph := by
  refine h.bind_attempt (fun _ => Action.FailsOnly.pure ()) fun f hf => ?_
  dsimp only
  split
  · exact Action.FailsOnly.note entry
  · next hgraph => exact Action.FailsOnly.throw ⟨hf, mt Failure.isGraphFailure_iff.2 hgraph⟩

/-- What an errand asks of a graph. -/
def Errand.ask (g : Graph σ) : Errand → Action σ Unit
  | note _ => return ()
  | clique members r => g.clique members r
  | tie sender recipient r => g.reinforce sender recipient r

theorem failsOnly_run {errand : Errand} (h : (errand.ask g).FailsOnly holds fails) :
    (errand.run g).FailsOnly holds fun f => fails f ∧ ¬f.IsOfGraph := by
  cases errand with
  | note entry => exact Action.FailsOnly.note entry
  | clique members r => exact failsOnly_contain h _
  | tie sender recipient r => exact failsOnly_contain h _

/-- Errands let the failures pass that are not a graph's, and no others. -/
theorem failsOnly_runErrands {errands : List Errand}
    (h : ∀ errand ∈ errands, (errand.ask g).FailsOnly holds fails) :
    (runErrands g errands).FailsOnly holds fun f => fails f ∧ ¬f.IsOfGraph := by
  induction errands with
  | nil => exact Action.FailsOnly.pure ()
  | cons errand rest ih =>
    exact (failsOnly_run (h errand List.mem_cons_self)).bind fun _ =>
      ih fun errand' hmem => h errand' (List.mem_cons_of_mem _ hmem)

/-- A pair that fails otherwise than a graph does ends the clique of which it is the first. -/
theorem ends_reinforceClique_error
    {reinforce : Contact → Contact → Reinforcement → Action σ Unit} {r : Reinforcement}
    {contacts : List Contact} {a b : Contact} {rest : List (Contact × Contact)} {f : Failure}
    {s s' : σ} (hr : ¬r.multiplier < 1) (hpairs : Graph.pairs contacts = (a, b) :: rest)
    (h : (reinforce a b r).Ends s (.error f) s') (hf : ¬f.IsOfGraph)
    (account : String) :
    (Graph.reinforceClique account reinforce contacts r).Ends s (.error f) s' := by
  refine (Graph.ends_check_of_not_lt hr account s).bind (Action.Ends.bind_error _ ?_)
  rw [hpairs]
  refine h.attempt.bind ?_
  simp only [if_neg (mt Failure.isGraphFailure_iff.1 hf)]
  exact Action.Ends.throw f s'

theorem ends_contain_error {act : Action σ Unit} {f : Failure} {s s' : σ}
    (h : act.Ends s (.error f) s') (hf : ¬f.IsOfGraph) (entry : Journal.Entry) :
    (contain entry act).Ends s (.error f) s' := by
  refine h.attempt.bind ?_
  simp only [if_neg (mt Failure.isGraphFailure_iff.1 hf)]
  exact Action.Ends.throw f s'

theorem ends_run_error {errand : Errand} {f : Failure} {s s' : σ}
    (h : (errand.ask g).Ends s (.error f) s') (hf : ¬f.IsOfGraph) :
    (errand.run g).Ends s (.error f) s' := by
  cases errand with
  | note entry => exact absurd h.outcome.1 nofun
  | clique members r => exact ends_contain_error h hf _
  | tie sender recipient r => exact ends_contain_error h hf _

/-- Where all errands but the notes fail otherwise than a graph does, the first of these ends the
    run. -/
theorem exists_ends_runErrands_error {errands : List Errand} {f : Failure} {s : σ}
    (hf : ¬f.IsOfGraph)
    (h : ∀ errand ∈ errands, (∃ entry, errand = .note entry)
      ∨ ∃ s', (errand.ask g).Ends s (.error f) s')
    (hsome : ∃ errand ∈ errands, ∀ entry, errand ≠ .note entry) :
    ∃ s', (runErrands g errands).Ends s (.error f) s' := by
  induction errands with
  | nil => exact absurd hsome (by simp)
  | cons errand rest ih =>
    rcases h errand List.mem_cons_self with ⟨entry, rfl⟩ | ⟨s', hask⟩
    · obtain ⟨other, hmem, hother⟩ := hsome
      have hrest : other ∈ rest := (List.mem_cons.1 hmem).resolve_left (hother entry)
      obtain ⟨s', hends⟩ := ih (fun errand' hmem' => h errand' (List.mem_cons_of_mem _ hmem'))
        ⟨other, hrest, hother⟩
      exact ⟨s', (Action.Ends.note entry s).bind hends⟩
    · exact ⟨s', (ends_run_error hask hf).bind_error _⟩

end Failures

/-! ## Deliveries -/

/-- The active backend hands out the graph of an account. -/
theorem runs_graph {d : Deployment} {b : Backend} (hd : d.active = some b) (account : String)
    (journal : List Journal.Entry) :
    (Registry.graph account).Runs ⟨d, journal⟩ (.ok (b.graph account)) ⟨d, journal⟩ := by
  refine (Action.Runs.state _).bind ?_
  rw [hd]
  exact Action.Runs.pure _ _

/-- Mail for an account reaches the graph of the active backend. -/
theorem runs_withGraph {d : Deployment} {b : Backend} (hd : d.active = some b) {account : String}
    {act : Graph Deployment → Action Deployment Unit} {journal : List Journal.Entry}
    {result : Except Failure Unit} {t : Traced Deployment}
    (h : (act (b.graph account)).Runs ⟨d, journal⟩ result t) :
    (withGraph account act).Runs ⟨d, journal⟩ result t :=
  (runs_graph hd account journal).attempt.bind h

theorem outcome_withGraph {d : Deployment} {b : Backend} (hd : d.active = some b)
    (account : String) (act : Graph Deployment → Action Deployment Unit) :
    (withGraph account act).outcome d = (act (b.graph account)).outcome d := by
  have hact : (act (b.graph account)).Runs ⟨d, []⟩ _ _ := rfl
  exact (runs_withGraph hd hact).outcome

theorem ends_graph {d : Deployment} {b : Backend} (hd : d.active = some b) (account : String) :
    (Registry.graph account).Ends d (.ok (b.graph account)) d :=
  fun journal => ⟨journal, runs_graph hd account journal⟩

theorem ends_withGraph {d d' : Deployment} {b : Backend} (hd : d.active = some b)
    {account : String} {act : Graph Deployment → Action Deployment Unit}
    (h : (act (b.graph account)).Ends d (.ok ()) d') :
    (withGraph account act).Ends d (.ok ()) d' :=
  (ends_graph hd account).attempt.bind h

/-- Without an active backend mail is ignored. -/
theorem ends_withGraph_unconfigured {d : Deployment} (hd : d.active = none) (account : String)
    (act : Graph Deployment → Action Deployment Unit) :
    (withGraph account act).Ends d (.ok ()) d := by
  have hgraph : (Registry.graph account).Ends d (.error (.notConfigured account)) d := by
    refine (Action.Ends.state d).bind ?_
    rw [hd]
    exact Action.Ends.throw _ d
  exact hgraph.attempt.bind (Action.Ends.note (.mailIgnored account) d)

end Mail

end Rapport
