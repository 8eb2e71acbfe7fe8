import Mathlib.Algebra.Ring.Nat
import Rapport.Proofs.List
import Rapport.Proofs.Mail.Event
import Rapport.Proofs.Mail.SelfExclusion

set_option autoImplicit false

/-! # How failures of single ties are contained

Some of the ties that a message asks for may fail in the graph. `Graph.failing` puts such faults in
front of a graph, and `Event.deliverFailing` brings a message to the graph of its account with them.
The faults have the kinds of failure that a graph answers with, and each strikes before anything is
written.

The result and the journal of such a run do not depend on what is stored: what a graph makes of one
tie (`Graph.Obeys`) gives the journal and the state after all errands (`run_runErrands`). From this
`Event.contained` follows: all ties are asked for as if nothing failed, those that do not fail are
made, and the journal has one entry for each failure and one for each clique that has some. -/

namespace Rapport

variable {σ : Type}

/-! ## Graphs with faults -/

namespace Graph

/-- The graph with faults in front of it. A tie that has one fails, and nothing is written. The
    pairs of a clique are made one after the other. -/
def failing (fault : Tie → Option Failure) (g : Graph σ) : Graph σ :=
  let reinforce (a b : Contact) (r : Reinforcement) : Action σ Unit :=
    match fault ⟨a, b, r⟩ with
    | some f => throw f
    | none => g.reinforce a b r
  { g with reinforce, clique := reinforceClique g.account reinforce }

/-- Whether a fault is one that a graph can answer with. -/
def IsGraphFault (fault : Tie → Option Failure) : Prop :=
  ∀ t f, fault t = some f → f.IsOfGraph

/-- The answer to a tie that may have a fault. -/
def answerOf : Option Failure → Except Failure Unit
  | some f => .error f
  | none => .ok ()

/-- What a graph makes of the single ties that pass its check: it fails where there is a fault,
    changes what is stored by `effect`, and writes nothing to the journal. -/
def Obeys (g : Graph σ) (fault : Tie → Option Failure) (effect : σ → Tie → σ) : Prop :=
  ∀ (a b : Contact) (r : Reinforcement) (s : Traced σ), ¬r.multiplier < 1 →
    (g.reinforce a b r).Runs s (answerOf (fault ⟨a, b, r⟩)) ⟨effect s.state ⟨a, b, r⟩, s.journal⟩

/-- Whether cliques are made pair by pair. -/
def IsPairwise (g : Graph σ) : Prop := g.clique = reinforceClique g.account g.reinforce

/-- How many of some ties have a fault. -/
def failures (fault : Tie → Option Failure) (ties : List Tie) : Nat :=
  ties.countP fun t => (fault t).isSome

theorem failures_cons (fault : Tie → Option Failure) (t : Tie) (ties : List Tie) :
    failures fault (t :: ties) = failures fault ties + if (fault t).isSome then 1 else 0 :=
  List.countP_cons

namespace Obeys

variable {g : Graph σ} {fault : Tie → Option Failure} {effect : σ → Tie → σ}
  {r : Reinforcement}

/-- Every pair is asked for, and each that fails is noted and counted. -/
theorem runs_reinforceAll (hg : g.Obeys fault effect) (hfault : IsGraphFault fault)
    (hr : ¬r.multiplier < 1) (ps : List (Contact × Contact)) (s : Traced σ) :
    (reinforceAll g.account g.reinforce r ps).Runs s
      (.ok (failures fault (ps.map fun p => ⟨p.1, p.2, r⟩)))
      ⟨(ps.map fun p => (⟨p.1, p.2, r⟩ : Tie)).foldl effect s.state,
        s.journal ++ List.replicate (failures fault (ps.map fun p => ⟨p.1, p.2, r⟩))
          (.pairFailed g.account r.channel.name)⟩ := by
  induction ps generalizing s with
  | nil =>
    have hpure := Action.Runs.pure (σ := σ) 0 s
    simpa [reinforceAll, failures] using hpure
  | cons p rest ih =>
    obtain ⟨a, b⟩ := p
    have hpair := (hg a b r s hr).attempt
    rw [List.map_cons, failures_cons, List.foldl_cons]
    cases hf : fault ⟨a, b, r⟩ with
    | none =>
      rw [hf] at hpair
      exact hpair.bind (ih _)
    | some f =>
      rw [hf] at hpair
      refine hpair.bind ?_
      show (if f.isGraphFailure then _ else _ : Action σ Nat).Runs _ _ _
      rw [if_pos (Failure.isGraphFailure_iff.2 (hfault _ f hf))]
      refine (Action.Runs.note _ _).bind ((ih _).bind ?_)
      rw [if_pos (Option.isSome_some), List.replicate_succ, ← List.append_cons]
      exact Action.Runs.pure _ _

/-- A clique fails, in the end, if one of its pairs does. -/
theorem runs_reinforceClique (hg : g.Obeys fault effect) (hpairs : g.IsPairwise)
    (hfault : IsGraphFault fault)
    (hr : ¬r.multiplier < 1) (contacts : List Contact) (s : Traced σ) :
    (g.clique contacts r).Runs s
      (if failures fault (Request.clique contacts r).ties = 0 then .ok ()
        else .error (.cliqueIncomplete (failures fault (Request.clique contacts r).ties)
          r.channel.name g.account))
      ⟨(Request.clique contacts r).ties.foldl effect s.state,
        s.journal ++ List.replicate (failures fault (Request.clique contacts r).ties)
          (.pairFailed g.account r.channel.name)⟩ := by
  have hcheck : check g.account r = .ok () := if_neg hr
  rw [hpairs, reinforceClique, hcheck, Request.ties, if_neg hr]
  refine (Action.Runs.ofExcept (.ok ()) s).bind
    ((hg.runs_reinforceAll hfault hr (pairs contacts) s).bind ?_)
  by_cases hnone : failures fault ((pairs contacts).map fun p => ⟨p.1, p.2, r⟩) = 0
  · rw [if_pos hnone, if_neg (not_not_intro hnone)]
    exact Action.Runs.pure () _
  · rw [if_neg hnone, if_pos hnone]
    exact Action.Runs.throw _ _

/-- A graph on which nothing fails, with faults in front of it. -/
theorem failing (hg : g.Obeys (fun _ => none) effect) (fault : Tie → Option Failure) :
    (g.failing fault).Obeys fault fun s t => if (fault t).isSome then s else effect s t := by
  intro a b r s hr
  show (match fault ⟨a, b, r⟩ with
    | some f => throw f
    | none => g.reinforce a b r : Action σ Unit).Runs _ _ _
  cases hf : fault ⟨a, b, r⟩ with
  | none =>
    simp only [hf, Option.isSome_none, Bool.false_eq_true, if_false]
    exact hg a b r s hr
  | some f =>
    simp only [hf, Option.isSome_some, if_true]
    exact Action.Runs.throw f s

/-- A graph that keeps a record of all that it is asked for, whether it fails or not. -/
theorem recording (hg : g.Obeys fault effect) :
    g.recording.Obeys fault fun s t => (effect s.1 t, s.2 ++ [t]) :=
  fun a b r s hr =>
    (Action.Runs.update _ s).bind ((hg a b r _ hr).within Prod.fst fun s t => (s, t.2))

end Obeys

/-- The deployment after a tie has been made in the store on a shelf. -/
def tieOn (shelf : Shelf) (account : String) (d : Deployment) (t : Tie) : Deployment :=
  d.setStore shelf ((d.store shelf).reinforce account t.first t.second t.reinforcement)

/-- A backend in memory fails at nothing. -/
theorem obeys_memory (serial : Nat) (shelf : Shelf) (account : String) :
    ((⟨serial, .memory shelf⟩ : Backend).graph account).Obeys (fun _ => none)
      (tieOn shelf account) := by
  intro a b r s hr
  have htie := runs_reinforceInMemory hr account a b ⟨s.state.store shelf, s.journal⟩
  exact htie.within (Deployment.store · shelf) (Deployment.setStore shelf)

/-- Ties that fail are left out of the store. -/
theorem took_foldl_tieOn (shelf : Shelf) (account : String) (fails : Tie → Bool)
    (ties : List Tie) (d : Deployment) :
    Deployment.Took account shelf d (ties.filter (!fails ·))
      (ties.foldl (fun d t => if fails t then d else tieOn shelf account d t) d) := by
  induction ties generalizing d with
  | nil => exact (Deployment.taking_took account shelf).nothing d
  | cons t rest ih =>
    rw [List.foldl_cons]
    by_cases hfails : fails t = true
    · rw [List.filter_cons_of_neg (by simp [hfails]), if_pos hfails]
      exact ih d
    · rw [List.filter_cons_of_pos (by simpa using hfails), if_neg hfails]
      have htie : Deployment.Took account shelf d [t] (tieOn shelf account d t) :=
        ⟨Deployment.store_setStore _ _ _, Deployment.sameBeside_setStore _ _ _⟩
      exact (Deployment.taking_took account shelf).append htie (ih _)

end Graph

namespace Mail

/-- Whether an errand is a clique and one of its pairs has a fault. -/
def Errand.isFailedClique (fault : Tie → Option Failure) : Errand → Bool
  | clique members r => (Graph.pairs members).any fun p => (fault ⟨p.1, p.2, r⟩).isSome
  | note _ | tie _ _ _ => false

/-- What running an errand leaves in the journal, where the ties that are asked for may fail. -/
def Errand.entries (account : String) (fault : Tie → Option Failure) :
    Errand → List Journal.Entry
  | note entry => [entry]
  | clique members r =>
    List.replicate (Graph.failures fault (Request.clique members r).ties)
        (.pairFailed account r.channel.name)
      ++ if (clique members r).isFailedClique fault then
          [.cliqueFailed account r.channel.name members.length]
        else []
  | tie sender recipient r =>
    if (fault ⟨sender, recipient, r⟩).isSome then [.senderFailed account r.channel.name] else []

theorem isFailedClique_iff {r : Reinforcement} (hr : ¬r.multiplier < 1) (members : List Contact)
    (fault : Tie → Option Failure) :
    (Errand.clique members r).isFailedClique fault = true
      ↔ Graph.failures fault (Request.clique members r).ties ≠ 0 := by
  simp [Errand.isFailedClique, Graph.failures, Request.ties, if_neg hr, Option.isSome_iff_ne_none]

/-- A graph's own failure is noted. -/
theorem runs_contain {act : Action σ Unit} {result : Except Failure Unit} {s s' : Traced σ}
    (h : act.Runs s result s') (hresult : ∀ f, result = .error f → f.IsOfGraph)
    (entry : Journal.Entry) :
    (contain entry act).Runs s (.ok ())
      ⟨s'.state, s'.journal ++ if result matches .error _ then [entry] else []⟩ := by
  refine h.attempt.bind ?_
  cases result with
  | ok _ =>
    have hpure := Action.Runs.pure () s'
    simpa using hpure
  | error f =>
    show (if f.isGraphFailure then _ else _ : Action σ Unit).Runs _ _ _
    rw [if_pos (Failure.isGraphFailure_iff.2 (hresult f rfl))]
    exact Action.Runs.note entry s'

variable {g : Graph σ} {fault : Tie → Option Failure} {effect : σ → Tie → σ} {timestamp : Int}

/-- Every errand is run to its end. -/
theorem runs_errand (hg : g.Obeys fault effect) (hpairs : g.IsPairwise)
    (hfault : Graph.IsGraphFault fault) {errand : Errand} (h : errand.IsOf timestamp)
    (s : Traced σ) :
    (errand.run g).Runs s (.ok ())
      ⟨errand.ties.foldl effect s.state, s.journal ++ errand.entries g.account fault⟩ := by
  have hmultiplier : ¬(1 : Int) < 1 := by decide
  cases h with
  | note => exact Action.Runs.note _ s
  | @clique members hmembers channel hchannel =>
    have hclique := hg.runs_reinforceClique hpairs hfault (r := { channel, timestamp }) hmultiplier
      members s
    rw [Errand.entries, ← List.append_assoc, Errand.ties]
    by_cases hnone : Graph.failures fault (Request.clique members { channel, timestamp }).ties = 0
    · rw [if_pos hnone] at hclique
      rw [if_neg fun h => (isFailedClique_iff hmultiplier members fault).1 h hnone]
      exact runs_contain hclique (by simp) _
    · rw [if_neg hnone] at hclique
      rw [if_pos ((isFailedClique_iff hmultiplier members fault).2 hnone)]
      refine runs_contain hclique (fun f h => ?_) _
      rw [← Except.error.inj h]
      exact Failure.isGraphFailure_iff.1 rfl
  | @tie sender recipient channel hchannel =>
    have htie := hg sender recipient { channel, timestamp, directed := true } s hmultiplier
    rw [Errand.entries, Errand.ties, Request.ties, if_neg hmultiplier]
    cases hf : fault ⟨sender, recipient, { channel, timestamp, directed := true }⟩ with
    | none =>
      rw [hf] at htie
      exact runs_contain htie (by simp [Graph.answerOf]) _
    | some f =>
      rw [hf] at htie
      refine runs_contain htie (fun f' h => ?_) _
      rw [← Except.error.inj h]
      exact hfault _ f hf

theorem runs_runErrands (hg : g.Obeys fault effect) (hpairs : g.IsPairwise)
    (hfault : Graph.IsGraphFault fault) {errands : List Errand}
    (h : ∀ errand ∈ errands, errand.IsOf timestamp) (s : Traced σ) :
    (runErrands g errands).Runs s (.ok ())
      ⟨(errands.flatMap Errand.ties).foldl effect s.state,
        s.journal ++ errands.flatMap (Errand.entries g.account fault)⟩ := by
  induction errands generalizing s with
  | nil =>
    have hpure := Action.Runs.pure () s
    simpa [runErrands] using hpure
  | cons errand rest ih =>
    have hrest := ih (fun errand' hmem => h errand' (List.mem_cons_of_mem _ hmem))
      ⟨errand.ties.foldl effect s.state, s.journal ++ errand.entries g.account fault⟩
    rw [List.flatMap_cons, List.flatMap_cons, List.foldl_append, ← List.append_assoc]
    exact (runs_errand hg hpairs hfault (h errand List.mem_cons_self) s).bind hrest

/-! ## What a message asks for -/

namespace Event

/-- A message is learnt to its end. -/
theorem runs_learn {e : Event} (hg : g.Obeys fault effect) (hpairs : g.IsPairwise)
    (hfault : Graph.IsGraphFault fault) (haccount : g.account = e.account) (maxSize : Int)
    (s : Traced σ) :
    (e.learn g maxSize).Runs s (.ok ())
      ⟨(e.ties maxSize).foldl effect s.state,
        s.journal ++ (e.errands maxSize).flatMap (Errand.entries e.account fault)⟩ := by
  rw [learn_eq haccount, ← ties_errands, ← haccount]
  exact runs_runErrands hg hpairs hfault (fun _ h => isOf_of_mem_errands h) s

/-- Whatever fails, a message asks for all its ties. -/
theorem issued_eq {e : Event} (hg : g.Obeys fault effect) (hfault : Graph.IsGraphFault fault)
    (haccount : g.account = e.account) (s : σ) (maxSize : Int) :
    e.issued g s maxSize = e.ties maxSize := by
  have hlog : ∀ (ties : List Tie) (s : σ) (log : List Tie),
      (ties.foldl (fun s t => (effect s.1 t, s.2 ++ [t])) (s, log)).2 = log ++ ties := by
    intro ties
    induction ties with
    | nil => simp
    | cons t rest ih => simp [ih]
  have hruns := runs_learn (g := g.recording) hg.recording rfl hfault haccount maxSize ⟨(s, []), []⟩
  rw [issued, hruns.outcome]
  exact hlog _ s []

/-! ## What is left in the journal -/

end Event

/-- How many entries of a journal tell of a kind of event. -/
def logged (event : String) (journal : List Journal.Entry) : Nat :=
  journal.countP fun entry => entry.event == event

@[simp] theorem logged_nil (event : String) : logged event [] = 0 := rfl

@[simp] theorem logged_append (event : String) (xs ys : List Journal.Entry) :
    logged event (xs ++ ys) = logged event xs + logged event ys :=
  List.countP_append

@[simp] theorem logged_singleton (event : String) (entry : Journal.Entry) :
    logged event [entry] = if entry.event = event then 1 else 0 := by
  simp [logged, List.countP_cons]

@[simp] theorem logged_replicate (event : String) (n : Nat) (entry : Journal.Entry) :
    logged event (List.replicate n entry) = if entry.event = event then n else 0 := by
  simp [logged, List.countP_replicate]

@[simp] theorem logged_ite (event : String) (p : Prop) [Decidable p] (xs ys : List Journal.Entry) :
    logged event (if p then xs else ys) = if p then logged event xs else logged event ys :=
  apply_ite _ _ _ _

theorem logged_flatMap {event : String} {l : List Errand} {f : Errand → List Journal.Entry}
    {n : Errand → Nat} (h : ∀ errand ∈ l, logged event (f errand) = n errand) :
    logged event (l.flatMap f) = (l.map n).sum := by
  rw [logged, List.countP_flatMap]
  exact congrArg List.sum (List.map_congr_left h)

theorem logged_note {event : String} (hevent : event ∈ failureEvents) {entry : Journal.Entry}
    (hentry : entry.event ∉ failureEvents) : logged event [entry] = 0 := by
  rw [logged_singleton, if_neg]
  rintro rfl
  exact hentry hevent

section Entries

variable {errand : Errand} (h : errand.IsOf timestamp) (account : String)
  (fault : Tie → Option Failure)

include h

theorem logged_pairFailed :
    logged "clique_edge_update_failed" (errand.entries account fault)
      = errand.ties.countP fun t => !t.reinforcement.directed && (fault t).isSome := by
  cases h with
  | note hentry => exact logged_note (by simp [failureEvents]) hentry
  | clique hmembers hchannel =>
    simp [Errand.entries, Journal.Entry.event, Errand.ties, Request.ties, Graph.failures,
      Function.comp_def]
  | tie sender recipient hchannel =>
    simp [Errand.entries, Journal.Entry.event, Errand.ties, Request.ties]

theorem logged_cliqueFailed :
    logged "clique_update_failed" (errand.entries account fault)
      = if errand.isFailedClique fault then 1 else 0 := by
  cases h with
  | note hentry => exact logged_note (by simp [failureEvents]) hentry
  | clique hmembers hchannel => simp [Errand.entries, Journal.Entry.event]
  | tie sender recipient hchannel =>
    simp [Errand.entries, Journal.Entry.event, Errand.isFailedClique]

theorem logged_senderFailed :
    logged "sender_affinity_update_failed" (errand.entries account fault)
      = errand.ties.countP fun t => t.reinforcement.directed && (fault t).isSome := by
  cases h with
  | note hentry => exact logged_note (by simp [failureEvents]) hentry
  | clique hmembers hchannel =>
    simp [Errand.entries, Journal.Entry.event, Errand.ties, Request.ties, Function.comp_def]
  | tie sender recipient hchannel =>
    simp [Errand.entries, Journal.Entry.event, Errand.ties, Request.ties, List.countP_cons]

end Entries

namespace Event

/-- Bring a message to the graph of its account, where some ties fail. -/
def deliverFailing (fault : Tie → Option Failure) (settings : Settings) (e : Event) :
    Action Deployment Unit :=
  withGraph e.account fun g => e.learn (g.failing fault) settings.maxCliqueSize

/-- Failures of single ties are contained. The message is brought to its end and asks for all its
    ties as if nothing failed; those that do not fail are made, so that an edge that no failing tie
    would have written ends as it would have without failures. The journal tells of each failing
    pair of a clique, of each clique that has some, and of each failing tie from a sender. -/
theorem contained (settings : Settings) (e : Event) {fault : Tie → Option Failure}
    (hfault : Graph.IsGraphFault fault) (serial : Nat) (shelf : Shelf) (d : Deployment)
    (hd : d.active = some ⟨serial, .memory shelf⟩) :
    let g := (⟨serial, .memory shelf⟩ : Backend).graph e.account
    let fails (t : Tie) : Bool := (fault t).isSome
    let errands := e.errands settings.maxCliqueSize
    let calls := e.issued g d settings.maxCliqueSize
    let free := (e.deliver settings).outcome d
    let run := (e.deliverFailing fault settings).outcome d
    run.1 = .ok ()
      ∧ calls = errands.flatMap Errand.ties
      ∧ e.issued (g.failing fault) d settings.maxCliqueSize = calls
      ∧ run.2.state.store shelf = (d.store shelf).tieAll e.account (calls.filter (!fails ·))
      ∧ d.SameBeside shelf run.2.state
      ∧ (∀ account origin target,
          (account = e.account → ∀ t ∈ calls, fails t = true → t.writes origin target = false) →
          (run.2.state.store shelf).record? account origin target
            = (free.2.state.store shelf).record? account origin target)
      ∧ logged "clique_edge_update_failed" run.2.journal
          = calls.countP (fun t => !t.reinforcement.directed && fails t)
      ∧ logged "clique_update_failed" run.2.journal = errands.countP (·.isFailedClique fault)
      ∧ logged "sender_affinity_update_failed" run.2.journal
          = calls.countP (fun t => t.reinforcement.directed && fails t) := by
  intro g fails errands calls free run
  have haccount : g.account = e.account := Backend.account_graph _ _
  have hg : g.Obeys (fun _ => none) (Graph.tieOn shelf e.account) := Graph.obeys_memory _ _ _
  have hcalls : calls = e.ties settings.maxCliqueSize :=
    issued_eq hg (fun _ _ h => nomatch h) haccount d _
  have hrun : run = _ := (runs_withGraph hd
    (runs_learn (hg.failing fault) rfl hfault haccount settings.maxCliqueSize ⟨d, []⟩)).outcome
  have hlogged : ∀ {event : String} {n : Errand → Nat},
      (∀ errand ∈ errands, logged event (errand.entries e.account fault) = n errand) →
      logged event run.2.journal = (errands.map n).sum := by
    intro event n h
    rw [hrun]
    exact logged_flatMap h
  obtain ⟨hstore, hsame⟩ : Deployment.Took e.account shelf d (calls.filter (!fails ·))
      run.2.state := by
    rw [hrun, hcalls]
    exact Graph.took_foldl_tieOn shelf e.account fails _ d
  refine ⟨congrArg Prod.fst hrun, hcalls.trans (e.ties_errands _).symm, ?_, hstore, hsame, ?_, ?_,
    ?_, ?_⟩
  · rw [hcalls]
    exact issued_eq (hg.failing fault) hfault haccount d _
  · intro account origin target hnot
    obtain ⟨d', hfree, hstore', _⟩ := e.exists_ends_deliver hd settings
    rw [hstore, hfree.outcome.2, hstore', ← hcalls]
    exact Store.record?_tieAll_filter e.account rfl fun ha t ht hkeep =>
      hnot ha t ht (by simpa using hkeep)
  · rw [hlogged fun errand h => logged_pairFailed (e.isOf_of_mem_errands h) _ _, hcalls,
      ← ties_errands, List.countP_flatMap]
    rfl
  · rw [hlogged fun errand h => logged_cliqueFailed (e.isOf_of_mem_errands h) _ _,
      sum_map_ite]
  · rw [hlogged fun errand h => logged_senderFailed (e.isOf_of_mem_errands h) _ _, hcalls,
      ← ties_errands, List.countP_flatMap]
    rfl

/-- A message from someone who is a recipient himself, to a list of three. -/
def threeMail : Event :=
  .received ⟨"x", fun _ => .ok false⟩ { from_ := ["a"], direct := ["a", "b", "c"] } 7 none

/-- A graph that refuses all ties to one contact. -/
def refusing (address : String) (t : Tie) : Option Failure :=
  if t.second.address = address then some (.statementRefused .reinforce "x") else none

theorem contained_threeMail :
    Graph.IsGraphFault (refusing "b")
      ∧ let run := (threeMail.deliverFailing (refusing "b") {}).outcome
          { active := some ⟨0, .memory .shared⟩ }
        logged "clique_edge_update_failed" run.2.journal = 1
          ∧ logged "clique_update_failed" run.2.journal = 1
          ∧ logged "sender_affinity_update_failed" run.2.journal = 1
          ∧ (run.2.state.store .shared).bond? "x" "a" "b" "to" = none
          ∧ (run.2.state.store .shared).bond? "x" "a" "c" "to" = some ⟨6, 7⟩ := by
  have hfault : Graph.IsGraphFault (refusing "b") := by
    intro t f hf
    unfold refusing at hf
    split at hf
    · rw [← Option.some_inj.1 hf]
      exact Failure.isGraphFailure_iff.1 rfl
    · exact absurd hf (by simp)
  have hties : (threeMail.errands 10).flatMap Errand.ties
      = [⟨⟨"a", none⟩, ⟨"b", none⟩, { channel := .direct, timestamp := 7 }⟩,
        ⟨⟨"a", none⟩, ⟨"c", none⟩, { channel := .direct, timestamp := 7 }⟩,
        ⟨⟨"b", none⟩, ⟨"c", none⟩, { channel := .direct, timestamp := 7 }⟩,
        ⟨⟨"a", none⟩, ⟨"b", none⟩, { channel := .direct, timestamp := 7, directed := true }⟩,
        ⟨⟨"a", none⟩, ⟨"c", none⟩, { channel := .direct, timestamp := 7, directed := true }⟩] := by
    decide +kernel
  obtain ⟨_, hcalls, _, hstore, _, _, hpairs, hcliques, hsenders⟩ :=
    contained {} threeMail hfault 0 .shared { active := some ⟨0, .memory .shared⟩ } rfl
  have hcalls := hcalls.trans hties
  refine ⟨hfault, ?_, ?_, ?_, ?_, ?_⟩
  · rw [hpairs, hcalls]
    decide
  · rw [hcliques]
    decide +kernel
  · rw [hsenders, hcalls]
    decide
  · rw [hstore, hcalls]
    decide +kernel
  · rw [hstore, hcalls]
    decide +kernel

end Event

end Mail

end Rapport
