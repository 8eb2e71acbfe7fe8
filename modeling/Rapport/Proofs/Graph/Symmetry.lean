import Rapport.Graph.Relational
import Rapport.Proofs.Isolation
import Rapport.Proofs.Mail.Ties
import Rapport.Proofs.Symmetry

set_option autoImplicit false

/-! # Runs that keep edges the same in both directions

`Graph.faltering` puts failures in front of the ties of a graph, each before anything is written, so
that any tie of a run may be the one that fails. What a graph `Maintains` stays true of its state
under every request and every sent message that reinforces in both directions, also where some of
the ties fail (`Maintains.faltering`). Graphs in memory and graphs in a database maintain that all
edges are the same in both directions; `symmetric_attempted` says so of whole runs.

A state that a clique reaches between two of its pairs is the state at the end of a run in which all
later pairs fail, so these states are covered too. -/

namespace Rapport

variable {σ : Type}

/-! ## Graphs that falter -/

namespace Graph

/-- The graph with failures in front of its ties. Each tie takes the first of what is left to come:
    a failure, before anything is written, or nothing. Where nothing is left no tie fails. The pairs
    of a clique are made one after the other. -/
def faltering (g : Graph σ) : Graph (σ × List (Option Failure)) :=
  let reinforce (a b : Contact) (r : Reinforcement) :
      Action (σ × List (Option Failure)) Unit := do
    let s ← Action.state
    Action.update fun s => (s.1, s.2.tail)
    match s.2.head?.join with
    | some f => throw f
    | none => (g.reinforce a b r).within Prod.fst fun s t => (s, t.2)
  { g.within Prod.fst fun s t => (s, t.2) with
    reinforce
    clique := reinforceClique g.account reinforce }

variable {g : Graph σ} {a b : Contact} {r : Reinforcement} {faults : List (Option Failure)}

/-- A tie in front of which there is a failure writes nothing. -/
theorem runs_faltering_of_fault {f : Failure} (h : faults.head?.join = some f) (s : σ)
    (journal : List Journal.Entry) :
    (g.faltering.reinforce a b r).Runs ⟨(s, faults), journal⟩ (.error f)
      ⟨(s, faults.tail), journal⟩ := by
  refine (Action.Runs.state _).bind ((Action.Runs.update _ _).bind ?_)
  simp only [h]
  exact Action.Runs.throw f _

/-- Any other tie goes as it does in the graph. -/
theorem runs_faltering_of_none (h : faults.head?.join = none) {s s' : σ}
    {journal journal' : List Journal.Entry} {result : Except Failure Unit}
    (hrun : (g.reinforce a b r).Runs ⟨s, journal⟩ result ⟨s', journal'⟩) :
    (g.faltering.reinforce a b r).Runs ⟨(s, faults), journal⟩ result
      ⟨(s', faults.tail), journal'⟩ := by
  have hwithin : ((g.reinforce a b r).within Prod.fst fun s t => (s, t.2)).Runs
      ⟨(s, faults.tail), journal⟩ result ⟨(s', faults.tail), journal'⟩ :=
    hrun.within Prod.fst (fun s t => (s, t.2)) (u := ⟨(s, faults.tail), journal⟩)
  refine (Action.Runs.state _).bind ((Action.Runs.update _ _).bind ?_)
  simp only [h]
  exact hwithin

end Graph

/-! ## What graphs maintain -/

/-- Whether all that a request reinforces counts in both directions. -/
def Request.IsMutual : Request → Prop
  | reinforce _ _ r | clique _ r => r.directed = false
  | remove _ | bond _ _ _ | related _ => True

namespace Graph

/-- What is true of the state stays true, whatever is asked of the graph, if all that is reinforced
    counts in both directions. -/
structure Maintains (g : Graph σ) (holds : σ → Prop) : Prop where
  related : ∀ q, (g.related q).Keeps holds
  bond? : ∀ a b name, (g.bond? a b name).Keeps holds
  reinforce : ∀ a b (r : Reinforcement), r.directed = false → (g.reinforce a b r).Keeps holds
  clique : ∀ contacts (r : Reinforcement), r.directed = false → (g.clique contacts r).Keeps holds
  remove : ∀ what, (g.remove what).Keeps holds

namespace Maintains

variable {g : Graph σ} {holds : σ → Prop}

theorem serve (hg : g.Maintains holds) {q : Request} (hq : q.IsMutual) :
    (g.serve q).Keeps holds := by
  cases q with
  | reinforce a b r => exact (hg.reinforce a b r hq).bind fun _ => Action.Keeps.pure _
  | clique contacts r => exact (hg.clique contacts r hq).bind fun _ => Action.Keeps.pure _
  | remove what => exact (hg.remove what).bind fun _ => Action.Keeps.pure _
  | bond a b relation => exact (hg.bond? a b relation).bind fun _ => Action.Keeps.pure _
  | related q => exact (hg.related q).bind fun _ => Action.Keeps.pure _

/-- A sent message asks for cliques only, and these count in both directions. -/
theorem sent (hg : g.Maintains holds) (maxSize : Int) (recipients : Mail.Recipients)
    (timestamp : Int) (source : Option String) :
    (Mail.sent g maxSize recipients timestamp source).Keeps holds := by
  have hask : ∀ errand ∈ Mail.sentErrands g.account maxSize recipients timestamp source,
      (errand.ask g).FailsOnly holds fun _ => True := by
    intro errand herrand
    obtain ⟨l, _, hmem⟩ := List.mem_flatMap.1 herrand
    refine ⟨?_, fun _ _ _ _ => trivial⟩
    rcases Mail.mem_cliqueErrands hmem with ⟨entry, _, rfl⟩ | ⟨_, rfl⟩
    · exact Action.Keeps.pure ()
    · exact hg.clique _ _ rfl
  exact (Mail.failsOnly_runErrands hask).keeps

theorem faltering (hg : g.Maintains holds) : g.faltering.Maintains fun s => holds s.1 := by
  have hpart : ∀ {α : Type} {act : Action σ α}, act.Keeps holds →
      (act.within Prod.fst fun s (t : σ × List (Option Failure)) => (s, t.2)).Keeps
        fun s => holds s.1 :=
    fun hact => hact.within_read fun _ _ => rfl
  have hreinforce : ∀ a b (r : Reinforcement), r.directed = false →
      (g.faltering.reinforce a b r).Keeps fun s => holds s.1 := by
    rintro a b r hr ⟨⟨s, faults⟩, journal⟩ hs
    cases hfault : faults.head?.join with
    | some f =>
      rw [runs_faltering_of_fault hfault s journal]
      exact hs
    | none =>
      have hkept := hg.reinforce a b r hr ⟨s, journal⟩ hs
      rcases hrun : (g.reinforce a b r).run.run ⟨s, journal⟩ with ⟨result, ⟨s', journal'⟩⟩
      rw [hrun] at hkept
      rw [runs_faltering_of_none hfault hrun]
      exact hkept
  exact {
    related := fun q => hpart (hg.related q)
    bond? := fun a b name => hpart (hg.bond? a b name)
    reinforce := hreinforce
    clique := fun contacts r hr =>
      (Action.Keeps.closed _).reinforceClique fun _ p _ => hreinforce p.1 p.2 r hr
    remove := fun what => hpart (hg.remove what) }

end Maintains

/-! ## Symmetric states -/

theorem maintains_inMemory (account : String) :
    (inMemory account).Maintains Store.Symmetric := by
  have hreinforce : ∀ a b (r : Reinforcement), r.directed = false →
      (reinforceInMemory account a b r).Keeps Store.Symmetric := fun a b r hr =>
    (Action.Keeps.closed _).check fun _ => Action.Keeps.update fun _ hs => hs.reinforce account a b hr
  exact {
    related := fun _ _ hs => hs
    bond? := fun _ _ _ _ hs => hs
    reinforce := hreinforce
    clique := fun contacts r hr =>
      (Action.Keeps.closed _).reinforceClique fun _ p _ => hreinforce p.1 p.2 r hr
    remove := fun what => Action.Keeps.bind (fun _ hs => hs) fun _ =>
      (Action.Keeps.update fun _ hs => hs.remove account what).bind fun _ => Action.Keeps.note _ }

theorem maintains_inDatabase (l : Layout) (waits : Bool) (account : String) :
    (inDatabase l account waits).Maintains Connection.Symmetric := by
  have hreinforce : ∀ a b (r : Reinforcement), r.directed = false →
      (reinforceInDatabase l account a b r).Keeps Connection.Symmetric := by
    intro a b r hr
    refine (Action.Keeps.closed _).check fun _ => Connection.keeps_symmetric_transact ?_
    intro rows rows' _ hrows hok
    cases hreinforced : rows.reinforce account a b r with
    | error e =>
      rw [hreinforced] at hok
      cases hok
    | ok rows₁ =>
      rw [hreinforced] at hok
      have hsame : rows₁ = rows' := congrArg Prod.fst (Except.ok.inj hok)
      rw [← hsame]
      exact hrows.reinforce hr hreinforced
  exact {
    related := fun q => Connection.keeps_symmetric_transact fun rows rows' a hrows hok => by
      rw [Sql.Rows.eq_of_related hok]
      exact hrows
    bond? := fun a b name => Connection.keeps_symmetric_transact fun rows rows' _ hrows hok => by
      have hsame : rows = rows' := congrArg Prod.fst (Except.ok.inj hok)
      rw [← hsame]
      exact hrows
    reinforce := hreinforce
    clique := fun contacts r hr =>
      (Action.Keeps.closed _).reinforceClique fun _ p _ => hreinforce p.1 p.2 r hr
    remove := fun what => Action.Keeps.bind
      (Connection.keeps_symmetric_transact fun _ _ _ hrows hok => hrows.remove hok) fun _ =>
        Action.Keeps.note _ }

end Graph

/-! ## Runs -/

/-- What may be done to the graph of an account: a request, or a message that the account has
    sent. -/
inductive Deed
  | request (q : Request)
  | sent (maxSize : Int) (recipients : Mail.Recipients) (timestamp : Int) (source : Option String)

namespace Deed

/-- Whether all that is reinforced counts in both directions. -/
def IsMutual : Deed → Prop
  | request q => q.IsMutual
  | sent _ _ _ _ => True

/-- Do it to a graph. -/
def act (g : Graph σ) : Deed → Action σ Unit
  | request q => do
    let _ ← g.serve q
    return ()
  | sent maxSize recipients timestamp source => Mail.sent g maxSize recipients timestamp source

end Deed

/-- A deed of an account, and what is in front of its ties. -/
structure Attempt where
  account : String
  deed : Deed
  faults : List (Option Failure) := []

namespace Graph

/-- The state after attempts, one after the other. One that fails does not keep the others from
    being made. -/
def attempted (graphOf : String → Graph σ) (s : σ) (attempts : List Attempt) : σ :=
  attempts.foldl
    (fun s t => ((t.deed.act (graphOf t.account).faltering).outcome (s, t.faults)).2.state.1) s

theorem Maintains.act {g : Graph σ} {holds : σ → Prop} (hg : g.Maintains holds) {deed : Deed}
    (hdeed : deed.IsMutual) : (deed.act g).Keeps holds := by
  cases deed with
  | request q => exact (hg.serve hdeed).bind fun _ => Action.Keeps.pure ()
  | sent maxSize recipients timestamp source => exact hg.sent maxSize recipients timestamp source

theorem holds_attempted {graphOf : String → Graph σ} {holds : σ → Prop}
    (hg : ∀ account, (graphOf account).Maintains holds) {attempts : List Attempt}
    (h : ∀ t ∈ attempts, t.deed.IsMutual) {s : σ} (hs : holds s) :
    holds (attempted graphOf s attempts) := by
  induction attempts generalizing s with
  | nil => exact hs
  | cons t rest ih =>
    have hdeed : t.deed.IsMutual := h t List.mem_cons_self
    have hkept : holds
        ((t.deed.act (graphOf t.account).faltering).outcome (s, t.faults)).2.state.1 :=
      (hg t.account).faltering.act hdeed ⟨(s, t.faults), []⟩ hs
    exact ih (fun t' ht' => h t' (List.mem_cons_of_mem _ ht')) hkept

/-- Whatever accounts have done to their graphs from empty ones on, in memory or in a database, with
    any ties failing before they are written: if all that was reinforced counted in both directions,
    every edge is the same in both directions. -/
theorem symmetric_attempted (attempts : List Attempt) (h : ∀ t ∈ attempts, t.deed.IsMutual)
    (l : Layout) (waits : Bool) (c : Connection) (hc : c.IsBlank) :
    (attempted inMemory {} attempts).Symmetric
      ∧ (attempted (inDatabase l · waits) c attempts).Symmetric := by
  constructor
  · exact holds_attempted maintains_inMemory h Store.symmetric_empty
  · exact holds_attempted (maintains_inDatabase l waits) h hc.symmetric

/-- A clique one pair of which fails, a message, and the removal of what is stale. -/
def bothWays : List Attempt :=
  [{ account := "x",
     deed := .request (.clique [⟨"a", none⟩, ⟨"b", none⟩, ⟨"c", none⟩]
      { channel := .cc, timestamp := 5 }),
     faults := [none, some (.statementRefused .reinforce "x")] },
    { account := "x", deed := .sent 10 { direct := ["a", "B <b>"] } 7 none },
    { account := "x", deed := .request (.remove (.stale 6)) }]

theorem symmetric_attempted_bothWays :
    (∀ t ∈ bothWays, t.deed.IsMutual) ∧ ({} : Connection).IsBlank
      ∧ let s := attempted inMemory {} bothWays
        let c := attempted (inDatabase {} · false) {} bothWays
        s.bond? "x" "b" "a" "to" = some ⟨3, 7⟩ ∧ s.bond? "x" "b" "a" "combined" = some ⟨5, 7⟩
          ∧ s.edgeCount "x" = 2
          ∧ (c.rowsAt "contacts_x").bind (·.bond? "x" "b" "a" "combined")
            = some ⟨.whole 5, 7⟩ := by
  have hmutual : ∀ t ∈ bothWays, t.deed.IsMutual := by
    simp [bothWays, Deed.IsMutual, Request.IsMutual]
  have hblank : ({} : Connection).IsBlank := by
    intro db hdb key stored hstored
    rw [← Option.some_inj.1 hdb] at hstored
    cases hstored
  obtain ⟨hs, hc⟩ := symmetric_attempted bothWays hmutual {} false {} hblank
  refine ⟨hmutual, hblank, (hs _ _ _ _).trans (by decide +kernel),
    (hs _ _ _ _).trans (by decide +kernel), by decide +kernel, ?_⟩
  have hforth : ((attempted (inDatabase {} · false) {} bothWays).rowsAt "contacts_x").bind
      (·.bond? "x" "a" "b" "combined") = some ⟨.whole 5, 7⟩ := by decide +kernel
  obtain ⟨rows, hrows, hbond⟩ := Option.bind_eq_some_iff.1 hforth
  rw [hrows, Option.bind_some, hc.rowsAt hrows]
  exact hbond

end Graph

end Rapport
