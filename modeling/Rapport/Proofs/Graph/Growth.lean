import Rapport.Proofs.Graph.Orderly
import Rapport.Proofs.Mail.Event

set_option autoImplicit false

/-! # How graphs grow

Graphs grow by reinforcements, by cliques and by mail, each to the graph of some account. `Growth`
is any of them, and `Graph.grown` is the state that growths lead to, one after the other, whether
they fail or not. What is true of every reinforcement is true of all growths (`Growth.closed_act`),
so a connection stays orderly: `Connection.Orderly.grown`. -/

namespace Rapport

/-- Something that a graph grows by. -/
inductive Growth
  | reinforce (account : String) (a b : Contact) (r : Reinforcement)
  | clique (account : String) (contacts : List Contact) (r : Reinforcement)
  /-- A message from which the graph of its account learns, with the size of the largest clique. -/
  | mail (maxSize : Int) (e : Mail.Event)

variable {σ : Type}

/-- Have the graph of an account grow. -/
def Growth.act (graphOf : String → Graph σ) : Growth → Action σ Unit
  | reinforce account a b r => (graphOf account).reinforce a b r
  | clique account contacts r => (graphOf account).clique contacts r
  | mail maxSize e => e.learn (graphOf e.account) maxSize

/-- The state after growths of the graphs of accounts, one after the other. -/
def Graph.grown (graphOf : String → Graph σ) (s : σ) (growths : List Growth) : σ :=
  growths.foldl (fun s growth => ((growth.act graphOf).outcome s).2.state) s

/-! ## What growths keep -/

namespace Action.Closed

variable {P : (α : Type) → Action σ α → Prop} {g : Graph σ}

/-- What is true of all that errands ask of a graph is true of the errands. -/
theorem runErrands (hP : Closed P) {errands : List Mail.Errand}
    (h : ∀ errand ∈ errands, P Unit (errand.ask g)) : P Unit (Mail.runErrands g errands) := by
  have hcontain : ∀ {entry : Journal.Entry} {act : Action σ Unit}, P Unit act →
      P Unit (Mail.contain entry act) := by
    intro entry act hact
    refine hP.bind (hP.attempt hact) fun result => ?_
    cases result with
    | ok _ => exact hP.pure ()
    | error f =>
      dsimp only
      split
      · exact hP.note _
      · exact hP.throw f
  induction errands with
  | nil => exact hP.pure ()
  | cons errand rest ih =>
    have hask := h errand List.mem_cons_self
    refine hP.bind ?_ fun _ => ih fun errand' hmem => h errand' (List.mem_cons_of_mem _ hmem)
    cases errand with
    | note entry => exact hP.note entry
    | clique members r => exact hcontain hask
    | tie sender recipient r => exact hcontain hask

end Action.Closed

/-- What is true of the reinforcements and cliques of all accounts is true of a growth. -/
theorem Growth.closed_act {P : (α : Type) → Action σ α → Prop} (hP : Action.Closed P)
    {graphOf : String → Graph σ} (haccount : ∀ account, (graphOf account).account = account)
    (hreinforce : ∀ account a b r, P Unit ((graphOf account).reinforce a b r))
    (hclique : ∀ account contacts r, P Unit ((graphOf account).clique contacts r))
    (growth : Growth) : P Unit (growth.act graphOf) := by
  cases growth with
  | reinforce account a b r => exact hreinforce account a b r
  | clique account contacts r => exact hclique account contacts r
  | mail maxSize e =>
    rw [act, Mail.Event.learn_eq (haccount e.account)]
    refine hP.runErrands fun errand _ => ?_
    cases errand with
    | note entry => exact hP.pure ()
    | clique members r => exact hclique e.account members r
    | tie sender recipient r => exact hreinforce e.account sender recipient r

namespace Connection

/-- A connection stays orderly, whatever graphs grow by. -/
theorem Orderly.grown {l : Layout} {c : Connection} (h : Orderly l c) (waits : Bool)
    (growths : List Growth) : Orderly l (Graph.grown (Graph.inDatabase l · waits) c growths) := by
  have hreinforce : ∀ account a b r,
      (Graph.reinforceInDatabase l account a b r).Keeps (Orderly l) :=
    fun _ _ _ _ => (Action.Keeps.closed _).check fun _ => keeps_transact
  have hact : ∀ growth : Growth, (growth.act (Graph.inDatabase l · waits)).Keeps (Orderly l) :=
    Growth.closed_act (Action.Keeps.closed _) (fun _ => rfl) hreinforce
      fun account _ _ => (Action.Keeps.closed _).reinforceClique fun _ _ _ => hreinforce account _ _ _
  induction growths generalizing c with
  | nil => exact h
  | cons growth rest ih => exact ih (hact growth ⟨c, []⟩ h)

end Connection

end Rapport
