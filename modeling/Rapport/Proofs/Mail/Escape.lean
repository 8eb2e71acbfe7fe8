import Rapport.Proofs.Mail.Event
import Rapport.Proofs.Sql.Amount
import Rapport.Proofs.Sql.Rows
import Rapport.Proofs.Sql.Transaction

set_option autoImplicit false

/-! # Failures that escape

A message is brought to the graph of its account, and the failures that a graph answers with are
noted. Others pass. `result_deliver` says which: on a deployment that is of use
(`Deployment.IsUsable`) a message is brought to its end, unless it has a database store a tie at a
time that is no integer of the database.

A database fails otherwise than a graph only where the driver cannot connect, where the edge table
has no name, and where an integer does not fit (`Graph.failsOnly_reinforceInDatabase`). The amounts
of a message always fit. Its time need not, and then the first of its ties that a working database
is asked for is where the message ends (`Graph.exists_ends_reinforceInDatabase_tooLarge`,
`exists_ends_runErrands_error`). -/

namespace Rapport

open Sql Numeral

/-- A transaction hands over no number that its rows do not. -/
theorem Sql.Database.transact_ne_tooLarge {α : Type} {f : Rows → Except Refusal (Rows × α)}
    (hf : ∀ rows, f rows ≠ .error .tooLarge) (db : Database) (task : Task) (name : String) :
    db.transact task name f ≠ .error .tooLarge := by
  unfold Database.transact
  split
  · simp
  · next rows _ =>
    split
    · cases hrows : f rows with
      | ok result => simp
      | error e =>
        rintro h
        exact hf rows (hrows.trans (congrArg Except.error (Except.error.inj h)))
    · simp

namespace Connection

/-- A table that has a name is made ready, where nothing keeps the driver from connecting, or is
    found to be unavailable. -/
theorem failsOnly_ensureTable {table : String} (hname : table ≠ "") :
    (ensureTable table).FailsOnly (fun c => c.obstacle = none) Failure.IsOfGraph := by
  refine Action.FailsOnly.bind_state fun c hc => ?_
  simp only [hc, if_neg hname]
  split
  · exact Action.FailsOnly.pure ()
  · split
    · exact Action.FailsOnly.throw (Failure.isGraphFailure_iff.1 rfl)
    · next db _ =>
      generalize (if c.isWritable = true then db.create (edgeTable table)
        else (db, db.hasTable table || Identifier.isBuiltIn table)) = created
      refine Action.FailsOnly.bind ?_ fun _ => ?_
      · exact Action.FailsOnly.update fun _ h => h
      · split
        · refine Action.FailsOnly.bind ?_ fun _ => Action.FailsOnly.note _
          exact Action.FailsOnly.update fun _ h => h
        · exact Action.FailsOnly.throw (Failure.isGraphFailure_iff.1 rfl)

/-- A transaction whose numbers fit is carried out or refused. -/
theorem failsOnly_transact {α : Type} {table : String} (hname : table ≠ "") (task : Task)
    (account : String) {f : Rows → Except Refusal (Rows × α)}
    (hf : ∀ rows, f rows ≠ .error .tooLarge) :
    (transact task account table f).FailsOnly (fun c => c.obstacle = none) Failure.IsOfGraph := by
  refine (failsOnly_ensureTable hname).bind fun _ => Action.FailsOnly.bind_state fun c hc => ?_
  split
  · exact Action.FailsOnly.throw (Failure.isGraphFailure_iff.1 rfl)
  · next db _ =>
    split
    · split
      · exact Action.FailsOnly.throw (Failure.isGraphFailure_iff.1 rfl)
      · refine Action.FailsOnly.bind ?_ fun _ => Action.FailsOnly.pure _
        exact Action.FailsOnly.update fun _ h => h
    · exact Action.FailsOnly.throw (Failure.isGraphFailure_iff.1 rfl)
    · next h =>
      exact absurd h (db.transact_ne_tooLarge hf task table)

end Connection

/-! ## Graphs in a database -/

/-- Where nothing keeps the driver from connecting and the table has a name, a reinforcement whose
    numbers fit fails only as a graph does. -/
theorem Graph.failsOnly_reinforceInDatabase {l : Layout} {account : String}
    (hname : l.tableOf account ≠ "") {r : Reinforcement} (hamount : Word64.holds r.amount = true)
    (htime : Word64.holds r.timestamp = true) (a b : Contact) :
    (reinforceInDatabase l account a b r).FailsOnly (fun c => c.obstacle = none)
      Failure.IsOfGraph := by
  refine ((failsOnly_check account r).mono fun f hf => hf ▸ Failure.isGraphFailure_iff.1 rfl).bind fun _ =>
    Connection.failsOnly_transact hname _ account fun rows h => ?_
  rw [Rows.reinforce_eq hamount htime] at h
  exact nomatch h

/-- Where some reinforcement is stored, one whose time does not fit fails otherwise than a graph
    does. -/
theorem Graph.exists_ends_reinforceInDatabase_tooLarge {l : Layout} {account : String}
    {c : Connection} {a' b' : Contact} {r' : Reinforcement}
    (hstores : ((reinforceInDatabase l account a' b' r').outcome c).1 = .ok ()) {r : Reinforcement}
    (hr : ¬r.multiplier < 1) (hamount : Word64.holds r.amount = true)
    (htime : Word64.holds r.timestamp = false) (a b : Contact) :
    ∃ c', (reinforceInDatabase l account a b r).Ends c (.error .integerTooLarge) c' := by
  by_cases hr' : r'.multiplier < 1
  · have hfails := (ends_check_of_lt hr' account c).bind_error fun _ =>
      Connection.transact .reinforce account (l.tableOf account) fun rows => do
        return (← rows.reinforce account a' b' r', ())
    exact absurd (hfails.outcome.1.symm.trans hstores) nofun
  · have hcheck : check account r' = .ok () := if_neg hr'
    rw [reinforceInDatabase, hcheck] at hstores
    rcases Connection.ends_transact_cases .reinforce account (l.tableOf account)
        (fun rows => return (← rows.reinforce account a' b' r', ())) c with
      ⟨e, hfails⟩ | ⟨rows, _, _, hok, hrows, hallows, _, _⟩
    · exact absurd (hfails.outcome.1.symm.trans hstores) nofun
    · -- The rows that have taken that reinforcement are the ones that give this one up.
      have hgivenUp : (do return (← rows.reinforce account a b r, ())
          : Except Refusal (Rows × Unit)) = .error .tooLarge := by
        rw [Rows.reinforce_of_not_holds hamount htime]
        rfl
      exact ⟨_, (ends_check_of_not_lt hr account c).bind
        (Connection.ends_transact_tooLarge hok hrows hallows hgivenUp)⟩

/-! ## Deployments that are of use -/

/-- Whether the graph of an account stores some reinforcement. -/
def Backend.Stores (b : Backend) (account : String) (d : Deployment) : Prop :=
  ∃ first second r, (((b.graph account).reinforce first second r).outcome d).1 = .ok ()

/-- Whether the graph of an account, if there is one, is of use: it is kept in memory, or else in a
    database to which the driver can connect and in which some reinforcement is stored. -/
inductive Deployment.IsUsable (d : Deployment) (account : String) : Prop
  | unconfigured (hactive : d.active = none)
  | memory {serial : Nat} {shelf : Shelf} (hactive : d.active = some ⟨serial, .memory shelf⟩)
  | database {serial : Nat} {engine : Engine} {layout : Layout}
      (hactive : d.active = some ⟨serial, .database engine layout⟩)
      (hobstacle : engine.obstacle = none) (hname : layout.tableOf account ≠ "")
      (hstores : (⟨serial, .database engine layout⟩ : Backend).Stores account d)

/-- Whether the active backend keeps its graphs in a database. -/
def Deployment.usesDatabase (d : Deployment) : Bool :=
  d.active.any fun b => b.medium matches .database _ _

namespace Mail

/-! ## Messages -/

theorem holds_amount_of_mem_listChannels {channel : Channel} (h : channel ∈ listChannels)
    (timestamp : Int) (directed : Bool) :
    Word64.holds ({ channel, timestamp, directed } : Reinforcement).amount = true := by
  have hweights : ∀ c ∈ listChannels, Word64.holds (1 * c.weight) = true := by decide
  exact hweights channel h

section Database

variable {engine : Engine} {layout : Layout} {account : String} {timestamp : Int}

/-- What a message whose time fits asks of a database fails only as a graph does. -/
theorem failsOnly_ask_database (serial : Nat) (hobstacle : engine.obstacle = none)
    (hname : layout.tableOf account ≠ "") {errand : Errand} (h : errand.IsOf timestamp)
    (htime : errand.ties ≠ [] → Word64.holds timestamp = true) :
    (errand.ask ((⟨serial, .database engine layout⟩ : Backend).graph account)).FailsOnly
      (fun _ => True) Failure.IsOfGraph := by
  have hread : ∀ d : Deployment, (d.connection serial engine).obstacle = none :=
    fun _ => hobstacle
  have hnotes := h.exists_eq_note
  cases h with
  | note hentry => exact Action.FailsOnly.pure ()
  | @clique members hmembers channel hchannel =>
    have hfits := htime fun hties => nomatch hnotes hties
    have hpair : ∀ p ∈ Graph.pairs members, (Graph.reinforceInDatabase layout account p.1 p.2
        { channel, timestamp }).FailsOnly (fun c => c.obstacle = none) Failure.IsOfGraph :=
      fun p _ => Graph.failsOnly_reinforceInDatabase hname
        (holds_amount_of_mem_listChannels hchannel timestamp false) hfits p.1 p.2
    exact ((failsOnly_reinforceClique hpair account).mono fun f hf => hf.elim id id).within hread
  | @tie sender recipient channel hchannel =>
    have hfits := htime fun hties => nomatch hnotes hties
    exact (Graph.failsOnly_reinforceInDatabase hname
      (r := { channel, timestamp, directed := true })
      (holds_amount_of_mem_listChannels hchannel timestamp true) hfits sender recipient).within hread

/-- In a database that stores reinforcements, what a message asks for fails if its time does not
    fit. -/
theorem exists_ends_ask_tooLarge {d : Deployment} {serial : Nat}
    (hstores : (⟨serial, .database engine layout⟩ : Backend).Stores account d) {errand : Errand}
    (h : errand.IsOf timestamp) (htime : Word64.holds timestamp = false) :
    (∃ entry, errand = .note entry)
      ∨ ∃ d', (errand.ask ((⟨serial, .database engine layout⟩ : Backend).graph account)).Ends d
          (.error .integerTooLarge) d' := by
  obtain ⟨a, b, r, hstored⟩ := hstores
  have hstored : ((Graph.reinforceInDatabase layout account a b r).outcome
      (d.connection serial engine)).1 = .ok () := hstored
  have hmultiplier : ¬(1 : Int) < 1 := by decide
  cases h with
  | @note entry hentry => exact Or.inl ⟨entry, rfl⟩
  | @clique members hmembers channel hchannel =>
    match members, hmembers with
    | x :: y :: rest, _ =>
      obtain ⟨c, hpair⟩ := Graph.exists_ends_reinforceInDatabase_tooLarge hstored
        (r := { channel, timestamp }) hmultiplier
        (holds_amount_of_mem_listChannels hchannel timestamp false) htime x y
      have hpairs : Graph.pairs (x :: y :: rest) = (x, y) :: _ := rfl
      exact Or.inr ⟨_, (ends_reinforceClique_error hmultiplier hpairs hpair
        Failure.not_isOfGraph_integerTooLarge account).within
        (Deployment.connection · serial engine) (Deployment.setConnection serial engine)⟩
  | @tie sender recipient channel hchannel =>
    obtain ⟨c, htie⟩ := Graph.exists_ends_reinforceInDatabase_tooLarge hstored
      (r := { channel, timestamp, directed := true }) hmultiplier
      (holds_amount_of_mem_listChannels hchannel timestamp true) htime sender recipient
    exact Or.inr ⟨_, htie.within
      (Deployment.connection · serial engine) (Deployment.setConnection serial engine)⟩

end Database

namespace Event

/-- A message whose time does not fit fails in a database, if it asks for any ties. -/
theorem exists_ends_learn_tooLarge {serial : Nat} {engine : Engine} {layout : Layout}
    {d : Deployment} {e : Event}
    (hstores : (⟨serial, .database engine layout⟩ : Backend).Stores e.account d) {maxSize : Int}
    (hties : e.ties maxSize ≠ []) (htime : Word64.holds e.timestamp = false) :
    ∃ d', (e.learn ((⟨serial, .database engine layout⟩ : Backend).graph e.account) maxSize).Ends d
      (.error .integerTooLarge) d' := by
  rw [learn_eq (Backend.account_graph _ _)]
  refine exists_ends_runErrands_error Failure.not_isOfGraph_integerTooLarge
    (fun errand h => exists_ends_ask_tooLarge hstores (e.isOf_of_mem_errands h) htime) ?_
  rw [← ties_errands, ne_eq, List.flatMap_eq_nil_iff] at hties
  push Not at hties
  obtain ⟨errand, hmem, hsome⟩ := hties
  exact ⟨errand, hmem, fun entry hnote => hsome (by rw [hnote, Errand.ties])⟩

/-- A message that asks a database for no ties, or whose time fits, is learnt. -/
theorem outcome_learn_database {serial : Nat} {engine : Engine} {layout : Layout} {e : Event}
    (hobstacle : engine.obstacle = none) (hname : layout.tableOf e.account ≠ "") {maxSize : Int}
    (hfits : e.ties maxSize = [] ∨ Word64.holds e.timestamp = true) (d : Deployment) :
    ((e.learn ((⟨serial, .database engine layout⟩ : Backend).graph e.account) maxSize).outcome d).1
      = .ok () := by
  rw [learn_eq (Backend.account_graph _ _)]
  have hruns := failsOnly_runErrands fun errand h =>
    failsOnly_ask_database serial hobstacle hname (e.isOf_of_mem_errands h) fun hsome =>
      hfits.resolve_left fun hties => by
        rw [← ties_errands, List.flatMap_eq_nil_iff] at hties
        exact hsome (hties errand h)
  obtain ⟨_, hok⟩ := hruns.exists_outcome_eq_ok (s := d)
    (fun f hf => absurd hf.1 hf.2) trivial
  exact hok

/-- Nothing is raised by a message, except where its time does not fit the integers of the database
    that its ties are stored in. -/
theorem result_deliver (settings : Settings) (e : Event) (d : Deployment)
    (husable : d.IsUsable e.account) :
    ((e.deliver settings).outcome d).1
      = if d.usesDatabase = true ∧ e.ties settings.maxCliqueSize ≠ []
          ∧ ¬(-2 ^ 63 ≤ e.timestamp ∧ e.timestamp < 2 ^ 63)
        then .error .integerTooLarge else .ok () := by
  rw [deliver_eq]
  cases husable with
  | unconfigured hactive =>
    rw [if_neg (by simp [Deployment.usesDatabase, hactive])]
    exact (ends_withGraph_unconfigured hactive _ _).outcome.1
  | memory hactive =>
    obtain ⟨d', hends, _⟩ := e.exists_ends_deliver hactive settings
    rw [if_neg (by simp [Deployment.usesDatabase, hactive]), ← deliver_eq]
    exact hends.outcome.1
  | database hactive hobstacle hname hstores =>
    have hdatabase : d.usesDatabase = true := by simp [Deployment.usesDatabase, hactive]
    rw [outcome_withGraph hactive]
    split
    · next hescapes =>
      obtain ⟨_, hties, htime⟩ := hescapes
      obtain ⟨d', hends⟩ := exists_ends_learn_tooLarge hstores hties
        (Bool.eq_false_iff.2 (mt Amount.holds_iff.1 htime))
      exact hends.outcome.1
    · next hcontained =>
      refine outcome_learn_database hobstacle hname ?_ d
      by_contra hnot
      rw [not_or, Amount.holds_iff] at hnot
      exact hcontained ⟨hdatabase, hnot⟩

/-- A message to two, sent at some time. -/
def mailAt (timestamp : Int) : Event :=
  .sent "x" { direct := ["a@example.com", "b@example.com"] } timestamp none

/-- A deployment on a database in memory, which is empty. -/
def freshDeployment : Deployment where
  active := some ⟨0, .database ⟨.sqlite, "sqlite+aiosqlite", .memory, none, none⟩ {}⟩

theorem isUsable_freshDeployment : freshDeployment.IsUsable "x" := by
  refine .database rfl rfl (by decide +kernel) ⟨⟨"a", none⟩, ⟨"b", none⟩,
    { channel := .direct, timestamp := 0 }, ?_⟩
  decide +kernel

theorem result_deliver_mailAt_greatest :
    freshDeployment.IsUsable (mailAt (2 ^ 63 - 1)).account
      ∧ (((mailAt (2 ^ 63 - 1)).deliver {}).outcome freshDeployment).1 = .ok () := by
  refine ⟨isUsable_freshDeployment, ?_⟩
  rw [result_deliver {} _ _ isUsable_freshDeployment]
  exact if_neg fun hescapes => hescapes.2.2 (by decide)

/-- The first time that does not fit is raised into the flow of mail. -/
theorem exists_result_deliver_ne_ok :
    ¬∀ (settings : Settings) (e : Event) (d : Deployment), d.IsUsable e.account →
      ((e.deliver settings).outcome d).1 = .ok () := by
  intro h
  have hok := h {} (mailAt (2 ^ 63)) freshDeployment isUsable_freshDeployment
  have hraised : (((mailAt (2 ^ 63)).deliver {}).outcome freshDeployment).1
      = .error .integerTooLarge := by
    decide +kernel
  exact absurd (hraised.symm.trans hok) nofun

end Event

end Mail

end Rapport
