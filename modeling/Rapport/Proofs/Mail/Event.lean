import Rapport.Proofs.Mail.Ties

set_option autoImplicit false

/-! # Mail events

Mail comes in by three ways: an account has sent a message, has received one, or has done either with
a message whose addresses a mail reader has taken apart. An `Event` is any of them. All that it asks
of the account's graph are its errands (`deliver_eq`, `learn_eq`), and these come to its ties
(`ties_errands`). What it really has a graph make is put down by a graph that keeps a record
(`Event.issued`). -/

namespace Rapport

variable {σ : Type}

/-! ## Graphs that keep a record -/

/-- The graph, with a record of the ties it is asked to make. The pairs of a clique are made one
    after the other, and each is a tie of its own. -/
def Graph.recording (g : Graph σ) : Graph (σ × List Tie) :=
  let reinforce (a b : Contact) (r : Reinforcement) : Action (σ × List Tie) Unit := do
    Action.update fun s => (s.1, s.2 ++ [⟨a, b, r⟩])
    (g.reinforce a b r).within Prod.fst fun s t => (s, t.2)
  { g.within Prod.fst fun s t => (s, t.2) with
    reinforce
    clique := Graph.reinforceClique g.account reinforce }

namespace Mail

/-! ## Events -/

/-- The ties that a sent message asks for. -/
def sentTies (limit : Int) (recipients : Recipients) (timestamp : Int) (source : Option String) :
    List Tie :=
  [(recipients.direct, Channel.direct), (recipients.cc, Channel.cc),
      (recipients.bcc, Channel.bcc)].flatMap fun l =>
    cliqueTies limit (addressesOf l.1) source l.2 timestamp

theorem ties_sentErrands (account : String) (size : Int) (recipients : Recipients)
    (timestamp : Int) (source : Option String) :
    (sentErrands account size recipients timestamp source).flatMap Errand.ties
      = sentTies (cliqueLimit size) recipients timestamp source := by
  rw [sentErrands, sentTies, List.flatMap_assoc]
  exact List.flatMap_congr fun (list, channel) _ =>
    ties_cliqueErrands account size (addressesOf list) source channel timestamp

/-- Mail that an account has sent or received. -/
inductive Event
  | sent (account : String) (recipients : Recipients) (timestamp : Int) (source : Option String)
  | received (who : Identity) (recipients : Recipients) (timestamp : Int) (source : Option String)
  /-- A message that a mail reader has taken apart. -/
  | parsed (who : Identity) (envelope : Envelope) (timestamp : Int) (wasSent : Bool)
      (source : Option String)

namespace Event

/-- The account that sent or received the message. -/
def account : Event → String
  | sent account _ _ _ => account
  | received who _ _ _ | parsed who _ _ _ _ => who.account

/-- The time of the message. -/
def timestamp : Event → Int
  | sent _ _ timestamp _ | received _ _ timestamp _ | parsed _ _ timestamp _ _ => timestamp

/-- Bring the message to the graph of its account. -/
def deliver (settings : Settings) : Event → Action Deployment Unit
  | sent account recipients timestamp source =>
    deliverSent settings account recipients timestamp source
  | received who recipients timestamp source =>
    deliverReceived settings who recipients timestamp source
  | parsed who envelope timestamp wasSent source =>
    Mail.deliver settings who envelope timestamp wasSent source

/-- Have a graph learn from the message. -/
def learn (g : Graph σ) (maxSize : Int) : Event → Action σ Unit
  | sent _ recipients timestamp source => Mail.sent g maxSize recipients timestamp source
  | received who recipients timestamp source =>
    Mail.received g who maxSize recipients timestamp source
  | parsed who envelope timestamp wasSent source =>
    if wasSent then Mail.sent g maxSize envelope.recipients timestamp source
    else Mail.received g who maxSize envelope.recipients timestamp source

/-- The ties that the message has a graph make, in order, whether or not the graph can store them. -/
def issued (g : Graph σ) (s : σ) (maxSize : Int) (e : Event) : List Tie :=
  ((e.learn g.recording maxSize).outcome (s, [])).2.state.2

/-- What the message asks for. -/
def errands (maxSize : Int) : Event → List Errand
  | sent account recipients timestamp source =>
    sentErrands account maxSize recipients timestamp source
  | received who recipients timestamp source =>
    receivedErrands who maxSize recipients timestamp source
  | parsed who envelope timestamp wasSent source =>
    if wasSent then sentErrands who.account maxSize envelope.recipients timestamp source
    else receivedErrands who maxSize envelope.recipients timestamp source

/-- The ties that the message asks for. -/
def ties (maxSize : Int) : Event → List Tie
  | sent _ recipients timestamp source =>
    sentTies (cliqueLimit maxSize) recipients timestamp source
  | received who recipients timestamp source =>
    receivedTies who (cliqueLimit maxSize) recipients timestamp source
  | parsed who envelope timestamp wasSent source =>
    if wasSent then sentTies (cliqueLimit maxSize) envelope.recipients timestamp source
    else receivedTies who (cliqueLimit maxSize) envelope.recipients timestamp source

theorem deliver_eq (settings : Settings) (e : Event) :
    e.deliver settings = withGraph e.account fun g => e.learn g settings.maxCliqueSize := by
  cases e with
  | sent account recipients timestamp source => rfl
  | received who recipients timestamp source => rfl
  | parsed who envelope timestamp wasSent source => cases wasSent <;> rfl

theorem learn_eq {g : Graph σ} {e : Event} (hg : g.account = e.account) (maxSize : Int) :
    e.learn g maxSize = runErrands g (e.errands maxSize) := by
  cases e with
  | sent account recipients timestamp source =>
    show runErrands g (sentErrands g.account _ _ _ _) = _
    rw [hg]
    rfl
  | received who recipients timestamp source => rfl
  | parsed who envelope timestamp wasSent source =>
    cases wasSent with
    | true =>
      show runErrands g (sentErrands g.account _ _ _ _) = _
      rw [hg]
      rfl
    | false => rfl

theorem ties_errands (maxSize : Int) (e : Event) :
    (e.errands maxSize).flatMap Errand.ties = e.ties maxSize := by
  cases e with
  | sent account recipients timestamp source => exact ties_sentErrands _ _ _ _ _
  | received who recipients timestamp source => exact ties_receivedErrands _ _ _ _ _
  | parsed who envelope timestamp wasSent source =>
    cases wasSent with
    | true => exact ties_sentErrands _ _ _ _ _
    | false => exact ties_receivedErrands _ _ _ _ _

/-- In a backend that keeps its graphs in memory, a message makes its ties and nothing fails. -/
theorem exists_ends_deliver {d : Deployment} {serial : Nat} {shelf : Shelf}
    (hd : d.active = some ⟨serial, .memory shelf⟩) (settings : Settings) (e : Event) :
    ∃ d', (e.deliver settings).Ends d (.ok ()) d'
      ∧ Deployment.Took e.account shelf d (e.ties settings.maxCliqueSize) d' := by
  obtain ⟨d', hends, htook⟩ := exists_ends_runErrands
    (Backend.takesTies_graph serial shelf e.account) (e.errands settings.maxCliqueSize) d
  rw [e.ties_errands] at htook
  refine ⟨d', ?_, htook⟩
  rw [e.deliver_eq]
  refine ends_withGraph hd ?_
  rw [learn_eq (Backend.account_graph _ _)]
  exact hends

end Event

/-! ## Errands of one message -/

/-- The channels of the lists of a message. -/
def listChannels : List Channel := [Channel.direct, Channel.cc, Channel.bcc]

/-- What an errand of a message of some time can be. None of them notes a failure by itself, and all
    that they reinforce they reinforce once: the members of a list, of which there are at least two,
    in both directions, those from a sender in one. -/
inductive Errand.IsOf (timestamp : Int) : Errand → Prop
  | note {entry : Journal.Entry} (h : entry.event ∉ failureEvents) : IsOf timestamp (.note entry)
  | clique {members : List Contact} (hmembers : 2 ≤ members.length) {channel : Channel}
      (h : channel ∈ listChannels) : IsOf timestamp (.clique members { channel, timestamp })
  | tie (sender recipient : Contact) {channel : Channel} (h : channel ∈ listChannels) :
      IsOf timestamp (.tie sender recipient { channel, timestamp, directed := true })

theorem Errand.IsPlainNote.isOf {errand : Errand} (h : errand.IsPlainNote) (timestamp : Int) :
    errand.IsOf timestamp := by
  obtain ⟨entry, hentry, rfl⟩ := h
  exact .note hentry

theorem isOf_of_mem_sentErrands {account : String} {maxSize timestamp : Int}
    {recipients : Recipients} {source : Option String} {errand : Errand}
    (h : errand ∈ sentErrands account maxSize recipients timestamp source) :
    errand.IsOf timestamp := by
  obtain ⟨l, hl, h⟩ := List.mem_flatMap.1 h
  have hchannel : l.2 ∈ listChannels :=
    List.mem_map_of_mem (f := Prod.snd) hl
  rcases mem_cliqueErrands h with h | ⟨hmembers, rfl⟩
  · exact h.isOf timestamp
  · exact .clique hmembers hchannel

theorem isOf_of_mem_receivedErrands {who : Identity} {maxSize timestamp : Int}
    {recipients : Recipients} {source : Option String} {errand : Errand}
    (h : errand ∈ receivedErrands who maxSize recipients timestamp source) :
    errand.IsOf timestamp := by
  have hchannel : ∀ l ∈ sharedLists recipients, l.2 ∈ listChannels := by
    simp [sharedLists, listChannels]
  rcases mem_receivedErrands h with h | ⟨l, hl, ⟨hmembers, rfl⟩ | ⟨sender, _, recipient, _, rfl⟩⟩
  · exact h.isOf timestamp
  · exact .clique hmembers (hchannel l hl)
  · exact .tie _ recipient (hchannel l hl)

/-- Only the notes of a message ask for no ties. -/
theorem Errand.IsOf.exists_eq_note {timestamp : Int} {errand : Errand}
    (h : errand.IsOf timestamp) (hties : errand.ties = []) : ∃ entry, errand = .note entry := by
  cases h with
  | @note entry hentry => exact ⟨entry, rfl⟩
  | @clique members hmembers channel hchannel =>
    match members, hmembers with
    | a :: b :: rest, _ => exact absurd hties (List.cons_ne_nil _ _)
  | tie sender recipient hchannel => exact absurd hties (List.cons_ne_nil _ _)

theorem Event.isOf_of_mem_errands {e : Event} {maxSize : Int} {errand : Errand}
    (h : errand ∈ e.errands maxSize) : errand.IsOf e.timestamp := by
  cases e with
  | sent account recipients timestamp source => exact isOf_of_mem_sentErrands h
  | received who recipients timestamp source => exact isOf_of_mem_receivedErrands h
  | parsed who envelope timestamp wasSent source =>
    cases wasSent with
    | true => exact isOf_of_mem_sentErrands h
    | false => exact isOf_of_mem_receivedErrands h

end Mail

end Rapport
