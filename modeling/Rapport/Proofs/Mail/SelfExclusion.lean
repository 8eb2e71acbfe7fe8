import Rapport.Proofs.Mail.Event

set_option autoImplicit false

/-! # Whom a received message ties

The account that receives a message is left out of the To list and of the Cc list, and no clique has
it as a member. Among the senders it is not looked for. `issued_notOwn_iff` says when none of the ties
that a received message has a graph make, whether or not the graph can store them, has an own address
of the account at one of its ends: no sender is an own address, or nobody else is on the two lists. -/

namespace Rapport

namespace Mail

variable {σ : Type}

/-! ## Nothing else is issued -/

/-- Whether a property is had by all ties that an errand asks for. -/
def Errand.Asks (P : Tie → Prop) : Errand → Prop
  | note _ => True
  | clique members r => ∀ p ∈ Graph.pairs members, P ⟨p.1, p.2, r⟩
  | tie sender recipient r => P ⟨sender, recipient, r⟩

variable {P : Tie → Prop}

theorem keeps_recording_reinforce (g : Graph σ) {a b : Contact} {r : Reinforcement}
    (h : P ⟨a, b, r⟩) : (g.recording.reinforce a b r).Keeps fun s => ∀ t ∈ s.2, P t := by
  refine Action.Keeps.bind (Action.Keeps.update fun s hs t ht => ?_) fun _ =>
    Action.Keeps.within _ fun _ _ hs => hs
  rcases List.mem_append.1 ht with ht | ht
  · exact hs t ht
  · rw [List.mem_singleton.1 ht]
    exact h

theorem keeps_runErrands (g : Graph σ) {errands : List Errand} (h : ∀ e ∈ errands, e.Asks P) :
    (runErrands g.recording errands).Keeps fun s => ∀ t ∈ s.2, P t := by
  have hreinforce : ∀ {a b : Contact} {r : Reinforcement}, P ⟨a, b, r⟩ →
      (g.recording.reinforce a b r).FailsOnly (fun s => ∀ t ∈ s.2, P t) fun _ => True :=
    fun hP => ⟨keeps_recording_reinforce g hP, fun _ _ _ _ => trivial⟩
  have hask : ∀ e ∈ errands,
      (e.ask g.recording).FailsOnly (fun s => ∀ t ∈ s.2, P t) fun _ => True := by
    intro e he
    have hasks := h e he
    cases e with
    | note entry => exact Action.FailsOnly.pure ()
    | clique members r =>
      exact (failsOnly_reinforceClique (fun p hp => hreinforce (hasks p hp)) g.account).mono
        fun _ _ => trivial
    | tie sender recipient r => exact hreinforce hasks
  exact (failsOnly_runErrands hask).keeps

variable {who : Identity} {maxSize timestamp : Int} {recipients : Recipients}
  {source : Option String}

theorem mem_issued {g : Graph σ} {s : σ}
    (h : ∀ e ∈ receivedErrands who maxSize recipients timestamp source, e.Asks P) {t : Tie}
    (ht : t ∈ (Event.received who recipients timestamp source).issued g s maxSize) : P t :=
  keeps_runErrands g h ⟨(s, []), []⟩ (fun _ hmem => absurd hmem (by simp)) t ht

/-! ## All ties are issued to a graph in memory -/

theorem takesTies_recording_inMemory (account : String) :
    (Graph.inMemory account).recording.TakesTies account
      fun s ties s' => s.2 ⊆ s'.2 ∧ ties ⊆ s'.2 := by
  have htaking : Taking fun (s : Store × List Tie) ties s' => s.2 ⊆ s'.2 ∧ ties ⊆ s'.2 := by
    refine ⟨fun s => ⟨List.Subset.refl _, List.nil_subset _⟩, ?_⟩
    rintro s s' s'' xs ys ⟨hlog, hxs⟩ ⟨hlog', hys⟩
    exact ⟨List.Subset.trans hlog hlog', List.append_subset.2 ⟨List.Subset.trans hxs hlog', hys⟩⟩
  have hreinforce : ∀ (a b : Contact) (r : Reinforcement) (s : Store × List Tie), ∃ s',
      ((Graph.inMemory account).recording.reinforce a b r).Ends s (Graph.check account r) s'
        ∧ s.2 ⊆ s'.2 ∧ (Request.reinforce a b r).ties ⊆ s'.2 := by
    intro a b r s
    have htie := (Graph.ends_reinforceInMemory account a b r s.1).within
      (t := (s.1, s.2 ++ [⟨a, b, r⟩])) Prod.fst fun s t => (s, t.2)
    refine ⟨_, (Action.Ends.update _ s).bind htie, List.subset_append_left _ _, ?_⟩
    show (if r.multiplier < 1 then [] else [(⟨a, b, r⟩ : Tie)]) ⊆ s.2 ++ [⟨a, b, r⟩]
    split
    · exact List.nil_subset _
    · exact List.subset_append_right _ _
  exact ⟨htaking, hreinforce, fun contacts r s =>
    Graph.exists_ends_reinforceClique htaking (fun a b s => hreinforce a b r s) contacts s⟩

theorem receivedTies_subset_issued (account : String) (s : Store) :
    receivedTies who (cliqueLimit maxSize) recipients timestamp source
      ⊆ (Event.received who recipients timestamp source).issued (Graph.inMemory account) s
          maxSize := by
  obtain ⟨s', hends, _, hties⟩ := exists_ends_runErrands (takesTies_recording_inMemory account)
    (receivedErrands who maxSize recipients timestamp source) (s, [])
  rw [ties_receivedErrands] at hties
  have hstate : (Event.received who recipients timestamp source).issued (Graph.inMemory account) s
      maxSize = s'.2 :=
    congrArg Prod.snd hends.outcome.2
  rw [hstate]
  exact hties

/-! ## Own addresses -/

/-- A tie that has an own address at neither end. -/
def NotOwn (own : OwnAddresses) (t : Tie) : Prop :=
  own.owns t.first.address = false ∧ own.owns t.second.address = false

theorem owns_eq_false_of_mem_others {own : OwnAddresses} {list : List String} {c : Contact}
    (hc : c ∈ own.identity.others list source) : own.owns c.address = false := by
  rw [Identity.others, List.mem_map] at hc
  obtain ⟨a, ha, rfl⟩ := hc
  simpa [Identity.excludes, OwnAddresses.identity] using (List.mem_filter.1 ha).2

/-- The cliques of a received message leave the own addresses out, and so do its other ties if no
    sender is one or if there is nobody to tie them to. -/
theorem asks_notOwn_of_mem_receivedErrands {own : OwnAddresses}
    (h : (∀ sender ∈ addressesOf recipients.from_, own.owns sender = false)
      ∨ ∀ l ∈ sharedLists recipients, ∀ a ∈ addressesOf l.1, own.owns a = true)
    {e : Errand} (he : e ∈ receivedErrands own.identity maxSize recipients timestamp source) :
    e.Asks (NotOwn own) := by
  rcases mem_receivedErrands he with
    ⟨entry, _, rfl⟩ | ⟨l, hl, ⟨_, rfl⟩ | ⟨sender, hsender, recipient, hrecipient, rfl⟩⟩
  · trivial
  · intro p hp
    obtain ⟨hfirst, hsecond⟩ := mem_pairs hp
    exact ⟨owns_eq_false_of_mem_others hfirst, owns_eq_false_of_mem_others hsecond⟩
  · have hnot := owns_eq_false_of_mem_others hrecipient
    refine ⟨?_, hnot⟩
    rcases h with h | h
    · exact h sender hsender
    · rw [Identity.others, List.mem_map] at hrecipient
      obtain ⟨a, ha, rfl⟩ := hrecipient
      rw [h l hl a (List.mem_filter.1 ha).1] at hnot
      exact absurd hnot (by simp)

/-- An own address among the senders is tied to a recipient that is not one. -/
theorem exists_issued_of_own_sender {own : OwnAddresses} {sender a : String}
    {l : List String × Channel} (hsender : sender ∈ addressesOf recipients.from_)
    (hown : own.owns sender = true) (hl : l ∈ sharedLists recipients)
    (ha : a ∈ addressesOf l.1) (hother : own.owns a = false) (s : Store) :
    ∃ t ∈ (Event.received own.identity recipients timestamp source).issued
        (Graph.inMemory own.account) s maxSize,
      own.owns t.first.address = true := by
  have hkept : a ∈ keptAddresses own.identity l.1 := by
    refine List.mem_filter.2 ⟨ha, ?_⟩
    simpa [Identity.excludes, OwnAddresses.identity] using hother
  have hne : a ≠ sender := by
    rintro rfl
    rw [hown] at hother
    exact absurd hother (by simp)
  have htie : (⟨⟨sender, none⟩, ⟨a, source⟩, { channel := l.2, timestamp, directed := true }⟩ : Tie)
      ∈ receivedTies own.identity (cliqueLimit maxSize) recipients timestamp source :=
    List.mem_append_right _ (List.mem_flatMap.2 ⟨sender, hsender, List.mem_flatMap.2 ⟨l, hl,
      List.mem_map.2 ⟨a, List.mem_filter.2 ⟨hkept, decide_eq_true hne⟩, rfl⟩⟩⟩)
  exact ⟨_, receivedTies_subset_issued own.account s htie, hown⟩

/-- No tie that a received message issues has an own address at one of its ends, whatever graph and
    store it is issued to, just if no sender is an own address or all recipients are. -/
theorem issued_notOwn_iff (own : OwnAddresses) (maxSize : Int) (recipients : Recipients)
    (timestamp : Int) (source : Option String) :
    (∀ (σ : Type) (g : Graph σ) (s : σ),
        ∀ t ∈ (Event.received own.identity recipients timestamp source).issued g s maxSize,
          own.owns t.first.address = false ∧ own.owns t.second.address = false)
      ↔ (∀ sender ∈ addressesOf recipients.from_, own.owns sender = false)
        ∨ ∀ l ∈ [recipients.direct, recipients.cc], ∀ a ∈ addressesOf l, own.owns a = true := by
  constructor
  · intro h
    -- A graph in memory will do, since all ties of the message are issued to it.
    by_contra hnot
    push Not at hnot
    obtain ⟨⟨sender, hsender, hown⟩, list, hlist, a, ha, hother⟩ := hnot
    rw [ne_eq, Bool.not_eq_false] at hown
    rw [ne_eq, Bool.not_eq_true] at hother
    obtain ⟨channel, hchannel⟩ : ∃ channel, (list, channel) ∈ sharedLists recipients := by
      rcases List.mem_pair.1 hlist with rfl | rfl
      · exact ⟨Channel.direct, List.mem_cons_self⟩
      · exact ⟨Channel.cc, List.mem_cons_of_mem _ List.mem_cons_self⟩
    obtain ⟨t, ht, hfirst⟩ := exists_issued_of_own_sender hsender hown hchannel ha hother {}
    rw [(h Store (Graph.inMemory own.account) {} t ht).1] at hfirst
    exact absurd hfirst (by simp)
  · intro h σ g s t ht
    have hlists : (∀ sender ∈ addressesOf recipients.from_, own.owns sender = false)
        ∨ ∀ l ∈ sharedLists recipients, ∀ a ∈ addressesOf l.1, own.owns a = true := by
      simpa [sharedLists] using h
    exact mem_issued (P := NotOwn own)
      (fun e he => asks_notOwn_of_mem_receivedErrands hlists he) ht

/-- A message that an account has sent from its own address ties that address to a recipient. -/
theorem exists_issued_own_sender :
    ¬∀ (own : OwnAddresses) (maxSize : Int) (recipients : Recipients) (timestamp : Int)
        (source : Option String) (σ : Type) (g : Graph σ) (s : σ),
        ∀ t ∈ (Event.received own.identity recipients timestamp source).issued g s maxSize,
          own.owns t.first.address = false ∧ own.owns t.second.address = false := by
  intro h
  let own : OwnAddresses := ⟨"x", "me@example.com", []⟩
  let recipients : Recipients :=
    { from_ := ["me@example.com"], direct := ["bob@example.com"] }
  have hsender : "me@example.com" ∈ addressesOf recipients.from_ := by decide +kernel
  have hrecipient : "bob@example.com" ∈ addressesOf recipients.direct := by decide +kernel
  have hown : own.owns "me@example.com" = true := by decide +kernel
  have hother : own.owns "bob@example.com" = false := by decide +kernel
  obtain ⟨t, ht, hfirst⟩ :=
    exists_issued_of_own_sender hsender hown List.mem_cons_self hrecipient hother {}
  rw [(h own 10 recipients 100 none Store (Graph.inMemory "x") {} t ht).1] at hfirst
  exact absurd hfirst (by simp)

end Mail

end Rapport
