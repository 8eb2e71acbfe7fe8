import Rapport.Proofs.Contact
import Rapport.Proofs.Mail.Event
import Rapport.Proofs.Mail.Received

set_option autoImplicit false

/-! # Loops

A store has a loop if an edge leads from a contact to itself. Reinforcements bring no loops about but
those of contacts that share a key (`Store.loopFree_tieAll_iff`). The members of a list are different
addresses of one source, and so are their keys. A sender has no source and is left out of the
recipients by address. His key can still be that of a recipient, if he is written with the source of
the message in front of the address of the recipient: then the message `Clashes`.
`Event.loopFree_deliver_iff` says that no other message brings a loop about. -/

namespace Rapport

namespace Store

/-- No edge leads from a contact to itself. -/
def LoopFree (s : Store) : Prop :=
  ∀ account name, s.record? account name name = none

theorem loopFree_reinforce_iff {s : Store} {account : String} {a b : Contact} {r : Reinforcement} :
    (s.reinforce account a b r).LoopFree ↔ s.LoopFree ∧ a.key ≠ b.key := by
  constructor
  · intro h
    refine ⟨fun account' name => ?_, fun hkey => ?_⟩
    · have hname := h account' name
      rw [record?_reinforce] at hname
      split at hname
      · exact absurd hname (Option.some_ne_none _)
      · exact hname
    · have hname := h account a.key
      rw [record?_reinforce, if_pos ⟨rfl, Reinforcement.mem_edges.2 (Or.inl ⟨rfl, hkey⟩)⟩] at hname
      exact Option.some_ne_none _ hname
  · rintro ⟨hs, hne⟩ account' name
    rw [record?_reinforce, if_neg, hs]
    rintro ⟨_, hmem⟩
    rcases Reinforcement.mem_edges.1 hmem with ⟨hfirst, hsecond⟩ | ⟨_, hsecond, hfirst⟩
    · exact hne (hfirst.symm.trans hsecond)
    · exact hne (hfirst.symm.trans hsecond)

theorem loopFree_tieAll_iff {s : Store} {account : String} {ties : List Tie} :
    (s.tieAll account ties).LoopFree ↔ s.LoopFree ∧ ∀ t ∈ ties, t.first.key ≠ t.second.key := by
  induction ties generalizing s with
  | nil => simp
  | cons t rest ih => rw [tieAll_cons, ih, loopFree_reinforce_iff, List.forall_mem_cons, and_assoc]

end Store

namespace Mail

/-! ## Ties between contacts of one key -/

/-- The members of a list have different keys. -/
theorem key_ne_of_mem_cliqueTies {limit timestamp : Int} {members : List String}
    {source : Option String} {channel : Channel} (hmembers : members.Nodup) {t : Tie}
    (ht : t ∈ cliqueTies limit members source channel timestamp) :
    t.first.key ≠ t.second.key := by
  unfold cliqueTies at ht
  split at ht
  · obtain ⟨p, hp, rfl⟩ := List.mem_map.1 ht
    exact mt Contact.key_inj.1 (forall_mem_pairs_iff.2 hmembers p hp)
  · exact absurd ht List.not_mem_nil

/-- A sender is told from the members by key too, unless one of them has his key by its source. -/
theorem senderTies_ne_iff {sender : String} {members : List String} {source : Option String}
    {channel : Channel} {timestamp : Int} :
    (∀ t ∈ senderTies sender members source channel timestamp, t.first.key ≠ t.second.key)
      ↔ ∀ name, source = some name → ∀ a ∈ members, Contact.sourceTag name ++ a ≠ sender := by
  rw [senderTies, List.forall_mem_map]
  cases source with
  | none =>
    refine iff_of_true (fun a ha => ?_) fun _ hname => absurd hname (by simp)
    exact fun hkey => of_decide_eq_true (List.mem_filter.1 ha).2 hkey.symm
  | some name =>
    refine ⟨?_, fun h a ha hkey => h name rfl a (List.mem_filter.1 ha).1 hkey.symm⟩
    rintro h _ ⟨rfl⟩ a ha hkey
    -- The key of a member is longer than its address, so he is not left out.
    have hne : a ≠ sender := fun heq => Contact.key_ne_address a name (hkey.trans heq.symm)
    exact h a (List.mem_filter.2 ⟨ha, decide_eq_true hne⟩) hkey.symm

/-- A sender of the message, as he is written, is the key that one of its recipients has under its
    source. -/
def Clashes (who : Identity) (recipients : Recipients) (source : Option String) : Prop :=
  ∃ name, source = some name ∧ ∃ l ∈ sharedLists recipients, ∃ a ∈ keptAddresses who l.1,
    Contact.sourceTag name ++ a ∈ addressesOf recipients.from_

instance (who : Identity) (recipients : Recipients) (source : Option String) :
    Decidable (Clashes who recipients source) :=
  match source with
  | none => isFalse nofun
  | some name =>
    decidable_of_iff (∃ l ∈ sharedLists recipients, ∃ a ∈ keptAddresses who l.1,
        Contact.sourceTag name ++ a ∈ addressesOf recipients.from_)
      ⟨fun h => ⟨name, rfl, h⟩, fun ⟨_, hname, h⟩ => Option.some.inj hname ▸ h⟩

theorem key_ne_of_mem_sentTies {limit timestamp : Int} {recipients : Recipients}
    {source : Option String} {t : Tie} (ht : t ∈ sentTies limit recipients timestamp source) :
    t.first.key ≠ t.second.key := by
  obtain ⟨l, _, ht⟩ := List.mem_flatMap.1 ht
  exact key_ne_of_mem_cliqueTies (nodup_addressesOf l.1) ht

theorem receivedTies_ne_iff {who : Identity} {limit : Int} {recipients : Recipients}
    {timestamp : Int} {source : Option String} :
    (∀ t ∈ receivedTies who limit recipients timestamp source, t.first.key ≠ t.second.key)
      ↔ ¬Clashes who recipients source := by
  have hclique : ∀ l ∈ sharedLists recipients,
      ∀ t ∈ cliqueTies limit (keptAddresses who l.1) source l.2 timestamp,
        t.first.key ≠ t.second.key :=
    fun l _ t ht => key_ne_of_mem_cliqueTies ((nodup_addressesOf l.1).filter _) ht
  simp only [receivedTies, List.forall_mem_append, List.forall_mem_flatMap, senderTies_ne_iff]
  rw [and_iff_right hclique]
  constructor
  · rintro h ⟨name, hname, l, hl, a, ha, hsender⟩
    exact h _ hsender l hl name hname a ha rfl
  · rintro h sender hsender l hl name hname a ha rfl
    exact h ⟨name, hname, l, hl, a, ha, hsender⟩

namespace Event

/-- A message that was received has a sender with the key of a recipient. -/
def Clashes : Event → Prop
  | sent _ _ _ _ => False
  | received who recipients _ source => Mail.Clashes who recipients source
  | parsed who envelope _ wasSent source =>
    wasSent = false ∧ Mail.Clashes who envelope.recipients source

instance : DecidablePred Clashes := fun e => by
  unfold Clashes
  split <;> infer_instance

theorem ties_ne_iff (e : Event) (maxSize : Int) :
    (∀ t ∈ e.ties maxSize, t.first.key ≠ t.second.key) ↔ ¬e.Clashes := by
  cases e with
  | sent account recipients timestamp source =>
    exact iff_of_true (fun _ => key_ne_of_mem_sentTies) id
  | received who recipients timestamp source => exact receivedTies_ne_iff
  | parsed who envelope timestamp wasSent source =>
    cases wasSent with
    | true => exact iff_of_true (fun _ => key_ne_of_mem_sentTies) nofun
    | false => exact receivedTies_ne_iff.trans (by simp [Clashes])

/-! ## Messages -/

variable {d d' : Deployment} {shelf : Shelf}

theorem loopFree_iff_of_took {e : Event} {maxSize : Int} (hs : (d.store shelf).LoopFree)
    (htook : Deployment.Took e.account shelf d (e.ties maxSize) d') :
    (d'.store shelf).LoopFree ↔ ¬e.Clashes := by
  rw [htook.1, Store.loopFree_tieAll_iff, and_iff_right hs, e.ties_ne_iff]

/-- A message comes to a store without loops, in a backend that keeps its graphs in memory. Nothing
    fails, and the store has no loops afterwards just if the message does not clash. -/
theorem loopFree_deliver_iff (settings : Settings) (e : Event) (serial : Nat) (shelf : Shelf)
    (d : Deployment) (hd : d.active = some ⟨serial, .memory shelf⟩)
    (hs : (d.store shelf).LoopFree) :
    let run := (e.deliver settings).outcome d
    run.1 = .ok () ∧ d.SameBeside shelf run.2.state
      ∧ ((run.2.state.store shelf).LoopFree ↔ ¬e.Clashes) := by
  intro run
  obtain ⟨d', hends, htook⟩ := e.exists_ends_deliver hd settings
  have hstate : run.2.state = d' := hends.outcome.2
  refine ⟨hends.outcome.1, hstate ▸ htook.2, ?_⟩
  rw [hstate]
  exact loopFree_iff_of_took hs htook

theorem loopFree_deliver_roundMail :
    tiedBefore.active = some ⟨0, .memory .shared⟩ ∧ (tiedBefore.store .shared).LoopFree ∧
      let e := received (OwnAddresses.identity ⟨"x", "me", []⟩) roundMail 7 (some "work")
      (((e.deliver {}).outcome tiedBefore).2.state.store .shared).LoopFree := by
  have hs : (tiedBefore.store .shared).LoopFree :=
    Store.loopFree_reinforce_iff.2 ⟨fun _ _ => rfl, by decide⟩
  exact ⟨rfl, hs, (loopFree_deliver_iff {} _ 0 .shared tiedBefore rfl hs).2.2.2 (by decide +kernel)⟩

/-- Mail with a sender and a recipient each written as two addresses, which stay as they are
    written. A group is named before those of the sender. -/
def groupMail : Event :=
  .received (OwnAddresses.identity ⟨"x", "me@example.com", []⟩)
    { from_ := ["team:ann@example.com,bob@example.com"]
      direct := ["ann@example.com,bob@example.com"] }
    100 (some "team")

/-- An installation that keeps its graphs in memory and has seen nothing. -/
def unused : Deployment where
  active := some ⟨0, .memory .shared⟩

/-- The name of the group is the source of the message, so the sender is tied to himself. -/
theorem not_loopFree_deliver_groupMail :
    ¬∀ (settings : Settings) (e : Event) (serial : Nat) (shelf : Shelf) (d : Deployment),
      d.active = some ⟨serial, .memory shelf⟩ → (d.store shelf).LoopFree →
        (((e.deliver settings).outcome d).2.state.store shelf).LoopFree := by
  intro h
  have hs : (unused.store .shared).LoopFree := fun _ _ => rfl
  have hactive : unused.active = some ⟨0, .memory .shared⟩ := rfl
  have hafter := h {} groupMail 0 .shared unused hactive hs
  obtain ⟨d', hends, htook⟩ := exists_ends_deliver hactive {} groupMail
  rw [hends.outcome.2] at hafter
  exact (loopFree_iff_of_took hs htook).1 hafter (by decide +kernel)

end Event

end Mail

end Rapport
