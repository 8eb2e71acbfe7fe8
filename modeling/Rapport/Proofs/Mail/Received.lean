import Rapport.Proofs.Mail.Event
import Rapport.Proofs.Mail.Gain

set_option autoImplicit false

/-! # What a received message does to the store

`receivedGains` lists what a received message adds to the edges of the account that received it:
every two different members of the To list gain on each other, and so do those of the Cc list, if
the list is no longer than a clique may be; and every sender gains on every member of these lists
but himself. The account itself is no member. `store_deliverReceived` says that a backend in memory
stores just this, and that nothing else in it changes. -/

namespace Rapport.Mail

/-! ## Gains of a received message -/

/-- What a received message adds to the edges of the account, given its senders and, with their
    channels, the members of the lists that it shares. -/
def receivedGains (limit : Int) (senders : List String) (lists : List (List String × Channel))
    (source : Option String) : List Gain :=
  lists.flatMap (fun l => cliqueGains limit l.1 source l.2)
    ++ senders.flatMap fun sender =>
      lists.flatMap fun l => senderGains sender l.1 source l.2

/-- The members of the lists that a message shares, the account itself left out. -/
def keptLists (who : Identity) (recipients : Recipients) : List (List String × Channel) :=
  (sharedLists recipients).map fun l => (keptAddresses who l.1, l.2)

/-! ## Ties bring about the gains -/

variable {origin target relation : String}

/-- The ties of a received message make just its gains. -/
theorem making_receivedTies (who : Identity) (limit : Int) (recipients : Recipients)
    (timestamp : Int) (source : Option String) :
    making origin target relation (receivedTies who limit recipients timestamp source)
      = reaching origin target relation
          (receivedGains limit (addressesOf recipients.from_) (keptLists who recipients) source) := by
  rw [receivedTies, receivedGains, making_append, reaching_append, making_flatMap,
    reaching_flatMap, making_flatMap, reaching_flatMap, keptLists, List.flatMap_map]
  congr 1
  · exact List.flatMap_congr fun l _ =>
      making_cliqueTies limit ((nodup_addressesOf l.1).filter _) source l.2 timestamp _ _ _
  · refine List.flatMap_congr fun sender _ => ?_
    rw [making_flatMap, reaching_flatMap, List.flatMap_map]
    exact List.flatMap_congr fun l _ =>
      making_senderTies sender (keptAddresses who l.1) source l.2 timestamp _ _ _

/-! ## The store after a received message -/

theorem name_ne_of_mem_sharedLists {recipients : Recipients} {l : List String × Channel}
    (hl : l ∈ sharedLists recipients) : l.2.name ≠ Channel.combinedName := by
  simp only [sharedLists, List.mem_cons, List.not_mem_nil, or_false] at hl
  rcases hl with rfl | rfl
  · show Channel.direct.name ≠ Channel.combinedName
    decide
  · show Channel.cc.name ≠ Channel.combinedName
    decide

theorem reinforcement_of_mem_receivedTies {who : Identity} {limit : Int} {recipients : Recipients}
    {timestamp : Int} {source : Option String} {t : Tie}
    (ht : t ∈ receivedTies who limit recipients timestamp source) :
    t.reinforcement.multiplier = 1 ∧ t.reinforcement.timestamp = timestamp
      ∧ t.reinforcement.channel.name ≠ Channel.combinedName := by
  obtain ⟨l, hl, ⟨a, _, b, _, rfl⟩ | ⟨sender, _, a, _, rfl⟩⟩ := mem_receivedTies ht
  · exact ⟨rfl, rfl, name_ne_of_mem_sharedLists hl⟩
  · exact ⟨rfl, rfl, name_ne_of_mem_sharedLists hl⟩

/-- An edge that a tie of a received message writes is one that it gains on. -/
theorem exists_gain_of_writes {who : Identity} {limit : Int} {recipients : Recipients}
    {timestamp : Int} {source : Option String} {origin target : String} {t : Tie}
    (ht : t ∈ receivedTies who limit recipients timestamp source)
    (hw : t.writes origin target = true) :
    ∃ g ∈ receivedGains limit (addressesOf recipients.from_) (keptLists who recipients) source,
      origin = g.origin ∧ target = g.target := by
  have hmaking := mem_making_combined ht hw
  rw [making_receivedTies] at hmaking
  obtain ⟨g, hg, _⟩ := List.mem_map.1 hmaking
  obtain ⟨hmem, hreaches⟩ := List.mem_filter.1 hg
  simp only [Gain.reaches, Bool.and_eq_true, beq_iff_eq] at hreaches
  exact ⟨g, hmem, hreaches.1⟩

/-- A backend in memory stores what a received message adds, on the edges of the account that
    received it, and nothing else in the deployment changes. What an entry of a list stands for is
    what it stands for in a sent message; it is no member if the account says that it is its own. -/
theorem store_deliverReceived (settings : Settings) (who : Identity) (recipients : Recipients)
    (timestamp : Int) (source : Option String) (serial : Nat) (shelf : Shelf) (d : Deployment)
    (hd : d.active = some ⟨serial, .memory shelf⟩) :
    let limit := if 2 ≤ settings.maxCliqueSize then settings.maxCliqueSize else 10
    let extracted (list : List String) : List String :=
      ((list.map fun entry =>
        Text.strip (String.ofList ((soleAddress? entry.toList).getD entry.toList))).filter
          (· ≠ "")).eraseDups
    let kept (list : List String) : List String :=
      (extracted list).filter fun a => who.owns a ≠ .ok true
    let gains := receivedGains limit (extracted recipients.from_)
      [(kept recipients.direct, ⟨"to", 3⟩), (kept recipients.cc, ⟨"cc", 2⟩)] source
    let run := (deliverReceived settings who recipients timestamp source).outcome d
    let before := d.store shelf
    let after := run.2.state.store shelf
    run.1 = .ok ()
      ∧ d.SameBeside shelf run.2.state
      ∧ (∀ account origin target,
          (account = who.account → ∀ g ∈ gains, ¬(origin = g.origin ∧ target = g.target)) →
          after.record? account origin target = before.record? account origin target)
      ∧ ∀ origin target relation,
          let weights := (gains.filter (·.reaches origin target relation)).map (·.channel.weight)
          let old := before.bond? who.account origin target relation
          after.bond? who.account origin target relation
            = if weights = [] then old
              else some {
                weight := (old.getD {}).weight + weights.sum
                updatedAt := max (old.getD {}).updatedAt timestamp } := by
  intro limit extracted kept gains run before after
  have hgains : gains
      = receivedGains limit (addressesOf recipients.from_) (keptLists who recipients) source := rfl
  obtain ⟨d', hends, hstore, hsame⟩ :=
    (Event.received who recipients timestamp source).exists_ends_deliver hd settings
  have hstate : run.2.state = d' := hends.outcome.2
  have hafter : after = before.tieAll who.account
      (receivedTies who limit recipients timestamp source) := by
    show run.2.state.store shelf = _
    rw [hstate, hstore, Event.ties, cliqueLimit_eq]
    rfl
  refine ⟨hends.outcome.1, hstate ▸ hsame, ?_, ?_⟩
  · intro account origin target hnot
    rw [hafter]
    refine Store.record?_tieAll_of_not_writes _ _ _ fun ha t ht => ?_
    by_contra hw
    rw [Bool.not_eq_false] at hw
    obtain ⟨g, hg, heq⟩ := exists_gain_of_writes ht hw
    exact hnot ha g (hgains ▸ hg) heq
  · intro origin target relation weights old
    have hweights : (making origin target relation
        (receivedTies who limit recipients timestamp source)).map (·.weight) = weights := by
      rw [making_receivedTies, ← hgains, reaching, List.map_map]
      rfl
    rw [hafter, bond?_tieAll_message fun t ht => reinforcement_of_mem_receivedTies ht]
    simp only [hweights]
    rfl

/-- A message that names its sender, the account that receives it and one recipient twice among its
    recipients. An entry is blank. -/
def roundMail : Recipients where
  from_ := ["John <j>"]
  direct := ["me", "b", "j", "Bob <b>"]
  cc := ["b", " ", "c", "ME"]

/-- An installation in which the sender of `roundMail` has a later tie to a recipient. -/
def tiedBefore : Deployment where
  active := some ⟨0, .memory .shared⟩
  stores := Keyed.empty.insert .shared
    (Store.reinforce {} "x" ⟨"j", none⟩ ⟨"b", none⟩ { channel := .direct, timestamp := 9 })

/-- The message comes once without a data source and once through one, to an account that cannot
    tell whether one of the recipients is itself. -/
theorem store_deliverReceived_roundMail :
    tiedBefore.active = some ⟨0, .memory .shared⟩ ∧
      let who := OwnAddresses.failingFor ⟨"x", "me", []⟩ ["c"]
      let after (source : Option String) :=
        ((deliverReceived {} who roundMail 7 source).outcome tiedBefore).2.state.store .shared
      (after none).bond? "x" "j" "b" "combined" = some ⟨11, 9⟩
        ∧ (after none).record? "x" "me" "b" = none
        ∧ (after none).record? "x" "j" " " = none
        ∧ (after (some "s")).bond? "x" "j" "s:b" "combined" = some ⟨5, 7⟩
        ∧ (after (some "s")).bond? "x" "s:b" "s:c" "combined" = some ⟨2, 7⟩
        ∧ (after (some "s")).record? "x" "j" "s:ME" = none := by
  refine ⟨rfl, ?_⟩
  intro who after
  obtain ⟨_, _, hothers, hbond⟩ :=
    store_deliverReceived {} who roundMail 7 none 0 .shared tiedBefore rfl
  obtain ⟨_, _, hothersVia, hbondVia⟩ :=
    store_deliverReceived {} who roundMail 7 (some "s") 0 .shared tiedBefore rfl
  exact ⟨(hbond "j" "b" "combined").trans (by decide +kernel),
    (hothers "x" "me" "b" fun _ => by decide +kernel).trans (by decide +kernel),
    (hothers "x" "j" " " fun _ => by decide +kernel).trans (by decide +kernel),
    (hbondVia "j" "s:b" "combined").trans (by decide +kernel),
    (hbondVia "s:b" "s:c" "combined").trans (by decide +kernel),
    (hothersVia "x" "j" "s:ME" fun _ => by decide +kernel).trans (by decide +kernel)⟩

end Rapport.Mail
