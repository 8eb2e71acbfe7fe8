import Rapport.Proofs.Mail.Event
import Rapport.Proofs.Mail.Gain

set_option autoImplicit false

/-! # What a sent message does to the store

The lists of a sent message are taken one by one. A list `Joins` two keys if they are those of two
different addresses on it and its length is that of a clique, and it joins them once, however often
it names them (`making_list`). `store_deliverSent` says that a backend in memory stores just this:
an edge gains the weights of the lists that join its ends, and nothing else changes. -/

namespace Rapport.Mail

/-! ## Pairs that are listed once -/

section Pairs

variable {α β : Type} [DecidableEq α]

theorem mem_ordered {l : List α} {a b : α} : (a, b) ∈ ordered l ↔ a ∈ l ∧ b ∈ l ∧ a ≠ b := by
  simp [ordered, ne_comm]

theorem nodup_ordered {l : List α} (hl : l.Nodup) : (ordered l).Nodup := by
  have hkeys : (l.map id).Nodup := by simpa using hl
  unfold ordered
  refine nodup_flatMap hkeys ?_ Prod.fst ?_
  · intro a _
    exact (hl.filter _).map fun b b' hb => (Prod.mk.inj hb).2
  · intro a _ p hp
    obtain ⟨b, _, rfl⟩ := List.mem_map.1 hp
    rfl

end Pairs

/-! ## The keys that a list joins -/

/-- Whether the members of a list are tied to one another, and two keys are those of two different
    ones. -/
def Joins (limit : Int) (source : Option String) (members : List String)
    (origin target : String) : Prop :=
  (2 ≤ members.length ∧ (members.length : Int) ≤ limit)
    ∧ ∃ a ∈ members, ∃ b ∈ members,
        a ≠ b ∧ origin = (Contact.mk a source).key ∧ target = (Contact.mk b source).key

instance (limit : Int) (source : Option String) (members : List String) (origin target : String) :
    Decidable (Joins limit source members origin target) :=
  inferInstanceAs (Decidable (_ ∧ ∃ a ∈ members, ∃ b ∈ members, _))

variable {limit : Int} {source : Option String} {members : List String}
  {origin target relation : String}

/-- A clique gains once on the edge between two keys that it joins, and on no other edge. -/
theorem reaching_cliqueGains (hmembers : members.Nodup) (channel : Channel) :
    reaching origin target relation (cliqueGains limit members source channel)
      = if Joins limit source members origin target
            ∧ (relation = channel.name ∨ relation = Channel.combinedName) then [channel]
        else [] := by
  unfold reaching cliqueGains
  by_cases hfits : 2 ≤ members.length ∧ (members.length : Int) ≤ limit
  · rw [if_pos hfits, List.filter_map, List.map_map]
    by_cases h : Joins limit source members origin target
        ∧ (relation = channel.name ∨ relation = Channel.combinedName)
    · obtain ⟨⟨_, a, ha, b, hb, hab, rfl, rfl⟩, hrelation⟩ := h
      have hsingle : (ordered members).filter ((fun g : Gain =>
            g.reaches (Contact.mk a source).key (Contact.mk b source).key relation) ∘
          fun p => ⟨(Contact.mk p.1 source).key, (Contact.mk p.2 source).key, channel⟩)
            = [(a, b)] := by
        refine filter_eq_singleton (nodup_ordered hmembers) (mem_ordered.2 ⟨ha, hb, hab⟩) ?_
        rintro ⟨x, y⟩
        simp only [Function.comp_apply, Gain.reaches, Bool.and_eq_true, Bool.or_eq_true, beq_iff_eq,
          Contact.key_inj, hrelation, and_true, Prod.mk.injEq]
        exact and_congr eq_comm eq_comm
      rw [hsingle, if_pos ⟨⟨hfits, a, ha, b, hb, hab, rfl, rfl⟩, hrelation⟩]
      rfl
    · rw [if_neg h, List.map_eq_nil_iff, List.filter_eq_nil_iff]
      rintro ⟨x, y⟩ hxy hreaches
      obtain ⟨hx, hy, hne⟩ := mem_ordered.1 hxy
      simp only [Function.comp_apply, Gain.reaches, Bool.and_eq_true, Bool.or_eq_true,
        beq_iff_eq] at hreaches
      obtain ⟨⟨horigin, htarget⟩, hrelation⟩ := hreaches
      exact h ⟨⟨hfits, x, hx, y, hy, hne, horigin, htarget⟩, hrelation⟩
  · rw [if_neg hfits, if_neg fun h => hfits h.1.1]
    rfl

/-- What the members of a list make on a relation. -/
theorem making_list (hmembers : members.Nodup) (channel : Channel) (timestamp : Int) :
    making origin target relation (cliqueTies limit members source channel timestamp)
      = if Joins limit source members origin target
            ∧ (relation = channel.name ∨ relation = Channel.combinedName) then [channel]
        else [] := by
  rw [making_cliqueTies limit hmembers, reaching_cliqueGains hmembers]

/-! ## The ties of a sent message -/

/-- The members of the lists of a message that its sender can see, with their channels. -/
def sentLists (recipients : Recipients) : List (List String × Channel) :=
  [(addressesOf recipients.direct, Channel.direct), (addressesOf recipients.cc, Channel.cc),
    (addressesOf recipients.bcc, Channel.bcc)]

theorem nodup_of_mem_sentLists {recipients : Recipients} {l : List String × Channel}
    (hl : l ∈ sentLists recipients) : l.1.Nodup := by
  simp only [sentLists, List.mem_cons, List.not_mem_nil, or_false] at hl
  rcases hl with rfl | rfl | rfl
  all_goals exact nodup_addressesOf _

theorem sentTies_eq (recipients : Recipients) (timestamp : Int) :
    sentTies limit recipients timestamp source
      = (sentLists recipients).flatMap fun l => cliqueTies limit l.1 source l.2 timestamp := rfl

theorem making_sentTies (recipients : Recipients) (timestamp : Int) :
    making origin target relation (sentTies limit recipients timestamp source)
      = ((sentLists recipients).filter fun l =>
          Joins limit source l.1 origin target
            ∧ (relation = l.2.name ∨ relation = Channel.combinedName)).map (·.2) := by
  rw [sentTies_eq, making_flatMap, ← flatMap_ite]
  refine List.flatMap_congr fun l hl => ?_
  rw [making_list (nodup_of_mem_sentLists hl)]
  simp only [decide_eq_true_eq]

theorem name_ne_of_mem_sentLists {recipients : Recipients} {l : List String × Channel}
    (hl : l ∈ sentLists recipients) : l.2.name ≠ Channel.combinedName := by
  simp only [sentLists, List.mem_cons, List.not_mem_nil, or_false] at hl
  rcases hl with rfl | rfl | rfl
  · exact (by decide : Channel.direct.name ≠ Channel.combinedName)
  · exact (by decide : Channel.cc.name ≠ Channel.combinedName)
  · exact (by decide : Channel.bcc.name ≠ Channel.combinedName)

/-- A tie of a sent message counts once, at the time of the message, and through the channel of a
    list. -/
theorem reinforcement_of_mem_sentTies {recipients : Recipients} {timestamp : Int} {t : Tie}
    (ht : t ∈ sentTies limit recipients timestamp source) :
    t.reinforcement.multiplier = 1 ∧ t.reinforcement.timestamp = timestamp
      ∧ t.reinforcement.channel.name ≠ Channel.combinedName := by
  rw [sentTies_eq] at ht
  obtain ⟨l, hl, ht⟩ := List.mem_flatMap.1 ht
  unfold cliqueTies at ht
  split at ht
  · obtain ⟨p, _, rfl⟩ := List.mem_map.1 ht
    exact ⟨rfl, rfl, name_ne_of_mem_sentLists hl⟩
  · exact absurd ht List.not_mem_nil

/-- An edge that a sent message writes is one whose ends a list joins. -/
theorem exists_joins_of_writes {recipients : Recipients} {timestamp : Int} {t : Tie}
    (ht : t ∈ sentTies limit recipients timestamp source) (hw : t.writes origin target = true) :
    ∃ l ∈ sentLists recipients, Joins limit source l.1 origin target := by
  have hmaking := mem_making_combined ht hw
  rw [making_sentTies] at hmaking
  obtain ⟨l, hl, _⟩ := List.mem_map.1 hmaking
  obtain ⟨hmem, hjoins⟩ := List.mem_filter.1 hl
  rw [decide_eq_true_eq] at hjoins
  exact ⟨l, hmem, hjoins.1⟩

/-! ## The store after a sent message -/

/-- A backend in memory stores the weights of the lists that join two contacts, on the edges of the
    account that sent the message, and nothing else in the deployment changes. An entry of a list
    stands for the one address in it, or for itself if there is none, without the blanks around it;
    what is empty is no member, and what is named twice is one member. -/
theorem store_deliverSent (settings : Settings) (account : String) (recipients : Recipients)
    (timestamp : Int) (source : Option String) (serial : Nat) (shelf : Shelf) (d : Deployment)
    (hd : d.active = some ⟨serial, .memory shelf⟩) :
    let limit := if 2 ≤ settings.maxCliqueSize then settings.maxCliqueSize else 10
    let extracted (list : List String) : List String :=
      ((list.map fun entry =>
        Text.strip (String.ofList ((soleAddress? entry.toList).getD entry.toList))).filter
          (· ≠ "")).eraseDups
    let lists : List (List String × Channel) :=
      [(extracted recipients.direct, ⟨"to", 3⟩), (extracted recipients.cc, ⟨"cc", 2⟩),
        (extracted recipients.bcc, ⟨"bcc", 1⟩)]
    let run := (deliverSent settings account recipients timestamp source).outcome d
    let before := d.store shelf
    let after := run.2.state.store shelf
    run.1 = .ok ()
      ∧ d.SameBeside shelf run.2.state
      ∧ (∀ account' origin target,
          (account' = account → ∀ l ∈ lists, ¬Joins limit source l.1 origin target) →
          after.record? account' origin target = before.record? account' origin target)
      ∧ ∀ origin target relation,
          let joining := lists.filter fun l =>
            Joins limit source l.1 origin target
              ∧ (relation = l.2.name ∨ relation = "combined")
          let weights := joining.map (·.2.weight)
          let old := before.bond? account origin target relation
          after.bond? account origin target relation
            = if weights = [] then old
              else some {
                weight := (old.getD {}).weight + weights.sum
                updatedAt := max (old.getD {}).updatedAt timestamp } := by
  intro limit extracted lists run before after
  have hlists : lists = sentLists recipients := rfl
  obtain ⟨d', hends, hstore, hsame⟩ :=
    (Event.sent account recipients timestamp source).exists_ends_deliver hd settings
  have hstate : run.2.state = d' := hends.outcome.2
  have hafter : after = before.tieAll account (sentTies limit recipients timestamp source) := by
    show run.2.state.store shelf = _
    rw [hstate, hstore, Event.ties, cliqueLimit_eq]
    rfl
  refine ⟨hends.outcome.1, hstate ▸ hsame, ?_, ?_⟩
  · intro account' origin target hnot
    rw [hafter]
    refine Store.record?_tieAll_of_not_writes _ _ _ fun ha t ht => ?_
    by_contra hw
    rw [Bool.not_eq_false] at hw
    obtain ⟨l, hl, hjoins⟩ := exists_joins_of_writes ht hw
    exact hnot ha l (hlists ▸ hl) hjoins
  · intro origin target relation joining weights old
    have hweights : (making origin target relation
        (sentTies limit recipients timestamp source)).map (·.weight) = weights := by
      rw [making_sentTies, List.map_map, ← hlists]
      rfl
    rw [hafter, bond?_tieAll_message fun t ht => reinforcement_of_mem_sentTies ht]
    simp only [hweights]
    rfl

/-- A message that names two of its recipients on two lists, one of them twice on the same, and one
    twice on a list of his own. An entry is blank. -/
def planMail : Recipients where
  direct := ["Ann <a>", "b", "a"]
  cc := ["b", " ", "a", "c"]
  bcc := ["d", "D <d>"]

/-- An installation that has seen a later message between the two. -/
def heardLater : Deployment where
  active := some ⟨0, .memory .shared⟩
  stores := Keyed.empty.insert .shared
    (Store.reinforce {} "x" ⟨"a", some "s"⟩ ⟨"b", some "s"⟩ { channel := .bcc, timestamp := 9 })

theorem store_deliverSent_planMail :
    heardLater.active = some ⟨0, .memory .shared⟩ ∧
      let after := ((deliverSent {} "x" planMail 7 (some "s")).outcome heardLater).2.state.store
        .shared
      after.bond? "x" "s:a" "s:b" "combined" = some ⟨6, 9⟩
        ∧ after.bond? "x" "s:a" "s:b" "to" = some ⟨3, 7⟩
        ∧ after.bond? "x" "s:b" "s:c" "combined" = some ⟨2, 7⟩
        ∧ after.record? "x" "s:a" "s:d" = none
        ∧ after.record? "x" "s:d" "s:D <d>" = none
        ∧ after.record? "x" "s:a" "s: " = none := by
  refine ⟨rfl, ?_⟩
  obtain ⟨_, _, hothers, hbond⟩ :=
    store_deliverSent {} "x" planMail 7 (some "s") 0 .shared heardLater rfl
  refine ⟨(hbond "s:a" "s:b" "combined").trans (by decide +kernel),
    (hbond "s:a" "s:b" "to").trans (by decide +kernel),
    (hbond "s:b" "s:c" "combined").trans (by decide +kernel),
    (hothers "x" "s:a" "s:d" fun _ => by decide +kernel).trans (by decide +kernel),
    (hothers "x" "s:d" "s:D <d>" fun _ => by decide +kernel).trans (by decide +kernel),
    (hothers "x" "s:a" "s: " fun _ => by decide +kernel).trans (by decide +kernel)⟩

end Rapport.Mail
