import Rapport.Proofs.Mail.Errand

set_option autoImplicit false

/-! # The ties of a message

The errands of a message with their notes left out: `cliqueTies` are those of a list whose members
are all tied to one another, `senderTies` those from a sender to the members of a list, and
`receivedTies` all that a received message asks for. `ties_receivedErrands` says that its errands
come to nothing else, and `mem_receivedErrands` what each of these errands can be. -/

namespace Rapport.Mail

/-- The ties between all members of a list, unless it is too short or too long. -/
def cliqueTies (limit : Int) (members : List String) (source : Option String) (channel : Channel)
    (timestamp : Int) : List Tie :=
  if 2 ≤ members.length ∧ (members.length : Int) ≤ limit then
    (Graph.pairs members).map fun p =>
      ⟨⟨p.1, source⟩, ⟨p.2, source⟩, { channel, timestamp }⟩
  else []

/-- The ties from a sender, who has no source, to the members of a list. -/
def senderTies (sender : String) (members : List String) (source : Option String)
    (channel : Channel) (timestamp : Int) : List Tie :=
  (members.filter (· ≠ sender)).map fun a =>
    ⟨⟨sender, none⟩, ⟨a, source⟩, { channel, timestamp, directed := true }⟩

/-- The members of a list, the account itself left out. An address that cannot be judged stays. -/
def keptAddresses (who : Identity) (list : List String) : List String :=
  (addressesOf list).filter fun a => who.owns a ≠ .ok true

/-- The lists of a message that everybody who received it can see. -/
def sharedLists (recipients : Recipients) : List (List String × Channel) :=
  [(recipients.direct, Channel.direct), (recipients.cc, Channel.cc)]

/-- The ties that a received message asks for. -/
def receivedTies (who : Identity) (limit : Int) (recipients : Recipients) (timestamp : Int)
    (source : Option String) : List Tie :=
  (sharedLists recipients).flatMap
      (fun l => cliqueTies limit (keptAddresses who l.1) source l.2 timestamp)
    ++ (addressesOf recipients.from_).flatMap fun sender =>
      (sharedLists recipients).flatMap fun l =>
        senderTies sender (keptAddresses who l.1) source l.2 timestamp

/-! ## Own addresses -/

theorem excludes_iff {who : Identity} {a : String} :
    who.excludes a = true ↔ who.owns a = .ok true := by
  rw [Identity.excludes]
  cases who.owns a <;> simp

theorem others_eq (who : Identity) (list : List String) (source : Option String) :
    who.others list source = (keptAddresses who list).map (⟨·, source⟩) := by
  rw [Identity.others, keptAddresses]
  congr 2
  funext a
  rw [Bool.eq_iff_iff, Bool.not_eq_true', ← Bool.not_eq_true, excludes_iff, decide_eq_true_iff]

/-! ## Errands come to ties -/

theorem ties_notes (entries : List Journal.Entry) :
    (entries.map Errand.note).flatMap Errand.ties = [] := by
  rw [List.flatMap_map, List.flatMap_eq_nil_iff]
  exact fun _ _ => rfl

theorem pairs_map {α β : Type} (f : α → β) (l : List α) :
    Graph.pairs (l.map f) = (Graph.pairs l).map fun p => (f p.1, f p.2) := by
  induction l with
  | nil => rfl
  | cons a rest ih => simp [Graph.pairs, ih, Function.comp_def]

theorem cliqueLimit_eq (size : Int) : cliqueLimit size = if 2 ≤ size then size else 10 := by
  unfold cliqueLimit Settings.defaultCliqueSize
  split <;> split <;> omega

theorem ties_cliqueErrands (account : String) (size : Int) (members : List String)
    (source : Option String) (channel : Channel) (timestamp : Int) :
    (cliqueErrands account size (members.map (⟨·, source⟩)) { channel, timestamp }).flatMap
        Errand.ties
      = cliqueTies (cliqueLimit size) members source channel timestamp := by
  unfold cliqueErrands cliqueTies
  rw [List.length_map]
  by_cases hshort : members.length < 2
  · rw [if_pos hshort, if_neg fun h => absurd h.1 (by omega), List.flatMap_nil]
  · rw [if_neg hshort, List.flatMap_append, ties_notes, List.nil_append]
    by_cases hlong : cliqueLimit size < members.length
    · rw [if_pos hlong, if_neg fun h => absurd h.2 (by omega)]
      rfl
    · rw [if_neg hlong, if_pos ⟨by omega, by omega⟩, List.flatMap_singleton, Errand.ties,
        Request.ties, if_neg (by simp), pairs_map, List.map_map]
      rfl

theorem ties_senderErrands (sender : String) (members : List String) (source : Option String)
    (channel : Channel) (timestamp : Int) :
    (senderErrands sender (members.map (⟨·, source⟩)) channel timestamp).flatMap Errand.ties
      = senderTies sender members source channel timestamp := by
  rw [senderErrands, senderTies, List.filter_map, List.map_map, List.flatMap_map,
    List.map_eq_flatMap]
  rfl

theorem ties_listErrands (who : Identity) (size : Int) (list : List String) (channel : Channel)
    (timestamp : Int) (source : Option String) :
    (listErrands who size list channel timestamp source).flatMap Errand.ties
      = cliqueTies (cliqueLimit size) (keptAddresses who list) source channel timestamp := by
  have hnotes : ((addressesOf list).flatMap who.notes).flatMap Errand.ties = [] := by
    rw [List.flatMap_assoc, List.flatMap_eq_nil_iff]
    intro a _
    unfold Identity.notes
    split <;> rfl
  rw [listErrands, List.flatMap_append, hnotes, List.nil_append, others_eq]
  exact ties_cliqueErrands _ _ _ _ _ _

theorem ties_receivedErrands (who : Identity) (size : Int) (recipients : Recipients)
    (timestamp : Int) (source : Option String) :
    (receivedErrands who size recipients timestamp source).flatMap Errand.ties
      = receivedTies who (cliqueLimit size) recipients timestamp source := by
  rw [receivedErrands, receivedTies, List.flatMap_append, List.flatMap_assoc, List.flatMap_assoc]
  congr 1
  · exact List.flatMap_congr fun (list, channel) _ =>
      ties_listErrands who size list channel timestamp source
  · refine List.flatMap_congr fun sender _ => ?_
    rw [List.flatMap_assoc]
    refine List.flatMap_congr fun (list, channel) _ => ?_
    dsimp only
    rw [others_eq]
    exact ties_senderErrands sender (keptAddresses who list) source channel timestamp

theorem mem_pairs {α : Type} {l : List α} {p : α × α} (h : p ∈ Graph.pairs l) :
    p.1 ∈ l ∧ p.2 ∈ l := by
  induction l with
  | nil => exact absurd h (by simp [Graph.pairs])
  | cons a rest ih =>
    rw [Graph.pairs, List.mem_append] at h
    rcases h with h | h
    · obtain ⟨b, hb, rfl⟩ := List.mem_map.1 h
      exact ⟨List.mem_cons_self, List.mem_cons_of_mem _ hb⟩
    · exact ⟨List.mem_cons_of_mem _ (ih h).1, List.mem_cons_of_mem _ (ih h).2⟩

/-- What holds of all pairs holds of every two members, the earlier one first. -/
theorem forall_mem_pairs_iff {α : Type} {R : α → α → Prop} {l : List α} :
    (∀ p ∈ Graph.pairs l, R p.1 p.2) ↔ l.Pairwise R := by
  induction l with
  | nil => simp [Graph.pairs]
  | cons a rest ih => simp only [Graph.pairs, List.forall_mem_append, List.forall_mem_map,
      List.pairwise_cons, ih]

/-- Each tie of a received message is between two members of one list, or from a sender to a
    member. -/
theorem mem_receivedTies {who : Identity} {limit : Int} {recipients : Recipients} {timestamp : Int}
    {source : Option String} {t : Tie}
    (ht : t ∈ receivedTies who limit recipients timestamp source) :
    ∃ l ∈ sharedLists recipients,
      (∃ a ∈ keptAddresses who l.1, ∃ b ∈ keptAddresses who l.1,
        t = ⟨⟨a, source⟩, ⟨b, source⟩, { channel := l.2, timestamp }⟩)
      ∨ ∃ sender ∈ addressesOf recipients.from_, ∃ a ∈ keptAddresses who l.1,
        t = ⟨⟨sender, none⟩, ⟨a, source⟩, { channel := l.2, timestamp, directed := true }⟩ := by
  rw [receivedTies, List.mem_append, List.mem_flatMap, List.mem_flatMap] at ht
  rcases ht with ⟨l, hl, ht⟩ | ⟨sender, hsender, ht⟩
  · rw [cliqueTies] at ht
    split at ht
    · obtain ⟨p, hp, rfl⟩ := List.mem_map.1 ht
      exact ⟨l, hl, Or.inl ⟨p.1, (mem_pairs hp).1, p.2, (mem_pairs hp).2, rfl⟩⟩
    · exact absurd ht (by simp)
  · obtain ⟨l, hl, ht⟩ := List.mem_flatMap.1 ht
    obtain ⟨a, ha, rfl⟩ := List.mem_map.1 ht
    exact ⟨l, hl, Or.inr ⟨sender, hsender, a, (List.mem_filter.1 ha).1, rfl⟩⟩

/-! ## What errands there are -/

/-- The events that tell of a failure of the graph. -/
def failureEvents : List String :=
  ["clique_edge_update_failed", "clique_update_failed", "sender_affinity_update_failed"]

/-- An errand that only notes something, and no failure. -/
def Errand.IsPlainNote (e : Errand) : Prop :=
  ∃ entry, entry.event ∉ failureEvents ∧ e = .note entry

theorem mem_cliqueErrands {account : String} {size : Int} {members : List Contact}
    {r : Reinforcement} {e : Errand} (he : e ∈ cliqueErrands account size members r) :
    e.IsPlainNote ∨ 2 ≤ members.length ∧ e = .clique members r := by
  unfold cliqueErrands at he
  split at he
  · exact absurd he List.not_mem_nil
  · next hmembers =>
    rcases List.mem_append.1 he with he | he
    · obtain ⟨entry, hentry, rfl⟩ := List.mem_map.1 he
      unfold cliqueLimitNotes at hentry
      split at hentry
      · rw [List.mem_singleton.1 hentry]
        exact Or.inl ⟨_, by simp [Journal.Entry.event, failureEvents], rfl⟩
      · exact absurd hentry List.not_mem_nil
    · split at he
      · exact Or.inl ⟨_, by simp [Journal.Entry.event, failureEvents], List.mem_singleton.1 he⟩
      · exact Or.inr ⟨not_lt.1 hmembers, List.mem_singleton.1 he⟩

/-- An errand of a received message is a note, the clique of a list or a tie from a sender to a
    member of a list. -/
theorem mem_receivedErrands {who : Identity} {size : Int} {recipients : Recipients}
    {timestamp : Int} {source : Option String} {e : Errand}
    (he : e ∈ receivedErrands who size recipients timestamp source) :
    e.IsPlainNote ∨ ∃ l ∈ sharedLists recipients,
      (2 ≤ (who.others l.1 source).length
        ∧ e = .clique (who.others l.1 source) { channel := l.2, timestamp })
      ∨ ∃ sender ∈ addressesOf recipients.from_, ∃ recipient ∈ who.others l.1 source,
        e = .tie ⟨sender, none⟩ recipient { channel := l.2, timestamp, directed := true } := by
  rw [receivedErrands, List.mem_append, List.mem_flatMap, List.mem_flatMap] at he
  rcases he with ⟨⟨list, channel⟩, hl, he⟩ | ⟨sender, hsender, he⟩
  · rcases List.mem_append.1 he with he | he
    · obtain ⟨a, _, he⟩ := List.mem_flatMap.1 he
      unfold Identity.notes at he
      split at he
      · exact absurd he List.not_mem_nil
      · exact Or.inl ⟨_, by simp [Journal.Entry.event, failureEvents], List.mem_singleton.1 he⟩
    · exact (mem_cliqueErrands he).imp_right fun h => ⟨(list, channel), hl, Or.inl h⟩
  · obtain ⟨l, hl, he⟩ := List.mem_flatMap.1 he
    obtain ⟨recipient, hrecipient, rfl⟩ := List.mem_map.1 he
    exact Or.inr ⟨l, hl,
      Or.inr ⟨sender, hsender, recipient, (List.mem_filter.1 hrecipient).1, rfl⟩⟩

end Rapport.Mail
