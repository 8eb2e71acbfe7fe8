import Mathlib.Algebra.Order.BigOperators.Group.List
import Rapport.Proofs.Contact
import Rapport.Proofs.List
import Rapport.Proofs.Mail.Ties

set_option autoImplicit false

/-! # What a message adds to the edges of an account

A `Gain` is what one message adds to one directed edge through one channel. The gains of a clique
are the ordered pairs of its different members, those of a sender the recipients that are not
himself. `making_cliqueTies` and `making_senderTies` say that these are just what the ties of a
message bring about, edge by edge and relation by relation. -/

namespace Rapport.Mail

theorem nodup_addressesOf (list : List String) : (addressesOf list).Nodup := nodup_eraseDups _

/-! ## Ordered pairs -/

/-- Every two different members of a list, in either order. -/
def ordered {α : Type} [DecidableEq α] (members : List α) : List (α × α) :=
  members.flatMap fun a => (members.filter (· ≠ a)).map (a, ·)

variable {α : Type} [DecidableEq α]

theorem countP_ordered_cons (p : α × α → Bool) {a : α} {l : List α} (ha : a ∉ l) :
    (ordered (a :: l)).countP p
      = l.countP (fun x => p (a, x)) + l.countP (fun x => p (x, a)) + (ordered l).countP p := by
  have hfirst : (a :: l).filter (· ≠ a) = l := by
    rw [List.filter_cons_of_neg (by simp), List.filter_eq_self]
    intro x hx
    simpa using fun heq : x = a => ha (heq ▸ hx)
  have hrest : (l.flatMap fun x => ((a :: l).filter (· ≠ x)).map (x, ·))
      = l.flatMap fun x => (x, a) :: (l.filter (· ≠ x)).map (x, ·) := by
    refine List.flatMap_congr fun x hx => ?_
    rw [List.filter_cons_of_pos (by simpa using fun heq : a = x => ha (heq ▸ hx)), List.map_cons]
  rw [ordered, List.flatMap_cons, hfirst, hrest, List.countP_append, countP_flatMap_cons,
    List.countP_map, ordered]
  simp only [Function.comp_def]
  omega

/-- Pairs that count in both directions are ordered pairs. -/
theorem countP_pairs (p : α × α → Bool) (hp : ∀ a b, a ≠ b → ¬(p (a, b) = true ∧ p (b, a) = true))
    {l : List α} (hl : l.Nodup) :
    (Graph.pairs l).countP (fun x => p x || p x.swap) = (ordered l).countP p := by
  induction l with
  | nil => rfl
  | cons a rest ih =>
    obtain ⟨ha, hrest⟩ := List.nodup_cons.1 hl
    have hsplit : rest.countP (fun x => p (a, x) || p (x, a))
        = rest.countP (fun x => p (a, x)) + rest.countP fun x => p (x, a) := by
      refine countP_or fun x hx => hp a x ?_
      rintro rfl
      exact ha hx
    rw [countP_ordered_cons p ha, Graph.pairs, List.countP_append, List.countP_map, ih hrest,
      ← hsplit]
    rfl

/-! ## Gains -/

/-- What a message adds to one directed edge through one channel. -/
structure Gain where
  origin : String
  target : String
  channel : Channel
deriving DecidableEq, Repr

/-- Whether a gain goes to a relation of the edge between two keys: that of its channel, and the
    combined one. -/
def Gain.reaches (g : Gain) (origin target relation : String) : Bool :=
  origin == g.origin && target == g.target
    && (relation == g.channel.name || relation == Channel.combinedName)

/-- The gains of a list whose members are all tied to one another, unless it is too short or too
    long. -/
def cliqueGains (limit : Int) (members : List String) (source : Option String)
    (channel : Channel) : List Gain :=
  if 2 ≤ members.length ∧ (members.length : Int) ≤ limit then
    (ordered members).map fun p =>
      ⟨(Contact.mk p.1 source).key, (Contact.mk p.2 source).key, channel⟩
  else []

/-- The gains from a sender, who has no source, to the members of a list. -/
def senderGains (sender : String) (members : List String) (source : Option String)
    (channel : Channel) : List Gain :=
  (members.filter (· ≠ sender)).map fun a => ⟨sender, (Contact.mk a source).key, channel⟩

/-- The channels through which gains reach a relation of an edge. -/
def reaching (origin target relation : String) (gains : List Gain) : List Channel :=
  (gains.filter (·.reaches origin target relation)).map (·.channel)

/-- The channels through which ties are made on a relation of an edge. -/
def making (origin target relation : String) (ties : List Tie) : List Channel :=
  (ties.filter fun t => t.writes origin target && t.carries relation).map (·.reinforcement.channel)

section Lists

variable {origin target relation : String}

theorem making_append (xs ys : List Tie) :
    making origin target relation (xs ++ ys)
      = making origin target relation xs ++ making origin target relation ys := by
  simp [making]

theorem reaching_append (xs ys : List Gain) :
    reaching origin target relation (xs ++ ys)
      = reaching origin target relation xs ++ reaching origin target relation ys := by
  simp [reaching]

theorem making_flatMap {β : Type} (l : List β) (f : β → List Tie) :
    making origin target relation (l.flatMap f)
      = l.flatMap fun x => making origin target relation (f x) := by
  simp [making, List.filter_flatMap, List.map_flatMap]

theorem reaching_flatMap {β : Type} (l : List β) (f : β → List Gain) :
    reaching origin target relation (l.flatMap f)
      = l.flatMap fun x => reaching origin target relation (f x) := by
  simp [reaching, List.filter_flatMap, List.map_flatMap]

end Lists

/-- Ties and gains of one channel agree if they are equally many on the edge. -/
theorem making_eq_reaching {ties : List Tie} {gains : List Gain} (channel : Channel)
    {origin target : String} (relation : String)
    (hties : ∀ t ∈ ties, t.reinforcement.channel = channel)
    (hgains : ∀ g ∈ gains, g.channel = channel)
    (h : ties.countP (·.writes origin target)
      = gains.countP fun g => origin == g.origin && target == g.target) :
    making origin target relation ties = reaching origin target relation gains := by
  have hcarries : ∀ t ∈ ties, t.carries relation
      = (relation == channel.name || relation == Channel.combinedName) := by
    intro t ht
    rw [Tie.carries, hties t ht]
  have hreaches : ∀ g ∈ gains, g.reaches origin target relation
      = (origin == g.origin && target == g.target
        && (relation == channel.name || relation == Channel.combinedName)) := by
    intro g hg
    rw [Gain.reaches, hgains g hg]
  -- All have one channel, so that only their numbers matter.
  have hmaking : making origin target relation ties = List.replicate
      (ties.countP fun t => t.writes origin target && t.carries relation) channel := by
    refine List.eq_replicate_iff.2 ⟨by rw [making, List.length_map, List.countP_eq_length_filter],
      fun c hc => ?_⟩
    obtain ⟨t, ht, rfl⟩ := List.mem_map.1 hc
    exact hties t (List.mem_filter.1 ht).1
  have hreaching : reaching origin target relation gains = List.replicate
      (gains.countP (·.reaches origin target relation)) channel := by
    refine List.eq_replicate_iff.2
      ⟨by rw [reaching, List.length_map, List.countP_eq_length_filter], fun c hc => ?_⟩
    obtain ⟨g, hg, rfl⟩ := List.mem_map.1 hc
    exact hgains g (List.mem_filter.1 hg).1
  rw [hmaking, hreaching]
  congr 1
  by_cases hk : (relation == channel.name || relation == Channel.combinedName) = true
  · have hall : ties.countP (fun t => t.writes origin target && t.carries relation)
        = ties.countP (·.writes origin target) :=
      List.countP_congr fun t ht => by rw [hcarries t ht, hk, Bool.and_true]
    have hall' : gains.countP (·.reaches origin target relation)
        = gains.countP fun g => origin == g.origin && target == g.target :=
      List.countP_congr fun g hg => by rw [hreaches g hg, hk, Bool.and_true]
    rw [hall, hall', h]
  · rw [Bool.not_eq_true] at hk
    rw [List.countP_eq_zero.2 fun t ht => by simp [hcarries t ht, hk],
      List.countP_eq_zero.2 fun g hg => by simp [hreaches g hg, hk]]

/-! ## Ties bring about gains -/

/-- The ties of a clique bring about its gains. -/
theorem making_cliqueTies (limit : Int) {members : List String} (hmembers : members.Nodup)
    (source : Option String) (channel : Channel) (timestamp : Int)
    (origin target relation : String) :
    making origin target relation (cliqueTies limit members source channel timestamp)
      = reaching origin target relation (cliqueGains limit members source channel) := by
  let p : String × String → Bool := fun x =>
    origin == (Contact.mk x.1 source).key && target == (Contact.mk x.2 source).key
  have hp : ∀ a b, a ≠ b → ¬(p (a, b) = true ∧ p (b, a) = true) := by
    rintro a b hab ⟨hforth, hback⟩
    simp only [p, Bool.and_eq_true, beq_iff_eq] at hforth hback
    exact hab (Contact.key_inj.1 (hforth.1.symm.trans hback.1))
  unfold cliqueTies cliqueGains
  split
  · refine making_eq_reaching channel relation ?_ ?_ ?_
    · intro t ht
      obtain ⟨x, _, rfl⟩ := List.mem_map.1 ht
      rfl
    · intro g hg
      obtain ⟨x, _, rfl⟩ := List.mem_map.1 hg
      rfl
    · rw [List.countP_map, List.countP_map]
      exact countP_pairs p hp hmembers
  · rfl

/-- The ties of a sender bring about his gains. -/
theorem making_senderTies (sender : String) (members : List String) (source : Option String)
    (channel : Channel) (timestamp : Int) (origin target relation : String) :
    making origin target relation (senderTies sender members source channel timestamp)
      = reaching origin target relation (senderGains sender members source channel) := by
  refine making_eq_reaching channel relation ?_ ?_ ?_
  · intro t ht
    obtain ⟨a, _, rfl⟩ := List.mem_map.1 ht
    rfl
  · intro g hg
    obtain ⟨a, _, rfl⟩ := List.mem_map.1 hg
    rfl
  · rw [senderTies, senderGains, List.countP_map, List.countP_map]
    refine List.countP_congr fun a _ => ?_
    simp only [Function.comp_apply, Tie.writes, Bool.not_true, Bool.false_and, Bool.or_false]
    rfl

/-! ## Ties of one message -/

/-- Ties of one message, each counted once, add up to what their channels weigh. -/
theorem accumulate_message {timestamp : Int} {ties : List Tie}
    (h : ∀ t ∈ ties, t.reinforcement.multiplier = 1 ∧ t.reinforcement.timestamp = timestamp)
    (old : Option Bond) :
    Tie.accumulate old ties
      = if ties.map (·.reinforcement.channel) = [] then old
        else some {
          weight := (old.getD {}).weight
            + ((ties.map (·.reinforcement.channel)).map (·.weight)).sum
          updatedAt := max (old.getD {}).updatedAt timestamp } := by
  induction ties generalizing old with
  | nil => rfl
  | cons t rest ih =>
    obtain ⟨hone, htime⟩ := h t List.mem_cons_self
    have hamount : t.reinforcement.amount = t.reinforcement.channel.weight := by
      rw [Reinforcement.amount, hone, one_mul]
    rw [Tie.accumulate_cons, ih fun t' ht' => h t' (List.mem_cons_of_mem _ ht')]
    by_cases hrest : rest.map (·.reinforcement.channel) = []
    · simp [hrest, Bond.reinforced, hamount, htime]
    · simp [hrest, Bond.reinforced, hamount, htime, add_assoc]

/-- A relation gains what the channels weigh through which ties of one message are made on it. -/
theorem bond?_tieAll_message {timestamp : Int} {ties : List Tie}
    (h : ∀ t ∈ ties, t.reinforcement.multiplier = 1 ∧ t.reinforcement.timestamp = timestamp
      ∧ t.reinforcement.channel.name ≠ Channel.combinedName)
    (s : Store) (account origin target relation : String) :
    (s.tieAll account ties).bond? account origin target relation
      = let weights := (making origin target relation ties).map (·.weight)
        let old := s.bond? account origin target relation
        if weights = [] then old
        else some {
          weight := (old.getD {}).weight + weights.sum
          updatedAt := max (old.getD {}).updatedAt timestamp } := by
  have hmessage : ∀ t ∈ ties.filter (fun t => t.writes origin target && t.carries relation),
      t.reinforcement.multiplier = 1 ∧ t.reinforcement.timestamp = timestamp := by
    intro t ht
    obtain ⟨hone, htime, _⟩ := h t (List.mem_filter.1 ht).1
    exact ⟨hone, htime⟩
  rw [Store.bond?_tieAll _ _ fun t ht => (h t ht).2.2, accumulate_message hmessage]
  simp only [making, List.map_eq_nil_iff]

/-- Whatever its channel is, a tie is made on the combined relation of every edge that it writes. -/
theorem mem_making_combined {ties : List Tie} {t : Tie} (ht : t ∈ ties) {origin target : String}
    (hw : t.writes origin target = true) :
    t.reinforcement.channel ∈ making origin target Channel.combinedName ties :=
  List.mem_map.2 ⟨t, List.mem_filter.2 ⟨ht, by simp [hw]⟩, rfl⟩

end Rapport.Mail
