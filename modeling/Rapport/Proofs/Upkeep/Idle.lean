import Rapport.Proofs.Graph.Stale
import Rapport.Proofs.Upkeep.Cutoff

set_option autoImplicit false

/-! # Idle edges

Pruning by age is meant for edges that have been idle for longer than the age (`SparesUpTo`). At a
moment on a whole second, with an age of whole seconds, the cutoff is exact, but an edge that was
last reinforced at the cutoff goes, too: it has been idle for just the age. Where the clocks have
been changed in between, the cutoff is off by as much, since the age is taken off the local time.
`sparesUpTo_iff` says what is deleted in any case, and for which edges that is as meant. -/

namespace Rapport

/-! ## Edges of a reachable store -/

/-- Every edge has a combined relation. -/
def Store.Combines (s : Store) : Prop :=
  ∀ account origin target bonds, s.record? account origin target = some bonds →
    ∃ b, bonds.find? Channel.combinedName = some b

theorem Store.exists_combined_grownBonds (r : Reinforcement) (bonds : Bonds) :
    ∃ b, (grownBonds r bonds).find? Channel.combinedName = some b := by
  rw [grownBonds, Reinforcement.relations, List.foldl_cons, List.foldl_cons, List.foldl_nil,
    Keyed.find?_upsert, if_pos rfl]
  exact ⟨_, rfl⟩

theorem Store.combines_after (requests : List (String × Request)) :
    (Graph.after Graph.inMemory {} requests).Combines := by
  refine Graph.after_inMemory_induction (fun s account a b r hs => ?_) (fun s account p hs => ?_)
    (fun _ _ _ _ hrecord => nomatch hrecord) requests
  · intro account' origin target bonds hrecord
    rw [record?_reinforce] at hrecord
    split at hrecord
    · cases hrecord
      exact exists_combined_grownBonds r _
    · exact hs account' origin target bonds hrecord
  · intro account' origin target bonds hrecord
    rw [record?_remove, Option.filter_eq_some_iff] at hrecord
    exact hs account' origin target bonds hrecord.1

namespace Upkeep

/-! ## Whole seconds -/

/-- A moment of a zone is on a whole second of the epoch. -/
structure Moment.IsOnSecond (t : Moment) (zone : Zone) (second : Int) : Prop where
  zone_eq : t.zone = some zone
  instant : t.local_ - zone.ahead t.local_ = secondLength * second

variable {now earlier : Moment} {zone : Zone} {age : Span} {second seconds shift : Int}

/-- Whole seconds before a whole second there is a whole second, or where the clocks have been put
    forward or back by whole seconds in between, as many later or earlier. -/
theorem Moment.IsOnSecond.reaches (h : now.IsOnSecond zone second)
    (hage : age.microseconds = secondLength * seconds) (hminus : now.minus age = .ok earlier)
    (hshift : zone.ahead now.local_ - zone.ahead earlier.local_ = secondLength * shift) :
    Reaches now age (1000 * (second - seconds + shift)) := by
  obtain ⟨rfl, _⟩ := Moment.minus_eq_ok hminus
  refine ⟨_, zone, hminus, h.zone_eq, ?_⟩
  have hinstant := h.instant
  simp only [secondLength] at *
  omega

/-! ## What is deleted -/

/-- Of the edges of an account, those that have been idle for longer than an age at a time are gone
    from a store, and the others are there with all their relations. -/
def SparesUpTo (s s' : Store) (account : String) (now age : Int) : Prop :=
  ∀ origin target bonds, s.record? account origin target = some bonds →
    ∃ b, bonds.find? Channel.combinedName = some b
      ∧ (age < now - b.updatedAt → s'.record? account origin target = none)
      ∧ (now - b.updatedAt ≤ age → s'.record? account origin target = some bonds)

theorem record?_of_pruned {s s' : Store} {account origin target : String} {limit : Int}
    (h : s.Pruned account limit s') {bonds : Bonds} {b : Bond}
    (hrecord : s.record? account origin target = some bonds)
    (hb : bonds.find? Channel.combinedName = some b) :
    s'.record? account origin target = if b.updatedAt ≤ limit then none else some bonds := by
  have hbond : s.bond? account origin target Channel.combinedName = some b := by
    rw [Store.bond?_eq, hrecord, Option.bind_some, hb]
  have hstale : s.IsStale limit account origin target ↔ b.updatedAt ≤ limit := by
    simp only [Store.IsStale, hbond, Option.mem_some_iff, exists_eq_left']
  rw [h account origin target, hrecord]
  exact if_congr ((and_iff_right rfl).trans hstale) rfl rfl

/-- The edges are spared that are meant to be just if none is between the cutoff and the age. -/
theorem sparesUpTo_iff_of_pruned {s s' : Store} {account : String} {limit : Int}
    (hs : s.Combines) (h : s.Pruned account limit s') (now age : Int) :
    SparesUpTo s s' account now age
      ↔ ∀ origin target, ∀ b ∈ s.bond? account origin target Channel.combinedName,
        (b.updatedAt ≤ limit ↔ age < now - b.updatedAt) := by
  constructor
  · intro hspares origin target b hbond
    rw [Option.mem_def, Store.bond?_eq] at hbond
    obtain ⟨bonds, hrecord, hb⟩ := Option.bind_eq_some_iff.1 hbond
    obtain ⟨b', hb', hlonger, hkept⟩ := hspares origin target bonds hrecord
    obtain rfl : b' = b := Option.some.inj (hb'.symm.trans hb)
    rw [record?_of_pruned h hrecord hb] at hlonger hkept
    constructor
    · intro hlimit
      by_contra hidle
      rw [if_pos hlimit] at hkept
      exact nomatch hkept (Int.not_lt.1 hidle)
    · intro hidle
      by_contra hlimit
      rw [if_neg hlimit] at hlonger
      exact nomatch hlonger hidle
  · intro hbetween origin target bonds hrecord
    obtain ⟨b, hb⟩ := hs account origin target bonds hrecord
    have hbond : b ∈ s.bond? account origin target Channel.combinedName := by
      rw [Option.mem_def, Store.bond?_eq, hrecord]
      exact hb
    have hiff := hbetween origin target b hbond
    rw [record?_of_pruned h hrecord hb]
    exact ⟨b, hb, fun hidle => if_pos (hiff.2 hidle),
      fun hidle => if_neg fun hlimit => Int.not_lt.2 hidle (hiff.1 hlimit)⟩

/-- An account of a backend that keeps its graphs in memory, after any requests, is pruned by an age
    of whole seconds at a whole second. Where the age reaches out of all years, nothing is changed.
    Else just those edges go whose combined relation is not later than a cutoff. That is what is
    meant, as long as these are the edges that have been idle for longer than the age. The cutoff is
    that age ago, moved by what the clocks have been changed since. Where they have not been, it is
    what is meant as long as no edge has been idle for just the age. -/
theorem sparesUpTo_iff {d : Deployment} {serial : Nat} {shelf : Shelf}
    (hd : d.active = some ⟨serial, .memory shelf⟩) {requests : List (String × Request)}
    (hstore : d.store shelf = Graph.after Graph.inMemory {} requests)
    (hnow : now.IsOnSecond zone second) (hage : age.microseconds = secondLength * seconds)
    (account : String) :
    let run := (pruneOlderThan account now age).outcome d
    let s := d.store shelf
    let s' := run.2.state.store shelf
    let spares := SparesUpTo s s' account (1000 * second) (1000 * seconds)
    (∀ f, now.minus age = .error f → run.1 = .error f ∧ run.2.state = d)
      ∧ ∀ earlier, now.minus age = .ok earlier → ∃ limit,
        run.1 = .ok limit ∧ d.SameBeside shelf run.2.state ∧ s.Pruned account limit s'
          ∧ (spares ↔ ∀ origin target, ∀ b ∈ s.bond? account origin target Channel.combinedName,
            (b.updatedAt ≤ limit ↔ 1000 * seconds < 1000 * second - b.updatedAt))
          ∧ ∀ shift, zone.ahead now.local_ - zone.ahead earlier.local_ = secondLength * shift →
            limit = 1000 * (second - seconds + shift)
              ∧ (shift = 0 → (spares
                ↔ ∀ origin target, ∀ b ∈ s.bond? account origin target Channel.combinedName,
                  1000 * second - b.updatedAt ≠ 1000 * seconds)) := by
  intro run s s' spares
  refine ⟨fun f hminus => ?_, fun earlier hminus => ?_⟩
  · have hcutoff : cutoff now age = .error f := by rw [cutoff, hminus]; rfl
    have hends : (pruneOlderThan account now age).Ends d (.error f) d := by
      rw [pruneOlderThan, hcutoff]
      exact Action.Ends.bind_error _ (Action.Ends.ofExcept (.error f) d)
    exact hends.outcome
  · obtain ⟨limit, hlimit⟩ := exists_cutoff_eq hnow.zone_eq hminus
    have hends := ends_pruneUpTo hd account limit
    rw [← pruneOlderThan_eq hlimit account] at hends
    have hpruned : s.Pruned account limit s' := by
      rw [show s' = s.remove account (Removal.stale limit).takes by
        rw [show s' = _ from congrArg (·.store shelf) hends.outcome.2, Deployment.store_setStore]]
      exact s.pruned_remove account limit
    have hcombines : s.Combines := by
      rw [show s = _ from hstore]
      exact Store.combines_after requests
    have hspares := sparesUpTo_iff_of_pruned hcombines hpruned (1000 * second) (1000 * seconds)
    have hbeside : d.SameBeside shelf run.2.state := by
      rw [show run.2.state = _ from hends.outcome.2]
      exact d.sameBeside_setStore shelf _
    refine ⟨limit, hends.outcome.1, hbeside, hpruned, hspares, fun shift hshift => ?_⟩
    have hexact := (hnow.reaches hage hminus hshift).cutoff_eq_of_dvd ⟨_, rfl⟩
    obtain rfl := Except.ok.inj (hexact.symm.trans hlimit)
    refine ⟨rfl, fun hunchanged => hspares.trans ?_⟩
    refine forall₄_congr fun origin target b _ => ?_
    rw [hunchanged]
    omega

/-- An installation that keeps its graphs in memory, after some requests. -/
def keeping (requests : List (String × Request)) : Deployment :=
  Deployment.setStore .shared (Graph.after Graph.inMemory {} requests)
    { active := some ⟨0, .memory .shared⟩ }

/-- Two pairs of contacts, tied at the given times. -/
def tiedAt (first second : Int) : List (String × Request) :=
  [("x", .reinforce ⟨"a", none⟩ ⟨"b", none⟩ { channel := .direct, timestamp := first }),
    ("x", .reinforce ⟨"a", none⟩ ⟨"c", none⟩ { channel := .direct, timestamp := second })]

theorem updatedAt_of_tiedAt {first second : Int} (hfirst : 0 ≤ first) (hsecond : 0 ≤ second)
    {origin target : String} {b : Bond}
    (hb : b ∈ ((keeping (tiedAt first second)).store .shared).bond? "x" origin target
      Channel.combinedName) : b.updatedAt = first ∨ b.updatedAt = second := by
  have hchannel : Channel.direct.name ≠ Channel.combinedName := by decide
  rw [keeping, Deployment.store_setStore, Graph.after_inMemory, tiedAt, List.foldl_cons,
    List.foldl_cons, List.foldl_nil] at hb
  simp only [Request.effect, Request.ties] at hb
  rw [if_neg (by decide), if_neg (by decide)] at hb
  simp only [Store.tieAll_cons, Store.tieAll_nil] at hb
  rw [Store.bond?_reinforce _ _ _ _ hchannel, Store.bond?_reinforce _ _ _ _ hchannel,
    Store.bond?_empty] at hb
  split at hb
  · cases hb
    split
    · simp only [Option.getD_some, Option.getD_none, Bond.reinforced]
      omega
    · simp only [Option.getD_none, Bond.reinforced]
      omega
  · split at hb
    · cases hb
      simp only [Option.getD_none, Bond.reinforced]
      omega
    · exact absurd hb (by simp)

/-- Half a minute before the hundredth second, one pair has been idle for longer than that, and the
    other has not. -/
theorem sparesUpTo_iff_tiedAt :
    let now : Moment := ⟨100 * secondLength, some universal⟩
    let d := keeping (tiedAt 69999 70001)
    let run := (pruneOlderThan "x" now ⟨30 * secondLength⟩).outcome d
    SparesUpTo (d.store .shared) (run.2.state.store .shared) "x" 100000 30000 := by
  intro now d run
  have hactive : d.active = some ⟨0, .memory .shared⟩ := rfl
  have hstore : d.store .shared = Graph.after Graph.inMemory {} (tiedAt 69999 70001) :=
    Deployment.store_setStore _ _ _
  have hnow : now.IsOnSecond universal 100 := ⟨rfl, by decide⟩
  have hage : (⟨30 * secondLength⟩ : Span).microseconds = secondLength * 30 := by decide
  obtain ⟨_, _, _, _, _, hlimit⟩ := (sparesUpTo_iff hactive hstore hnow hage "x").2 _ rfl
  refine ((hlimit 0 (by decide)).2 rfl).2 fun origin target b hb => ?_
  have htime := updatedAt_of_tiedAt (by decide) (by decide) hb
  omega

/-- One that has been idle for just that long is deleted. -/
theorem not_sparesUpTo :
    ¬∀ (requests : List (String × Request)) (now : Moment) (zone : Zone) (age : Span)
      (second seconds : Int), now.IsOnSecond zone second → 0 < second →
        age.microseconds = secondLength * seconds → seconds ≤ second → ∀ account,
          let d := keeping requests
          let run := (pruneOlderThan account now age).outcome d
          SparesUpTo (d.store .shared) (run.2.state.store .shared) account (1000 * second)
            (1000 * seconds) := by
  intro h
  have hspares := h (tiedAt 70000 70001) ⟨100 * secondLength, some universal⟩ universal
    ⟨30 * secondLength⟩ 100 30 ⟨rfl, by decide⟩ (by decide) (by decide) (by decide) "x"
  obtain ⟨b, hb, _, hkept⟩ := hspares "a" "b" _ rfl
  obtain rfl : (⟨3, 70000⟩ : Bond) = b := Option.some.inj hb
  have hgone := hkept (by decide)
  revert hgone
  decide +kernel

end Upkeep

end Rapport
