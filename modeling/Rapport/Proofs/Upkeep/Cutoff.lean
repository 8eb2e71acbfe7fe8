import Rapport.Proofs.Mail.Errand
import Rapport.Proofs.Numeral.Thousandth
import Rapport.Upkeep.Basic

set_option autoImplicit false

/-! # The cutoff of an age

Pruning by age takes the age off the time of reference, and turns what it gets into milliseconds of
the epoch. On the way there the seconds are a double, and their product with a thousand is another.
All moments have less than 48 bits of milliseconds, so `truncate_thousandth` says what they become:
a moment on a whole millisecond gives just that one, or, where it `Slips`, the next one towards the
epoch. -/

namespace Rapport.Upkeep

open Numeral

/-! ## Moments -/

theorem Moment.minus_eq_ok {now earlier : Moment} {age : Span} (h : now.minus age = .ok earlier) :
    earlier = { now with local_ := now.local_ - age.microseconds }
      ∧ firstMoment ≤ earlier.local_ ∧ earlier.local_ < lastMoment := by
  unfold minus at h
  dsimp only at h
  split at h
  · next hrange =>
    cases h
    exact ⟨rfl, hrange⟩
  · exact nomatch h

/-- No moment of a known zone is as far from the epoch as 48 bits of milliseconds reach. -/
theorem Moment.natAbs_lt {t : Moment} (hleast : firstMoment ≤ t.local_)
    (hgreatest : t.local_ < lastMoment) (zone : Zone) {m : Int}
    (hm : t.local_ - zone.ahead t.local_ = 1000 * m) : m.natAbs < 2 ^ 48 := by
  have hahead := zone.ahead_lt t.local_
  have hfirst : firstMoment = -62135596800000000 := by decide
  have hlast : lastMoment = 253402300800000000 := by decide
  have hday : dayLength = 86400000000 := by decide
  omega

theorem Moment.milliseconds_eq {t : Moment} {zone : Zone} (hzone : t.zone = some zone) {m : Int}
    (hm : t.local_ - zone.ahead t.local_ = 1000 * m) :
    t.milliseconds = .ok (truncate (nearest (nearest ((m : Rat) / 1000) * 1000))) := by
  have hseconds : ((t.local_ - zone.ahead t.local_ : Int) : Rat) / secondLength = m / 1000 := by
    rw [hm, secondLength]
    push_cast
    ring
  rw [milliseconds, seconds, hzone]
  dsimp only
  rw [hseconds]
  rfl

/-- There is a cutoff wherever there is a moment. -/
theorem exists_cutoff_eq {now earlier : Moment} {zone : Zone} (hzone : now.zone = some zone)
    {age : Span} (hminus : now.minus age = .ok earlier) : ∃ limit, cutoff now age = .ok limit := by
  obtain ⟨rfl, _⟩ := Moment.minus_eq_ok hminus
  rw [cutoff, hminus]
  exact ⟨_, by simp only [bind, Except.bind, Moment.milliseconds, Moment.seconds, hzone]; rfl⟩

/-- The moment that is an age before another is in a known zone, and just so many milliseconds from
    the epoch. -/
def Reaches (now : Moment) (age : Span) (m : Int) : Prop :=
  ∃ earlier zone, now.minus age = .ok earlier ∧ earlier.zone = some zone
    ∧ earlier.local_ - zone.ahead earlier.local_ = 1000 * m

theorem Reaches.cutoff_eq {now : Moment} {age : Span} {m : Int} (h : Reaches now age m) :
    cutoff now age = .ok (if Slips m.natAbs then m - m.sign else m) := by
  obtain ⟨earlier, zone, hminus, hzone, hm⟩ := h
  obtain ⟨_, hleast, hgreatest⟩ := Moment.minus_eq_ok hminus
  have hmilliseconds := Moment.milliseconds_eq hzone hm
  rw [truncate_thousandth (Moment.natAbs_lt hleast hgreatest zone hm)] at hmilliseconds
  rw [cutoff, hminus]
  exact hmilliseconds

/-- Whole seconds of the epoch do not slip. -/
theorem Reaches.cutoff_eq_of_dvd {now : Moment} {age : Span} {m : Int} (h : Reaches now age m)
    (hdvd : 1000 ∣ m) : cutoff now age = .ok m := by
  have hnat : 1000 ∣ m.natAbs := Int.natCast_dvd.1 hdvd
  rw [h.cutoff_eq, if_neg (not_slips_of_dvd hnat)]

/-! ## Pruning -/

/-- Take out the edges that are stale at a cutoff, and tell the cutoff. -/
def pruneUpTo (account : String) (limit : Int) : Action Deployment Int := do
  remove account (.stale limit)
  return limit

theorem pruneOlderThan_eq {now : Moment} {age : Span} {limit : Int}
    (h : cutoff now age = .ok limit) (account : String) :
    pruneOlderThan account now age = pruneUpTo account limit := by
  rw [pruneOlderThan, h]
  rfl

/-- A backend in memory prunes the store on its shelf, and tells the cutoff. -/
theorem ends_pruneUpTo {d : Deployment} {serial : Nat} {shelf : Shelf}
    (hd : d.active = some ⟨serial, .memory shelf⟩) (account : String) (limit : Int) :
    (pruneUpTo account limit).Ends d (.ok limit)
      (d.setStore shelf ((d.store shelf).remove account (Removal.stale limit).takes)) := by
  have hremove := (Graph.ends_remove_inMemory account (.stale limit) (d.store shelf)).within
    (Deployment.store · shelf) (Deployment.setStore shelf)
  have hlogged : (remove account (.stale limit)).Ends d (.ok ()) _ :=
    (Mail.ends_graph hd account).bind (hremove.bind (Action.Ends.note _ _))
  exact hlogged.bind (Action.Ends.pure limit _)

/-- Two prunings that are the same have the same cutoff. -/
theorem pruneUpTo_injective (account : String) : Function.Injective (pruneUpTo account) := by
  intro limit limit' h
  let d : Deployment := { active := some ⟨0, .memory .shared⟩ }
  have hanswer := (ends_pruneUpTo (d := d) rfl account limit).outcome.1
  rw [h, (ends_pruneUpTo (d := d) rfl account limit').outcome.1] at hanswer
  exact (Except.ok.inj hanswer).symm

/-- Where the age reaches back to a whole millisecond, pruning by age is pruning up to just that
    millisecond if it does not slip, and never else. If it does, the cutoff is the next millisecond
    towards the epoch. -/
theorem pruneOlderThan_iff {now : Moment} {age : Span} {m : Int} (h : Reaches now age m)
    (account : String) :
    (pruneOlderThan account now age = pruneUpTo account m ↔ ¬Slips m.natAbs)
      ∧ (Slips m.natAbs → pruneOlderThan account now age = pruneUpTo account (m - m.sign)) := by
  have hprune := pruneOlderThan_eq h.cutoff_eq account
  by_cases hslips : Slips m.natAbs
  · rw [if_pos hslips] at hprune
    refine ⟨iff_of_false (fun heq => ?_) (not_not_intro hslips), fun _ => hprune⟩
    have hlimit := pruneUpTo_injective account (hprune.symm.trans heq)
    have hsign : m.sign = 0 := by omega
    rw [Int.sign_eq_zero_iff_zero.1 hsign] at hslips
    exact absurd hslips (by decide)
  · rw [if_neg hslips] at hprune
    exact ⟨iff_of_true hprune hslips, fun hslips' => absurd hslips' hslips⟩

/-- Universal time. -/
def universal : Zone := ⟨fun _ => 0, fun _ => by decide⟩

/-- A month before a moment of the year 2025. -/
theorem pruneOlderThan_iff_month :
    pruneOlderThan "x" ⟨1735689600123000, some universal⟩ ⟨30 * dayLength⟩
      = pruneUpTo "x" 1733097600123 :=
  (pruneOlderThan_iff ⟨_, universal, rfl, rfl, by decide⟩ "x").1.2 (by decide)

/-- No time at all before a millisecond past the first second. -/
theorem not_pruneOlderThan_exact :
    ¬∀ (now : Moment) (age : Span) (m : Int), Reaches now age m →
      ∀ account, pruneOlderThan account now age = pruneUpTo account m := by
  intro h
  have hreaches : Reaches ⟨1001000, some universal⟩ ⟨0⟩ 1001 :=
    ⟨_, universal, rfl, rfl, by decide⟩
  have hexact := h _ _ _ hreaches "x"
  rw [pruneOlderThan_eq hreaches.cutoff_eq] at hexact
  exact absurd (pruneUpTo_injective "x" hexact) (by decide)

end Rapport.Upkeep
