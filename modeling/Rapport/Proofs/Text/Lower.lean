import Rapport.Text.Lower

set_option autoImplicit false

/-! # Lower case has no capitals

A text that is in lower case stays as it is when it is lower-cased again (`lower_lower`), so a name
can be looked up by the form in which it is kept. That is a property of the table of capitals: the
lower case of a capital is no capital itself. As the table lists stretches of capitals, two of them
are compared at a time: the lower case of one stretch lies before the other, behind it, or in the
gaps between its capitals (`CaseRun.misses`). -/

namespace Rapport.Text

/-! ## Stretches of capitals -/

namespace CaseRun

/-- Where the lower case of code point `n` of the run lies. -/
def image (r : CaseRun) (n : Nat) : Nat := ((n : Int) + r.offset).toNat

/-- The lower case of every capital of the run is a character. -/
def Lands (r : CaseRun) : Prop :=
  0 < (r.first : Int) + r.offset
    ∧ (r.image r.last < 0xD800 ∨ (0xDFFF < r.image r.first ∧ r.image r.last < 0x110000))

instance (r : CaseRun) : Decidable r.Lands := inferInstanceAs (Decidable (_ ∧ _))

/-- Whether no capital of `q` is the lower case of one of `r`. -/
def misses (r q : CaseRun) : Bool :=
  (r.image r.last).blt q.first || q.last.blt (r.image r.first)
    || ((r.image r.first + q.first) % 2 == 1 && q.step == 2 && (r.step == 2 || r.first == r.last))

theorem misses_iff {r q : CaseRun} :
    r.misses q = true ↔ r.image r.last < q.first ∨ q.last < r.image r.first
      ∨ ((r.image r.first + q.first) % 2 = 1 ∧ q.step = 2 ∧ (r.step = 2 ∨ r.first = r.last)) := by
  simp [misses, Nat.blt_eq, or_assoc, and_assoc]

theorem covers_iff {r : CaseRun} {n : Nat} :
    r.covers n = true ↔ r.first ≤ n ∧ n ≤ r.last ∧ (n - r.first) % r.step = 0 := by
  simp [covers, and_assoc]

theorem not_covers_image {r q : CaseRun} (hlands : r.Lands) (hmisses : r.misses q = true) {n : Nat}
    (hn : r.covers n = true) : q.covers (r.image n) = false := by
  obtain ⟨hfirst, hlast, hstep⟩ := covers_iff.1 hn
  have hpos := hlands.1
  rw [← Bool.not_eq_true, covers_iff]
  rintro ⟨hge, hle, hgrid⟩
  rcases misses_iff.1 hmisses with hbefore | hbehind | ⟨hodd, hq, hr⟩
  · unfold image at *
    omega
  · unfold image at *
    omega
  · -- Both stretches go in steps of two, and they start from numbers of different parity.
    rw [hq] at hgrid
    have heven : (n - r.first) % 2 = 0 := by
      rcases hr with hr | hr
      · rwa [hr] at hstep
      · have : n - r.first = 0 := by omega
        rw [this]
    unfold image at *
    omega

theorem toNat_lower {r : CaseRun} (hlands : r.Lands) {n : Nat} (hn : r.covers n = true) :
    (r.lower n).toNat = r.image n := by
  obtain ⟨hfirst, hlast, _⟩ := covers_iff.1 hn
  have hvalid : (r.image n).isValidChar := by
    obtain ⟨hpos, hrange⟩ := hlands
    unfold Nat.isValidChar image at *
    omega
  show (Char.ofNat (r.image n)).toNat = r.image n
  rw [Char.ofNat, dif_pos hvalid]
  rfl

end CaseRun

/-! ## Characters -/

/-- The dotted capital I, a stretch of its own: its lower case is not one character. -/
def dotted : CaseRun := ⟨0x130, 0x130, 1, 0⟩

theorem lands_of_mem : ∀ r ∈ caseRuns, r.Lands := by decide +kernel

theorem all_misses :
    (caseRuns.all fun r => (dotted :: caseRuns).all r.misses) = true := by decide +kernel

/-- The character is no capital. -/
def IsSmall (c : Char) : Prop := ∀ q ∈ dotted :: caseRuns, q.covers c.toNat = false

instance (c : Char) : Decidable (IsSmall c) := inferInstanceAs (Decidable (∀ _ ∈ _, _))

/-- No capital has another capital for its lower case. -/
theorem isSmall_lowerLetter {c : Char} (hc : c ≠ 'İ') : IsSmall (lowerLetter c) := by
  unfold lowerLetter
  cases hfind : caseRuns.find? (·.covers c.toNat) with
  | some r =>
    have hr : r ∈ caseRuns := List.mem_of_find?_eq_some hfind
    have hcovers : r.covers c.toNat = true := by simpa using List.find?_some hfind
    intro q hq
    show q.covers (r.lower c.toNat).toNat = false
    rw [CaseRun.toNat_lower (lands_of_mem r hr) hcovers]
    have hmisses : r.misses q = true := List.all_eq_true.1 (List.all_eq_true.1 all_misses r hr) q hq
    exact CaseRun.not_covers_image (lands_of_mem r hr) hmisses hcovers
  | none =>
    intro q hq
    rcases List.mem_cons.1 hq with rfl | hq
    · rw [← Bool.not_eq_true, CaseRun.covers_iff]
      rintro ⟨hge, hle, _⟩
      have hcode : c.toNat = 'İ'.toNat := Nat.le_antisymm hle hge
      exact hc (Char.toNat_inj.1 hcode)
    · exact Bool.eq_false_iff.2 (List.find?_eq_none.1 hfind q hq)

theorem IsSmall.lowerLetter_eq {c : Char} (hc : IsSmall c) : lowerLetter c = c := by
  have hfind : caseRuns.find? (·.covers c.toNat) = none :=
    List.find?_eq_none.2 fun q hq => Bool.eq_false_iff.1 (hc q (List.mem_cons_of_mem _ hq))
  rw [lowerLetter, hfind]

/-! ## Texts -/

theorem isSmall_of_mem_lowerFrom {cs : List Char} :
    ∀ {inWord : Bool}, ∀ c ∈ lowerFrom inWord cs, IsSmall c := by
  induction cs with
  | nil => simp [lowerFrom]
  | cons d rest ih =>
    intro inWord c hc
    rw [lowerFrom] at hc
    by_cases hsigma : d = 'Σ'
    · rw [if_pos hsigma] at hc
      rcases List.mem_cons.1 hc with rfl | hc
      · split <;> decide +kernel
      · exact ih c hc
    · rw [if_neg hsigma] at hc
      by_cases hdotted : d = 'İ'
      · rw [if_pos hdotted] at hc
        rcases List.mem_cons.1 hc with rfl | hc
        · decide +kernel
        · rcases List.mem_cons.1 hc with rfl | hc
          · decide +kernel
          · exact ih c hc
      · rw [if_neg hdotted] at hc
        rcases List.mem_cons.1 hc with rfl | hc
        · exact isSmall_lowerLetter hdotted
        · exact ih c hc

theorem lowerFrom_eq_self {cs : List Char} (hcs : ∀ c ∈ cs, IsSmall c) (inWord : Bool) :
    lowerFrom inWord cs = cs := by
  induction cs generalizing inWord with
  | nil => rfl
  | cons c rest ih =>
    have hc : IsSmall c := hcs c List.mem_cons_self
    have hsigma : c ≠ 'Σ' := by
      rintro rfl
      exact absurd hc (by decide +kernel)
    have hdotted : c ≠ 'İ' := by
      rintro rfl
      exact absurd hc (by decide +kernel)
    rw [lowerFrom, if_neg hsigma, if_neg hdotted, hc.lowerLetter_eq,
      ih fun d hd => hcs d (List.mem_cons_of_mem _ hd)]

/-- Lower-casing a second time changes nothing. -/
theorem lower_lower (s : String) : lower (lower s) = lower s := by
  unfold lower
  rw [String.toList_ofList, lowerFrom_eq_self fun c hc => isSmall_of_mem_lowerFrom c hc]

end Rapport.Text
