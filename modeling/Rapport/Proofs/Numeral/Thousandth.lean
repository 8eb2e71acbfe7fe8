import Rapport.Proofs.Numeral.Rounding

set_option autoImplicit false

/-! # Thousandths as doubles

An integer divided by a thousand, multiplied by a thousand again and cut off, each step in doubles.
Scaled by a power of two, the quotient rounds the integer to a multiple of 1000. The product rounds
that to a multiple of 1024, which gets the integer back, or of 512, which may fall short of it. The
latter is the case where the quotient is just above a power of two, so that its bits reach least
far.

What falls short loses a whole one when it is cut off. `Slips` tells for which integers that is so,
and `truncate_thousandth` what becomes of all with up to 48 bits. -/

namespace Rapport.Numeral

/-- Whether an integer loses one when it is divided and multiplied by a thousand: scaled to 62 bits
    it is no less than `1000 * 2 ^ 52`, and exceeds a multiple of 1000 by an amount that the
    quotient drops and the product does not make up for. -/
def Slips (n : Nat) : Prop :=
  1000 * 2 ^ n.log2 ≤ 512 * n
    ∧ 256 < n * 2 ^ (61 - n.log2) % 1000 ∧ n * 2 ^ (61 - n.log2) % 1000 < 500

instance (n : Nat) : Decidable (Slips n) := by
  unfold Slips
  infer_instance

/-- A multiple of 1000 loses nothing. -/
theorem not_slips_of_dvd {n : Nat} (h : 1000 ∣ n) : ¬Slips n := by
  rintro ⟨_, hlow, _⟩
  rw [Nat.mod_eq_zero_of_dvd (h.mul_right _)] at hlow
  omega

/-! ## Rounding twice -/

theorem nearestMultiple_1024_1000 {n : Int} (h : 1024 ∣ n) :
    nearestMultiple 1024 (nearestMultiple 1000 n) = n := by
  obtain ⟨k, hk, hlower, hupper, _⟩ := nearestMultiple_spec (q := 1000) (by omega) n
  obtain ⟨i, hi, hlower', hupper', _⟩ :=
    nearestMultiple_spec (q := 1024) (by omega) (nearestMultiple 1000 n)
  omega

/-- Rounded to a multiple of 512, an integer is missed from below just if the multiple of 1000 is
    below it by more than 256. -/
theorem nearestMultiple_512_1000 {n : Int} (h : 1024 ∣ n) :
    if 256 < n % 1000 ∧ n % 1000 < 500 then
      nearestMultiple 512 (nearestMultiple 1000 n) = n - 512
    else n ≤ nearestMultiple 512 (nearestMultiple 1000 n)
      ∧ nearestMultiple 512 (nearestMultiple 1000 n) ≤ n + 512 := by
  obtain ⟨k, hk, hlower, hupper, _⟩ := nearestMultiple_spec (q := 1000) (by omega) n
  obtain ⟨i, hi, hlower', hupper', htie⟩ :=
    nearestMultiple_spec (q := 512) (by omega) (nearestMultiple 1000 n)
  split
  · next hbelow =>
    have hquotient : k = n / 1000 := by omega
    omega
  · next hbelow =>
    have hquotient : k = n / 1000 ∧ n % 1000 ≤ 256 ∨ k = n / 1000 + 1 := by omega
    omega

/-- The product of a thousand with the quotient of an integer, scaled so that the quotient has 53
    bits before the point. -/
theorem nearest_thousandth {n j : Nat} (hle : 2 ^ 52 * 1000 ≤ n * 2 ^ j)
    (hlt : n * 2 ^ j < 2 ^ 53 * 1000) (hj : j ≤ 1074) :
    nearest ((n : Rat) / 1000) * 1000
      = ((nearestMultiple 1000 (n * 2 ^ j : Nat) : Int) : Rat) / 2 ^ j := by
  have hround := nearest_div_zpow (j := j) (by omega) hle hlt (by exact_mod_cast hj)
  have hscale : ((n * 2 ^ j : Nat) : Rat) / (1000 : Nat) / (2 : Rat) ^ (j : Int) = n / 1000 := by
    rw [zpow_natCast]
    push_cast
    field_simp
  rw [hscale] at hround
  rw [hround, zpow_natCast]
  push_cast
  field_simp

theorem nearest_div_two_pow {n : Int} {e j : Nat} (hle : 2 ^ 52 * 2 ^ e ≤ n)
    (hlt : n < 2 ^ 53 * 2 ^ e) (hj : j ≤ 1074) :
    nearest ((n : Rat) / 2 ^ j) = ((nearestMultiple (2 ^ e) n : Int) : Rat) / 2 ^ j := by
  have hn : 0 ≤ n := le_trans (by positivity) hle
  lift n to Nat using hn
  have hround := nearest_div_zpow (q := 2 ^ e) (j := (j : Int) - e) (by positivity)
    (by exact_mod_cast hle) (by exact_mod_cast hlt) (by omega)
  have hcancel (x : Rat) : x / (2 ^ e : Nat) / (2 : Rat) ^ ((j : Int) - e) = x / 2 ^ j := by
    rw [zpow_sub₀ two_ne_zero, zpow_natCast, zpow_natCast]
    push_cast
    field_simp
  rw [hcancel, hcancel] at hround
  simpa using hround

/-! ## Cutting off -/

theorem truncate_neg (x : Rat) : truncate (-x) = -truncate x := by
  unfold truncate
  rcases lt_trichotomy x 0 with hx | rfl | hx
  · rw [if_neg (by linarith), if_pos hx, neg_neg]
  · rfl
  · rw [if_pos (by linarith), if_neg hx.le.not_gt, neg_neg]

theorem truncate_div_two_pow {n : Int} (hn : 0 ≤ n) (j : Nat) :
    truncate ((n : Rat) / 2 ^ j) = n / 2 ^ j := by
  have hnonneg : 0 ≤ (n : Rat) / 2 ^ j := by
    have hn' : (0 : Rat) ≤ n := by exact_mod_cast hn
    positivity
  unfold truncate
  rw [if_neg hnonneg.not_gt]
  exact_mod_cast floor_div (2 ^ j) n

/-! ## All three steps -/

section

variable {n j : Nat}

/-- A multiple of a power of two is known from any integer between it and the next one. -/
theorem ediv_two_pow {m r : Int} (hr : 0 ≤ r) (hlt : r < 2 ^ j) : (m * 2 ^ j + r) / 2 ^ j = m := by
  rw [Int.mul_comm, Int.mul_add_ediv_left _ _ (by positivity), Int.ediv_eq_zero_of_lt hr hlt,
    Int.add_zero]

theorem dvd_scaled (hj : 10 ≤ j) : (1024 : Int) ∣ (n * 2 ^ j : Nat) := by
  have hdvd : (2 : Int) ^ 10 ∣ 2 ^ j := pow_dvd_pow 2 hj
  push_cast
  exact hdvd.mul_left _

/-- Where the product is a multiple of 1024, nothing is lost. -/
theorem truncate_of_1024 (hj : 10 ≤ j) (hj' : j ≤ 1074) (hle : 2 ^ 62 ≤ n * 2 ^ j)
    (hlt : n * 2 ^ j < 2 ^ 53 * 1000) :
    truncate (nearest (nearest ((n : Rat) / 1000) * 1000)) = n := by
  have hdvd := dvd_scaled (n := n) hj
  have hexact := nearestMultiple_1024_1000 hdvd
  obtain ⟨k, hk, hlower, hupper, _⟩ := nearestMultiple_spec (q := 1000) (by omega) (n * 2 ^ j : Nat)
  rw [nearest_thousandth (by omega) hlt hj',
    nearest_div_two_pow (e := 10) (by omega) (by omega) hj',
    show (2 : Int) ^ 10 = 1024 by norm_num, hexact, truncate_div_two_pow (by positivity)]
  push_cast
  exact Int.mul_ediv_cancel _ (by positivity)

/-- Where it is one of 512, one may be lost. -/
theorem truncate_of_512 (hj : 10 ≤ j) (hj' : j ≤ 1074) (hle : 2 ^ 52 * 1000 ≤ n * 2 ^ j)
    (hlt : n * 2 ^ j < 2 ^ 62) :
    truncate (nearest (nearest ((n : Rat) / 1000) * 1000))
      = if 256 < n * 2 ^ j % 1000 ∧ n * 2 ^ j % 1000 < 500 then (n : Int) - 1 else n := by
  have hdvd := dvd_scaled (n := n) hj
  have hproduct := nearestMultiple_512_1000 hdvd
  have hunit : (512 : Int) < 2 ^ j :=
    calc (512 : Int) < 2 ^ 10 := by norm_num
      _ ≤ 2 ^ j := pow_le_pow_right₀ (by norm_num) hj
  obtain ⟨k, hk, hlower, hupper, _⟩ := nearestMultiple_spec (q := 1000) (by omega) (n * 2 ^ j : Nat)
  rw [nearest_thousandth hle (by omega) hj',
    nearest_div_two_pow (e := 9) (by omega) (by omega) hj', show (2 : Int) ^ 9 = 512 by norm_num]
  have hscaled : ((n * 2 ^ j : Nat) : Int) = (n : Int) * 2 ^ j := by push_cast; rfl
  split
  · next hshort =>
    rw [if_pos (by omega)] at hproduct
    rw [hproduct, truncate_div_two_pow (by omega), hscaled,
      show (n : Int) * 2 ^ j - 512 = (n - 1) * 2 ^ j + (2 ^ j - 512) by ring]
    exact ediv_two_pow (by omega) (by omega)
  · next hreached =>
    rw [if_neg (by omega)] at hproduct
    obtain ⟨r, hr⟩ : ∃ r, nearestMultiple 512 (nearestMultiple 1000 ((n * 2 ^ j : Nat) : Int))
        = (n : Int) * 2 ^ j + r := ⟨_, (add_sub_cancel _ _).symm⟩
    rw [hr, truncate_div_two_pow (by omega)]
    exact ediv_two_pow (by omega) (by omega)

/-- Whether an integer is as large as that does not change when both are scaled. -/
theorem scaled_le_iff {s : Nat} (hs : n.log2 + j = s) :
    1000 * 2 ^ n.log2 ≤ 512 * n ↔ 1000 * 2 ^ s ≤ 512 * (n * 2 ^ j) := by
  have hpos : 0 < 2 ^ j := by positivity
  rw [← hs, pow_add, ← mul_assoc, ← mul_assoc, Nat.mul_le_mul_right_iff hpos]

theorem truncate_thousandth_natCast (h : n < 2 ^ 48) :
    truncate (nearest (nearest ((n : Rat) / 1000) * 1000))
      = if Slips n then (n : Int) - 1 else n := by
  by_cases hn : n = 0
  · subst hn
    decide +kernel
  · have hlog : n.log2 < 48 := (Nat.log2_lt hn).2 h
    by_cases hshort : 1000 * 2 ^ n.log2 ≤ 512 * n
    · have hbits : n.log2 + (61 - n.log2) = 61 := by omega
      obtain ⟨hle, hlt⟩ := scaled_bounds hn hbits
      have hscaled := (scaled_le_iff hbits).1 hshort
      rw [truncate_of_512 (j := 61 - n.log2) (by omega) (by omega) (by omega) (by omega)]
      exact if_congr (by rw [Slips, and_iff_right hshort]) rfl rfl
    · have hbits : n.log2 + (62 - n.log2) = 62 := by omega
      obtain ⟨hle, hlt⟩ := scaled_bounds hn hbits
      have hscaled := mt (scaled_le_iff hbits).2 hshort
      rw [truncate_of_1024 (j := 62 - n.log2) (by omega) (by omega) (by omega) (by omega),
        if_neg fun hslips => hshort hslips.1]

end

theorem Slips.sign_eq_one {n : Nat} (h : Slips n) : (n : Int).sign = 1 := by
  have hn : n ≠ 0 := by
    rintro rfl
    exact absurd h (by decide)
  exact Int.sign_natCast_of_ne_zero hn

/-- What becomes of an integer of up to 48 bits that is divided by a thousand, multiplied by a
    thousand again and cut off. -/
theorem truncate_thousandth {m : Int} (h : m.natAbs < 2 ^ 48) :
    truncate (nearest (nearest ((m : Rat) / 1000) * 1000))
      = if Slips m.natAbs then m - m.sign else m := by
  obtain ⟨n, rfl | rfl⟩ := m.eq_nat_or_neg
  · rw [Int.natAbs_natCast] at h ⊢
    rw [Int.cast_natCast, truncate_thousandth_natCast h]
    exact ite_congr rfl (fun hslips => by rw [hslips.sign_eq_one]) fun _ => rfl
  · rw [Int.natAbs_neg, Int.natAbs_natCast] at h ⊢
    rw [Int.cast_neg, Int.cast_natCast, neg_div, nearest_neg, neg_mul, nearest_neg, truncate_neg,
      truncate_thousandth_natCast h, Int.sign_neg]
    split
    · next hslips =>
      rw [hslips.sign_eq_one]
      ring
    · rfl

end Rapport.Numeral
