import Mathlib.Data.List.Induction
import Rapport.Proofs.Numeral.Rounding
import Rapport.Sql.Amount

set_option autoImplicit false

/-! # Sums in a database

A database adds up integers exactly as long as every sum on the way has 64 bits. The first sum that
has not is taken in doubles, of which only every 2048th integer is one. `value_total_eq_iff` puts
both together: up to there a total is exact if it has 64 bits, or is a multiple of 2048, and never
else. -/

namespace Rapport.Sql.Amount

open Numeral

/-! ## Integers as doubles -/

theorem toDouble_neg (n : Int) : toDouble (-n) = -toDouble n := by
  obtain ⟨m, hm⟩ := exists_nearest_intCast n
  unfold toDouble
  rw [Int.cast_neg, nearest_neg, hm, ← Int.cast_neg, Rat.floor_intCast, Rat.floor_intCast]

theorem toDouble_of_lt {n : Int} (hn : 0 ≤ n) (h : n < 2 ^ 53) : toDouble n = n := by
  lift n to Nat using hn
  have hlt : n < 2 ^ 53 := by exact_mod_cast h
  unfold toDouble
  rw [Int.cast_natCast, nearest_of_lt hlt, ← Int.cast_natCast, Rat.floor_intCast]

theorem toDouble_eq {n : Int} (e : Nat) (hle : 2 ^ (52 + e) ≤ n) (hlt : n < 2 ^ (53 + e)) :
    toDouble n = nearestMultiple (2 ^ e) n := by
  have hn : 0 ≤ n := le_trans (by positivity) hle
  lift n to Nat using hn
  have hle' : 2 ^ (52 + e) ≤ n := by exact_mod_cast hle
  have hlt' : n < 2 ^ (53 + e) := by exact_mod_cast hlt
  unfold toDouble
  rw [Int.cast_natCast, nearest_of_le hle' hlt', Rat.floor_intCast]
  push_cast
  rfl

/-- Between `2 ^ 62` and `2 ^ 63` every 1024th integer is a double. -/
theorem toDouble_eq_1024 {n : Int} (hle : 2 ^ 62 ≤ n) (hlt : n < 2 ^ 63) :
    toDouble n = nearestMultiple 1024 n := toDouble_eq 10 hle hlt

/-- Between `2 ^ 63` and `2 ^ 64` every 2048th integer is a double. -/
theorem toDouble_eq_2048 {n : Int} (hle : 2 ^ 63 ≤ n) (hlt : n < 2 ^ 64) :
    toDouble n = nearestMultiple 2048 n := toDouble_eq 11 hle hlt

/-- Below `2 ^ 62` at least every 512th integer is a double. -/
theorem toDouble_near {n : Int} (hn : 0 ≤ n) (hlt : n < 2 ^ 62) :
    n / 512 * 512 ≤ toDouble n ∧ n - 256 ≤ toDouble n ∧ toDouble n ≤ n + 256 := by
  by_cases hsmall : n < 2 ^ 53
  · rw [toDouble_of_lt hn hsmall]
    omega
  · lift n to Nat using hn
    obtain ⟨e, hle, hlt'⟩ := exists_size (n := n) (by omega)
    have hbound : 2 ^ (52 + e) < 2 ^ 62 := lt_of_le_of_lt hle (by exact_mod_cast hlt)
    have he : e ≤ 9 := by
      have hlog := (Nat.pow_lt_pow_iff_right (by omega)).1 hbound
      omega
    have hdvd : (2 : Int) ^ e ∣ 512 := pow_dvd_pow 2 he
    have hunit : (2 : Int) ^ e ≤ 512 := Int.le_of_dvd (by omega) hdvd
    have hbelow := div_mul_le_nearestMultiple (q := 2 ^ e) (by positivity) n
    have hmultiple := div_mul_le_div_mul (q := 2 ^ e) (by positivity) (by omega) hdvd n
    obtain ⟨k, hk, hlower, hupper, _⟩ := nearestMultiple_spec (q := 2 ^ e) (by positivity) n
    rw [toDouble_eq e (by exact_mod_cast hle) (by exact_mod_cast hlt')]
    omega

/-- An integer of up to 63 bits without its sign is rounded to a multiple of 1024, which is one of
    2048 if another would be as near, or is so small that little is lost. -/
theorem toDouble_cases {n : Int} (hn : 0 ≤ n) (hle : n ≤ 2 ^ 63) :
    1024 ∣ toDouble n ∧ n - 512 ≤ toDouble n ∧ toDouble n ≤ n + 512
        ∧ (2048 ∣ toDouble n ∨ n - 512 < toDouble n ∧ toDouble n < n + 512)
      ∨ n < 2 ^ 62 ∧ n / 512 * 512 ≤ toDouble n ∧ n - 256 ≤ toDouble n ∧ toDouble n ≤ n + 256 := by
  by_cases hsmall : n < 2 ^ 62
  · exact Or.inr ⟨hsmall, toDouble_near hn hsmall⟩
  · refine Or.inl ?_
    by_cases hlt : n < 2 ^ 63
    · rw [toDouble_eq_1024 (by omega) hlt]
      obtain ⟨k, hk, hlower, hupper, hties⟩ := nearestMultiple_spec (q := 1024) (by omega) n
      omega
    · have hn' : n = 2 ^ 63 := by omega
      rw [hn', toDouble_eq_2048 (by omega) (by omega)]
      decide

/-- Two integers whose sum takes more than 63 bits are added exactly in doubles just if the sum is a
    multiple of 2048. -/
theorem toDouble_add_eq_iff {m n : Int} (hm : 0 ≤ m) (hm' : m ≤ 2 ^ 63) (hn : 0 ≤ n)
    (hn' : n ≤ 2 ^ 63) (h : 2 ^ 63 ≤ m + n) :
    toDouble (toDouble m + toDouble n) = m + n ↔ 2048 ∣ m + n := by
  have hfirst := toDouble_cases hm hm'
  have hsecond := toDouble_cases hn hn'
  generalize toDouble m = x at *
  generalize toDouble n = y at *
  have hsum : 2 ^ 63 - 1024 ≤ x + y ∧ x + y ≤ 2 ^ 64 := by omega
  by_cases hlow : x + y < 2 ^ 63
  · -- Only a sum of just `2 ^ 63` can be rounded down this far and up again.
    rw [toDouble_eq_1024 (by omega) hlow]
    obtain ⟨k, hk, hlower, hupper, hties⟩ := nearestMultiple_spec (q := 1024) (by omega) (x + y)
    rw [hk]
    omega
  · by_cases hhigh : x + y < 2 ^ 64
    · -- Two ties that together make half of 2048 go in opposite directions.
      rw [toDouble_eq_2048 (by omega) hhigh]
      obtain ⟨k, hk, hlower, hupper, hties⟩ :=
        nearestMultiple_spec (q := 2048) (by omega) (x + y)
      rw [hk]
      omega
    · have htop : x + y = 2 ^ 64 := by omega
      have hexact : toDouble (2 ^ 64) = 2 ^ 64 := toDouble_eq 12 (by omega) (by omega)
      rw [htop, hexact]
      omega

/-! ## Sums -/

theorem holds_iff {n : Int} : Word64.holds n = true ↔ -2 ^ 63 ≤ n ∧ n < 2 ^ 63 := by
  unfold Word64.holds Word64.least Word64.greatest
  rw [Bool.and_eq_true, decide_eq_true_eq, decide_eq_true_eq]
  omega

theorem value_stored (n : Int) : (stored n).value = n := by
  unfold stored
  split <;> rfl

theorem add_of_holds {m n : Int} (h : Word64.holds (m + n) = true) :
    (whole m).add n = whole (m + n) := if_pos h

/-- Two integers of 64 bits are added exactly if their sum has 64 bits or is a multiple of 2048, and
    never else. -/
theorem value_add_eq_iff {m n : Int} (hm : Word64.holds m = true) (hn : Word64.holds n = true) :
    ((whole m).add n).value = m + n ↔ Word64.holds (m + n) = true ∨ 2048 ∣ m + n := by
  by_cases hfits : Word64.holds (m + n) = true
  · rw [add_of_holds hfits]
    exact iff_of_true rfl (Or.inl hfits)
  · have hadd : ((whole m).add n).value = toDouble (toDouble m + toDouble n) := by
      show (if Word64.holds (m + n) = true then _ else _ : Amount).value = _
      rw [if_neg hfits, value_stored]
    rw [hadd, or_iff_right hfits]
    rw [holds_iff] at hm hn hfits
    by_cases hsum : 0 ≤ m + n
    · exact toDouble_add_eq_iff (by omega) (by omega) (by omega) (by omega) (by omega)
    · have hneg : toDouble (toDouble (-m) + toDouble (-n)) = -m + -n ↔ 2048 ∣ -m + -n :=
        toDouble_add_eq_iff (by omega) (by omega) (by omega) (by omega) (by omega)
      rw [toDouble_neg, toDouble_neg, ← neg_add, toDouble_neg, ← neg_add, neg_inj,
        Int.dvd_neg] at hneg
      exact hneg

/-- What integers come to that are added one after the other to a row without weight. -/
def total (amounts : List Int) : Amount := amounts.foldl add (.whole 0)

theorem total_concat (amounts : List Int) (n : Int) :
    total (amounts ++ [n]) = (total amounts).add n := by
  rw [total, total, List.foldl_append]
  rfl

/-- A total is exact if every sum on the way has 64 bits. -/
theorem total_eq {amounts : List Int}
    (h : ∀ count ≤ amounts.length, Word64.holds (amounts.take count).sum = true) :
    total amounts = .whole amounts.sum := by
  induction amounts using List.reverseRecOn with
  | nil => rfl
  | append_singleton init n ih =>
    have hinit : total init = .whole init.sum := by
      refine ih fun count hcount => ?_
      rw [← List.take_append_of_le_length hcount]
      exact h count (by rw [List.length_append]; omega)
    have hsum := h (init ++ [n]).length le_rfl
    rw [List.take_length, List.sum_append, List.sum_singleton] at hsum
    rw [total_concat, hinit, add_of_holds hsum, List.sum_append, List.sum_singleton]

/-- As long as no sum before the last has more than 64 bits, a total is exact if the last has no
    more or is a multiple of 2048, and never else. -/
theorem value_total_eq_iff {amounts : List Int} (hamounts : ∀ n ∈ amounts, Word64.holds n = true)
    (hearlier : ∀ count < amounts.length, Word64.holds (amounts.take count).sum = true) :
    (total amounts).value = amounts.sum
      ↔ Word64.holds amounts.sum = true ∨ 2048 ∣ amounts.sum := by
  rcases List.eq_nil_or_concat amounts with rfl | ⟨init, n, rfl⟩
  · exact iff_of_true rfl (Or.inl rfl)
  · rw [List.concat_eq_append] at *
    have hprefix : ∀ count ≤ init.length, Word64.holds (init.take count).sum = true := by
      intro count hcount
      rw [← List.take_append_of_le_length hcount]
      exact hearlier count (by rw [List.length_append, List.length_singleton]; omega)
    have hsum := hprefix init.length le_rfl
    rw [List.take_length] at hsum
    have hn : Word64.holds n = true := hamounts n (by simp)
    rw [total_concat, total_eq hprefix, List.sum_append, List.sum_singleton]
    exact value_add_eq_iff hsum hn

end Rapport.Sql.Amount
