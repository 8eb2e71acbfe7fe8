import Mathlib.Data.Nat.Log
import Mathlib.Data.Rat.Floor
import Mathlib.Tactic.FieldSimp
import Mathlib.Tactic.Linarith
import Rapport.Numeral.Binary64

set_option autoImplicit false

/-! # Integers as doubles

The double nearest to an integer is a multiple of a power of two, which grows with the size of the
integer. `nearestMultiple` rounds integers to multiples by integer division alone, and
`nearest_of_lt` and `nearest_of_le` say that this is what taking an integer as a double comes to. -/

namespace Rapport.Numeral

/-- The multiple of `q` nearest to an integer; of two equally near that by the even factor. -/
def nearestMultiple (q n : Int) : Int :=
  if 2 * (n % q) < q then n / q * q
  else if q < 2 * (n % q) then (n / q + 1) * q
  else if n / q % 2 = 0 then n / q * q
  else (n / q + 1) * q

/-- What is rounded to a multiple is no more than half of `q` away from it, and just half only if the
    factor is even. -/
theorem nearestMultiple_spec {q : Int} (hq : 0 < q) (n : Int) :
    ∃ k, nearestMultiple q n = k * q ∧ 2 * (n - k * q) ≤ q ∧ 2 * (k * q - n) ≤ q
      ∧ (2 * (n - k * q) = q ∨ 2 * (k * q - n) = q → k % 2 = 0) := by
  have hsplit : n / q * q + n % q = n := Int.ediv_mul_add_emod n q
  have hnonneg : 0 ≤ n % q := Int.emod_nonneg n hq.ne'
  have hlt : n % q < q := Int.emod_lt_of_pos n hq
  have hnext : (n / q + 1) * q = n / q * q + q := by ring
  unfold nearestMultiple
  split
  · exact ⟨n / q, rfl, by omega, by omega, by omega⟩
  · split
    · exact ⟨n / q + 1, rfl, by omega, by omega, by omega⟩
    · split
      · exact ⟨n / q, rfl, by omega, by omega, by omega⟩
      · exact ⟨n / q + 1, rfl, by omega, by omega, by omega⟩

theorem div_mul_le_nearestMultiple {q : Int} (hq : 0 < q) (n : Int) :
    n / q * q ≤ nearestMultiple q n := by
  have hnext : (n / q + 1) * q = n / q * q + q := by ring
  unfold nearestMultiple
  rw [hnext]
  split_ifs <;> omega

/-- The multiples of `d` are among those of its divisors. -/
theorem div_mul_le_div_mul {q d : Int} (hq : 0 < q) (hd : d ≠ 0) (h : q ∣ d) (n : Int) :
    n / d * d ≤ n / q * q := by
  obtain ⟨k, rfl⟩ := h
  have hle : n / (q * k) * (q * k) ≤ n := Int.ediv_mul_le n hd
  have hassoc : n / (q * k) * (q * k) = n / (q * k) * k * q := by ring
  rw [hassoc] at hle ⊢
  exact Int.mul_le_mul_of_nonneg_right ((Int.le_ediv_iff_mul_le hq).2 hle) hq.le

/-! ## Rounding integers -/

theorem floor_div (q : Nat) (n : Int) : ((n : Rat) / (q : Rat)).floor = n / (q : Int) :=
  Rat.floor_intCast_div_natCast n q

/-- What is left of an integer when its multiples of `q` are taken away. -/
theorem div_sub_floor {q : Nat} (hq : 0 < q) (n : Int) :
    (n : Rat) / (q : Rat) - ((n / (q : Int) : Int) : Rat) = ((n % (q : Int) : Int) : Rat) / q := by
  have hq' : (q : Rat) ≠ 0 := by positivity
  have hsplit : ((q : Int) : Rat) * ((n / (q : Int) : Int) : Rat) + ((n % (q : Int) : Int) : Rat)
      = (n : Rat) := by
    rw [← Int.cast_mul, ← Int.cast_add, Int.mul_ediv_add_emod]
  rw [Int.cast_natCast] at hsplit
  rw [← hsplit]
  field_simp
  ring

theorem roundEven_div {q : Nat} (hq : 0 < q) (n : Int) :
    roundEven ((n : Rat) / (q : Rat)) * (q : Int) = nearestMultiple q n := by
  have hq' : (0 : Rat) < q := by exact_mod_cast hq
  have hbelow : ((n % (q : Int) : Int) : Rat) / q < 1 / 2 ↔ 2 * (n % (q : Int)) < q := by
    rw [div_lt_div_iff₀ hq' two_pos]
    constructor
    · intro h
      have h' : n % (q : Int) * 2 < 1 * (q : Int) := by exact_mod_cast h
      omega
    · intro h
      have h' : n % (q : Int) * 2 < 1 * (q : Int) := by omega
      exact_mod_cast h'
  have habove : 1 / 2 < ((n % (q : Int) : Int) : Rat) / q ↔ (q : Int) < 2 * (n % (q : Int)) := by
    rw [div_lt_div_iff₀ two_pos hq']
    constructor
    · intro h
      have h' : 1 * (q : Int) < n % (q : Int) * 2 := by exact_mod_cast h
      omega
    · intro h
      have h' : 1 * (q : Int) < n % (q : Int) * 2 := by omega
      exact_mod_cast h'
  unfold roundEven nearestMultiple
  simp only [floor_div, div_sub_floor hq, hbelow, habove]
  split
  · rfl
  · split
    · rfl
    · split
      · rfl
      · rfl

/-! ## The size of a number -/

theorem two_zpow_lt_iff {a b : Int} : (2 : Rat) ^ a < (2 : Rat) ^ b ↔ a < b :=
  zpow_lt_zpow_iff_right₀ one_lt_two

theorem two_zpow_log2_le {n : Nat} (hn : n ≠ 0) : (2 : Rat) ^ (n.log2 : Int) ≤ n := by
  rw [zpow_natCast]
  exact_mod_cast Nat.log2_self_le hn

theorem lt_two_zpow_log2 (n : Nat) : (n : Rat) < (2 : Rat) ^ (n.log2 + 1 : Int) := by
  exact_mod_cast Nat.lt_log2_self

/-- The exponent of a number is known by the powers of two around the number. -/
theorem floorLog2_eq {x : Rat} {e : Int} (hle : (2 : Rat) ^ e ≤ x) (hlt : x < (2 : Rat) ^ (e + 1)) :
    floorLog2 x = e := by
  have hx : 0 < x := (zpow_pos two_pos e).trans_le hle
  obtain ⟨n, hnum⟩ : ∃ n : Nat, x.num = n := Int.eq_ofNat_of_zero_le (Rat.num_pos.2 hx).le
  have hn : n ≠ 0 := by
    rintro rfl
    exact (Rat.num_pos.2 hx).ne' hnum
  have hd : (0 : Rat) < x.den := by exact_mod_cast x.pos
  have hproduct : x * x.den = n := by
    rw [Rat.mul_den_eq_num, hnum, Int.cast_natCast]
  -- The quotient of the leading bits is the exponent, or one more.
  have habove : e < (n.log2 : Int) - x.den.log2 + 1 := by
    have hbits : (2 : Rat) ^ (e + x.den.log2) < (2 : Rat) ^ (n.log2 + 1 : Int) := by
      calc (2 : Rat) ^ (e + x.den.log2) = (2 : Rat) ^ e * (2 : Rat) ^ (x.den.log2 : Int) :=
            zpow_add₀ two_ne_zero _ _
        _ ≤ x * x.den := mul_le_mul hle (two_zpow_log2_le x.den_nz) (zpow_pos two_pos _).le hx.le
        _ = n := hproduct
        _ < (2 : Rat) ^ (n.log2 + 1 : Int) := lt_two_zpow_log2 n
    have hexponents := two_zpow_lt_iff.1 hbits
    omega
  have hbelow : (n.log2 : Int) - x.den.log2 < e + 2 := by
    have hbits : (2 : Rat) ^ (n.log2 : Int) < (2 : Rat) ^ (e + 1 + (x.den.log2 + 1)) := by
      calc (2 : Rat) ^ (n.log2 : Int) ≤ n := two_zpow_log2_le hn
        _ = x * x.den := hproduct.symm
        _ < (2 : Rat) ^ (e + 1) * (2 : Rat) ^ (x.den.log2 + 1 : Int) :=
            mul_lt_mul'' hlt (lt_two_zpow_log2 x.den) hx.le hd.le
        _ = (2 : Rat) ^ (e + 1 + (x.den.log2 + 1)) := (zpow_add₀ two_ne_zero _ _).symm
    have hexponents := two_zpow_lt_iff.1 hbits
    omega
  unfold floorLog2
  rw [hnum, Int.toNat_natCast]
  dsimp only
  split
  · next hguess =>
    have hexponents := two_zpow_lt_iff.1 (hguess.trans_lt hlt)
    omega
  · next hguess =>
    have hexponents := two_zpow_lt_iff.1 (hle.trans_lt (not_le.1 hguess))
    omega

/-- A quotient by an integer and a power of two is rounded as its numerator is to multiples of the
    integer, where these have 53 bits of their own. -/
theorem nearest_div_zpow {n q : Nat} {j : Int} (hq : 0 < q) (hle : 2 ^ 52 * q ≤ n)
    (hlt : n < 2 ^ 53 * q) (hj : j ≤ 1074) :
    nearest ((n : Rat) / q / (2 : Rat) ^ j)
      = ((nearestMultiple q n : Int) : Rat) / q / (2 : Rat) ^ j := by
  have hq' : (0 : Rat) < q := by exact_mod_cast hq
  have hj' : (0 : Rat) < (2 : Rat) ^ j := zpow_pos two_pos j
  have hlower : (2 : Rat) ^ (52 - j) ≤ (n : Rat) / q / (2 : Rat) ^ j := by
    rw [zpow_sub₀ two_ne_zero]
    gcongr
    rw [le_div_iff₀ hq']
    exact_mod_cast hle
  have hupper : (n : Rat) / q / (2 : Rat) ^ j < (2 : Rat) ^ (52 - j + 1) := by
    rw [show 52 - j + 1 = 53 - j by ring, zpow_sub₀ two_ne_zero]
    gcongr
    rw [div_lt_iff₀ hq']
    exact_mod_cast hlt
  have hpos : 0 < (n : Rat) / q / (2 : Rat) ^ j := (zpow_pos two_pos _).trans_le hlower
  have hlast : lastBit ((n : Rat) / q / (2 : Rat) ^ j) = -j := by
    unfold lastBit
    rw [floorLog2_eq hlower hupper]
    omega
  have hround : (roundEven ((n : Rat) / q) : Rat) = ((nearestMultiple q n : Int) : Rat) / q := by
    rw [eq_div_iff hq'.ne', ← roundEven_div hq]
    push_cast
    rfl
  unfold nearest
  rw [if_neg hpos.ne', if_neg hpos.le.not_gt, hlast, roundAt, zpow_neg, div_inv_eq_mul,
    div_mul_cancel₀ _ hj'.ne', hround, ← div_eq_mul_inv]

/-- An integer is scaled to `s + 1` bits. -/
theorem scaled_bounds {n j s : Nat} (hn : n ≠ 0) (hs : n.log2 + j = s) :
    2 ^ s ≤ n * 2 ^ j ∧ n * 2 ^ j < 2 ^ (s + 1) := by
  subst hs
  constructor
  · rw [pow_add]
    exact Nat.mul_le_mul_right _ (Nat.log2_self_le hn)
  · rw [Nat.add_right_comm, pow_add]
    exact Nat.mul_lt_mul_of_pos_right Nat.lt_log2_self (by positivity)

theorem nearestMultiple_one (n : Int) : nearestMultiple 1 n = n := by
  simp [nearestMultiple]

/-- An integer of at most 53 bits is a double. -/
theorem nearest_of_lt {n : Nat} (h : n < 2 ^ 53) : nearest (n : Rat) = n := by
  by_cases hn : n = 0
  · subst hn
    rfl
  · have hlog : n.log2 < 53 := (Nat.log2_lt hn).2 h
    obtain ⟨j, hj⟩ : ∃ j, n.log2 + j = 52 := ⟨52 - n.log2, by omega⟩
    obtain ⟨hle, hlt⟩ := scaled_bounds hn hj
    -- Scaled to 53 bits, it is rounded to a multiple of one.
    have hround := nearest_div_zpow (j := j) one_pos (by omega) (by omega) (by omega)
    have hcancel : ((n * 2 ^ j : Nat) : Rat) / (1 : Nat) / (2 : Rat) ^ (j : Int) = n := by
      rw [zpow_natCast]
      push_cast
      field_simp
    have hwhole : nearestMultiple (1 : Nat) (n * 2 ^ j : Nat) = (n * 2 ^ j : Nat) :=
      nearestMultiple_one _
    rw [hwhole, Int.cast_natCast, hcancel] at hround
    exact hround

/-- An integer of more bits is rounded to a multiple of the power of two that its size leaves. -/
theorem nearest_of_le {n e : Nat} (hle : 2 ^ (52 + e) ≤ n) (hlt : n < 2 ^ (53 + e)) :
    nearest (n : Rat) = (nearestMultiple (2 ^ e : Nat) n : Int) := by
  rw [pow_add] at hle hlt
  have hround := nearest_div_zpow (j := -(e : Int)) (by positivity) hle hlt (by omega)
  have hcancel (x : Rat) : x / (2 ^ e : Nat) / (2 : Rat) ^ (-(e : Int)) = x := by
    rw [zpow_neg, zpow_natCast]
    push_cast
    field_simp
  rwa [hcancel, hcancel] at hround

theorem nearest_neg (x : Rat) : nearest (-x) = -nearest x := by
  unfold nearest
  rcases lt_trichotomy x 0 with hx | hx | hx
  · rw [if_neg (neg_ne_zero.2 hx.ne), if_neg (by linarith), if_neg hx.ne, if_pos hx, neg_neg]
  · simp [hx]
  · rw [if_neg (neg_ne_zero.2 hx.ne'), if_pos (by linarith), if_neg hx.ne', if_neg hx.le.not_gt,
      neg_neg]

/-- The size of an integer with more than 53 bits. -/
theorem exists_size {n : Nat} (h : 2 ^ 53 ≤ n) : ∃ e, 2 ^ (52 + e) ≤ n ∧ n < 2 ^ (53 + e) := by
  have hn : n ≠ 0 := by omega
  have hlog : 53 ≤ n.log2 := (Nat.le_log2 hn).2 h
  refine ⟨n.log2 - 52, (Nat.le_log2 hn).1 (by omega), (Nat.log2_lt hn).1 (by omega)⟩

theorem exists_nearest_natCast (n : Nat) : ∃ m : Int, nearest (n : Rat) = m := by
  by_cases h : n < 2 ^ 53
  · exact ⟨n, by rw [nearest_of_lt h, Int.cast_natCast]⟩
  · obtain ⟨e, hle, hlt⟩ := exists_size (not_lt.1 h)
    exact ⟨_, nearest_of_le hle hlt⟩

/-- A double that is nearest to an integer has no fraction. -/
theorem exists_nearest_intCast (n : Int) : ∃ m : Int, nearest (n : Rat) = m := by
  obtain ⟨k, rfl | rfl⟩ := n.eq_nat_or_neg
  · rw [Int.cast_natCast]
    exact exists_nearest_natCast k
  · obtain ⟨m, hm⟩ := exists_nearest_natCast k
    refine ⟨-m, ?_⟩
    rw [Int.cast_neg, Int.cast_natCast, nearest_neg, hm, Int.cast_neg]

end Rapport.Numeral
