import SeriesGateway.Binary64.Shortest
import SeriesGateway.Proofs.Binary64.Nearest
import SeriesGateway.Proofs.Text.Numeral

namespace SeriesGateway.Binary64

theorem ten_zpow_le_iff {r : ℚ} (hr : 0 < r) (k : Int) : 10 ^ k ≤ r ↔ k ≤ Int.log 10 r :=
  Int.zpow_le_iff_le_log (by norm_num) hr

theorem lt_ten_zpow_iff {r : ℚ} (hr : 0 < r) (k : Int) : r < 10 ^ k ↔ Int.log 10 r < k :=
  Int.lt_zpow_iff_log_lt (by norm_num) hr

theorem two_pow_lt_ten_pow : (2 : ℚ) ^ 1025 < 10 ^ 310 ∧ (2 : ℚ) ^ 1075 < 10 ^ 330 := by
  constructor
  · calc (2 : ℚ) ^ 1025 = (2 ^ 205) ^ 5 := by rw [← pow_mul]
      _ < (10 ^ 62) ^ 5 := by
        gcongr
        norm_num
      _ = 10 ^ 310 := by rw [← pow_mul]
  · calc (2 : ℚ) ^ 1075 = (2 ^ 215) ^ 5 := by rw [← pow_mul]
      _ < (10 ^ 66) ^ 5 := by
        gcongr
        norm_num
      _ = 10 ^ 330 := by rw [← pow_mul]

/-- The number that a decimal is. -/
def Decimal.value (d : Decimal) : ℚ :=
  d.coefficient * 10 ^ d.exponent

theorem pow_mul_le_text {n : Nat} (hn : n ≠ 0) : 10 ^ (Numeral.text n).length ≤ 10 * n := by
  have hlength : 0 < (Numeral.text n).length := List.length_pos_of_ne_nil (Numeral.text_ne_nil n)
  rcases Nat.lt_or_ge 1 (Numeral.text n).length with hlong | hshort
  · obtain ⟨k, hk⟩ : ∃ k, (Numeral.text n).length = k + 2 := ⟨_, (Nat.sub_add_cancel hlong).symm⟩
    have hfull := (Numeral.length_text_le_iff n k).not.1 (by omega)
    rw [hk, Nat.pow_succ]
    omega
  · have hone : (Numeral.text n).length = 1 := by omega
    rw [hone]
    omega

theorem lt_pow_length_text (n : Nat) : n < 10 ^ (Numeral.text n).length := by
  have hlength : 0 < (Numeral.text n).length := List.length_pos_of_ne_nil (Numeral.text_ne_nil n)
  obtain ⟨k, hk⟩ : ∃ k, (Numeral.text n).length = k + 1 := ⟨_, (Nat.sub_add_cancel hlength).symm⟩
  rw [hk]
  exact (Numeral.length_text_le_iff n k).1 hk.le

/-- The number of digits before the point. -/
theorem length_add_exponent_eq_log {c : Nat} (hc : c ≠ 0) (e : Int) :
    ((Numeral.text c).length : Int) + e = Int.log 10 ((c : ℚ) * 10 ^ e) + 1 := by
  have hunit : (0 : ℚ) < 10 ^ e := zpow_pos (by norm_num) e
  have hpos : (0 : ℚ) < (c : ℚ) * 10 ^ e :=
    mul_pos (by exact_mod_cast Nat.pos_of_ne_zero hc) hunit
  have hupper : Int.log 10 ((c : ℚ) * 10 ^ e) < (Numeral.text c).length + e := by
    rw [← lt_ten_zpow_iff hpos, zpow_add₀ (by norm_num), mul_lt_mul_iff_left₀ hunit]
    exact_mod_cast lt_pow_length_text c
  have hlower : ((Numeral.text c).length : Int) + e - 1 ≤ Int.log 10 ((c : ℚ) * 10 ^ e) := by
    rw [← ten_zpow_le_iff hpos, zpow_sub₀ (by norm_num), zpow_add₀ (by norm_num), zpow_one,
      div_le_iff₀ (by norm_num), mul_right_comm, mul_le_mul_iff_left₀ hunit, mul_comm]
    exact_mod_cast pow_mul_le_text hc
  omega

namespace Magnitude

/-- Within the range a decimal is rounded as the quotient that it is. -/
theorem ofDecimal_eq_nearest {c : Nat} (hc : c ≠ 0) {e : Int}
    (hlow : -330 ≤ Int.log 10 ((c : ℚ) * 10 ^ e)) (hhigh : Int.log 10 ((c : ℚ) * 10 ^ e) < 310) :
    ofDecimal c e = nearest (c * 10 ^ e.toNat) (10 ^ (-e).toNat) := by
  have horder := length_add_exponent_eq_log hc e
  rw [Numeral.text] at horder
  simp only [ofDecimal, horder, Nat.pow_eq]
  rw [if_neg (by omega), if_neg (by omega)]

/-- Zeros behind a coefficient change nothing. -/
theorem ofDecimal_mul_pow (c k : Nat) (e : Int) :
    ofDecimal (c * 10 ^ k) (e - k) = ofDecimal c e := by
  by_cases hc : c = 0
  · simp [ofDecimal, hc]
  have hvalue : ((c * 10 ^ k : Nat) : ℚ) * 10 ^ (e - k) = c * 10 ^ e := by
    rw [zpow_sub₀ (by norm_num), zpow_natCast]
    push_cast
    field_simp
  have hck : c * 10 ^ k ≠ 0 := mul_ne_zero hc (pow_ne_zero k (by norm_num))
  have horder := length_add_exponent_eq_log hck (e - k)
  rw [hvalue, ← length_add_exponent_eq_log hc, Numeral.text, Numeral.text] at horder
  simp only [ofDecimal, horder, Nat.pow_eq, hc, hck, false_or]
  congr 2
  apply nearest_congr (by positivity) (by positivity)
  have hsplit : k + (e - k).toNat + (-e).toNat = e.toNat + (-(e - k)).toNat := by omega
  rw [mul_assoc, mul_assoc, mul_assoc, ← pow_add, ← pow_add, ← pow_add, ← add_assoc, hsplit]

variable {m : Magnitude}

theorem one_le_significand (hm : m ≠ zero) : 1 ≤ m.significand := by
  obtain ⟨hbits, -, -, hnormal⟩ := m.fields
  by_contra hzero
  have hsignificand : m.significand = 0 := by omega
  have hpower : m.power = -1074 := hnormal.resolve_right (by omega)
  apply hm
  apply eq_of_bits
  rw [hbits, hsignificand, hpower]
  rfl

theorem value_pos (hm : m ≠ zero) : 0 < m.value :=
  mul_pos (by exact_mod_cast one_le_significand hm) (zpow_pos two_pos _)

theorem value_lt_unit (m : Magnitude) : m.value < 2 ^ 53 * 2 ^ m.power := by
  apply mul_lt_mul_of_pos_right _ (zpow_pos two_pos _)
  exact_mod_cast m.fields.significand_lt

/-- Nothing but zero lies below the least unit. -/
theorem ten_zpow_lt_value (hm : m ≠ zero) : 2 * (10 : ℚ) ^ (-330 : Int) < m.value := by
  calc 2 * (10 : ℚ) ^ (-330 : Int) = 2 * (10 ^ 330)⁻¹ := by rw [zpow_neg, zpow_ofNat]
    _ < 2 * (2 ^ 1075)⁻¹ := by
        gcongr
        exact two_pow_lt_ten_pow.2
    _ = 2 ^ (-1074 : Int) := by
        rw [zpow_neg, zpow_ofNat, pow_succ, mul_inv, mul_left_comm, mul_inv_cancel₀ two_ne_zero,
          mul_one]
    _ ≤ 2 ^ m.power := zpow_le_zpow_right₀ one_le_two m.fields.power_le
    _ ≤ m.significand * 2 ^ m.power := by
        apply le_mul_of_one_le_left (zpow_pos two_pos _).le
        exact_mod_cast one_le_significand hm

theorem value_lt_ten_zpow (hfinite : m.isFinite = true) : 2 * m.value < 10 ^ (310 : Int) := by
  have hpower : m.power ≤ 971 := by
    obtain ⟨hbits, -, -, hnormal⟩ := m.fields
    simp only [isFinite, infiniteBits, significands_eq, decide_eq_true_eq] at hfinite
    rw [significands_eq] at hbits
    omega
  calc 2 * m.value ≤ 2 * (2 ^ 53 * 2 ^ m.power) := by
        gcongr
        exact m.value_lt_unit.le
    _ ≤ 2 * (2 ^ 53 * 2 ^ (971 : Int)) := by
        gcongr
        exact one_le_two
    _ = 2 ^ 1025 := by rw [zpow_ofNat, ← pow_add, ← pow_succ']
    _ < 10 ^ (310 : Int) := by
        rw [zpow_ofNat]
        exact two_pow_lt_ten_pow.1

/-- The exponent from which digits are counted is at most ten times too great. -/
theorem ten_zpow_decimalOrder_le (hm : m ≠ zero) : (10 : ℚ) ^ (m.decimalOrder - 2) ≤ m.value := by
  have hdenominator : (0 : ℚ) < m.denominator := by exact_mod_cast m.denominator_pos
  have hpos := value_pos hm
  rw [← numerator_div_denominator] at hpos ⊢
  have hnumerator : (0 : ℚ) < m.numerator := (div_pos_iff_of_pos_right hdenominator).1 hpos
  rw [decimalOrder]
  split_ifs with hone
  · -- a value from one on is at least its floor, which has that many digits
    have hfloor : m.numerator / m.denominator ≠ 0 := (Nat.div_pos hone m.denominator_pos).ne'
    have hdigits := pow_mul_le_text hfloor
    rw [Numeral.text] at hdigits
    set length := (Nat.toDigits 10 (m.numerator / m.denominator)).length
    calc (10 : ℚ) ^ ((length : Int) - 2) ≤ 10 ^ ((length : Int) - 1) := by
          exact zpow_le_zpow_right₀ (by norm_num) (by omega)
      _ = 10 ^ length / 10 := by rw [zpow_sub_one₀ (by norm_num), zpow_natCast, div_eq_mul_inv]
      _ ≤ (m.numerator / m.denominator : Nat) := by
          rw [div_le_iff₀ (by norm_num), mul_comm]
          exact_mod_cast hdigits
      _ ≤ (m.numerator : ℚ) / m.denominator := Nat.cast_div_le
  · -- a value below one is above the inverse of a power that its inverse does not reach
    have hdigits := lt_pow_length_text (m.denominator / m.numerator)
    rw [Numeral.text] at hdigits
    set length := (Nat.toDigits 10 (m.denominator / m.numerator)).length
    have hinverse : (m.denominator : ℚ) / m.numerator < 10 ^ length := by
      rw [div_lt_iff₀ hnumerator]
      have := Nat.lt_mul_of_div_lt hdigits (by exact_mod_cast hnumerator)
      exact_mod_cast this
    have hexponent : (2 : Int) - length - 2 = -(length : Int) := by ring
    rw [hexponent, zpow_neg, zpow_natCast, inv_le_comm₀ (by positivity) hpos, inv_div]
    exact hinverse.le

/-- The neighbour of a magnitude on the grid of twenty digits. -/
def finest (m : Magnitude) : Decimal :=
  let exponent := m.decimalOrder - 19
  ⟨roundQuotient (m.numerator * Nat.pow 10 (-exponent).toNat)
    (m.denominator * Nat.pow 10 exponent.toNat), exponent⟩

theorem abs_value_finest_sub_le (m : Magnitude) :
    |m.finest.value - m.value| ≤ 10 ^ (m.decimalOrder - 19) / 2 := by
  have hten : (0 : ℚ) < 10 ^ (m.decimalOrder - 19) := zpow_pos (by norm_num) _
  have hpos : 0 < m.denominator * 10 ^ (m.decimalOrder - 19).toNat :=
    Nat.mul_pos m.denominator_pos (by positivity)
  have hround := abs_roundQuotient_sub_le (n := m.numerator * 10 ^ (-(m.decimalOrder - 19)).toNat) hpos
  have hquotient : ((m.numerator * 10 ^ (-(m.decimalOrder - 19)).toNat : Nat) : ℚ) /
      (m.denominator * 10 ^ (m.decimalOrder - 19).toNat : Nat) =
      m.value / 10 ^ (m.decimalOrder - 19) := by
    rw [← numerator_div_denominator, zpow_eq_div (by norm_num), div_div_div_eq]
    push_cast
    rfl
  rw [hquotient] at hround
  have hscale : m.finest.value - m.value =
      (m.finest.coefficient - m.value / 10 ^ (m.decimalOrder - 19)) *
        10 ^ (m.decimalOrder - 19) := by
    rw [sub_mul, div_mul_cancel₀ _ hten.ne']
    rfl
  have hbound := mul_le_mul_of_nonneg_right hround hten.le
  rw [one_div, inv_mul_eq_div] at hbound
  rw [hscale, abs_mul, abs_of_pos hten]
  exact hbound

/-- Twenty digits are enough for every magnitude. -/
theorem magnitude_finest (hfinite : m.isFinite = true) (hm : m ≠ zero) :
    m.finest.magnitude = m := by
  have hvalue := value_pos hm
  have hclose := abs_value_finest_sub_le m
  have hgrid : (10 : ℚ) ^ (m.decimalOrder - 19) * 10 ^ 17 ≤ m.value := by
    calc (10 : ℚ) ^ (m.decimalOrder - 19) * 10 ^ 17 = 10 ^ (m.decimalOrder - 2) := by
          rw [← zpow_natCast, ← zpow_add₀ (by norm_num)]
          congr 1
          push_cast
          ring
      _ ≤ m.value := ten_zpow_decimalOrder_le hm
  have hten : (0 : ℚ) < 10 ^ (m.decimalOrder - 19) := zpow_pos (by norm_num) _
  have hunit := m.value_lt_unit
  obtain ⟨hbelow, habove⟩ := abs_le.1 hclose
  have hhalf : m.value / 2 ≤ m.finest.value := by linarith
  have htwice : m.finest.value ≤ 2 * m.value := by linarith
  have hpos : 0 < m.finest.value := by linarith
  have hcoefficient : m.finest.coefficient ≠ 0 := by
    intro hzero
    rw [Decimal.value, hzero] at hpos
    simp at hpos
  have hlow : -330 ≤ Int.log 10 m.finest.value := by
    rw [← ten_zpow_le_iff hpos]
    have hleast := ten_zpow_lt_value hm
    linarith
  have hhigh : Int.log 10 m.finest.value < 310 := by
    rw [← lt_ten_zpow_iff hpos]
    exact lt_of_le_of_lt htwice (value_lt_ten_zpow hfinite)
  rw [Decimal.magnitude, ofDecimal_eq_nearest hcoefficient hlow hhigh]
  apply nearest_of_close m (mul_ne_zero hcoefficient (by positivity)) (by positivity)
  have hquotient : ((m.finest.coefficient * 10 ^ m.finest.exponent.toNat : Nat) : ℚ) /
      (10 ^ (-m.finest.exponent).toNat : Nat) = m.finest.value := by
    rw [Decimal.value, zpow_eq_div (by norm_num)]
    push_cast
    ring
  rw [hquotient]
  refine lt_of_le_of_lt hclose ?_
  linarith

theorem finest_mem_grids (m : Magnitude) :
    m.finest ∈ ((List.range 20).map fun (digits : Nat) => m.decimalOrder - digits).flatMap
      m.neighbours := by
  refine List.mem_flatMap.2 ⟨m.decimalOrder - 19, List.mem_map.2 ⟨19, by simp, rfl⟩, ?_⟩
  exact List.mem_cons_self

/-- The shortest decimal of a finite magnitude reads back as it. -/
theorem magnitude_shortest (hfinite : m.isFinite = true) : m.shortest.magnitude = m := by
  by_cases hm : m = zero
  · subst hm
    decide +kernel
  · have hsome : ((((List.range 20).map fun (digits : Nat) => m.decimalOrder - digits).flatMap
        m.neighbours).find? fun d => d.magnitude = m).isSome = true :=
      List.find?_isSome.2 ⟨_, m.finest_mem_grids, decide_eq_true (magnitude_finest hfinite hm)⟩
    obtain ⟨d, hd⟩ := Option.isSome_iff_exists.1 hsome
    have hmagnitude := List.find?_some hd
    simp only [shortest, hd, Option.getD_some]
    exact of_decide_eq_true hmagnitude

end Magnitude

end SeriesGateway.Binary64
