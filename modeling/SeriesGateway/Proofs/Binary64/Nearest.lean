import SeriesGateway.Proofs.Binary64.Exact

namespace SeriesGateway.Binary64

variable {n d : Nat}

theorem roundQuotient_mul_left {k : Nat} (hk : 0 < k) (n d : Nat) :
    roundQuotient (k * n) (k * d) = roundQuotient n d := by
  have htwice : 2 * (k * (n % d)) = k * (2 * (n % d)) := by ring
  simp only [roundQuotient, Nat.mul_div_mul_left _ _ hk, Nat.mul_mod_mul_left, htwice,
    Nat.mul_lt_mul_left hk]

/-- Equal quotients are rounded alike. -/
theorem roundQuotient_congr {a b : Nat} (hd : 0 < d) (hb : 0 < b) (h : n * b = a * d) :
    roundQuotient n d = roundQuotient a b := by
  rw [← roundQuotient_mul_left hb n d, ← roundQuotient_mul_left hd a b, mul_comm b n, h,
    mul_comm a d, mul_comm b d]

theorem abs_roundQuotient_sub_le (hd : 0 < d) : |(roundQuotient n d : ℚ) - n / d| ≤ 1 / 2 := by
  have hpos : (0 : ℚ) < d := by exact_mod_cast hd
  have hsplit : (n : ℚ) / d = (n / d : Nat) + (n % d : Nat) / (d : ℚ) := by
    rw [eq_comm, add_div' _ _ _ hpos.ne']
    congr 1
    exact_mod_cast Nat.div_add_mod' n d
  have hrest : ((n % d : Nat) : ℚ) / d < 1 := by
    rw [div_lt_one hpos]
    exact_mod_cast Nat.mod_lt n hd
  have hnonneg : (0 : ℚ) ≤ ((n % d : Nat) : ℚ) / d := by positivity
  rw [hsplit, roundQuotient, abs_le]
  split_ifs with hbelow habove
  · have hhalf : ((n % d : Nat) : ℚ) / d < 1 / 2 := by
      rw [div_lt_iff₀ hpos]
      have : (2 * (n % d : Nat) : ℚ) < d := by exact_mod_cast hbelow
      linarith
    constructor <;> linarith
  · have hhalf : 1 / 2 < ((n % d : Nat) : ℚ) / d := by
      rw [lt_div_iff₀ hpos]
      have : (d : ℚ) < 2 * (n % d : Nat) := by exact_mod_cast habove
      linarith
    push_cast
    constructor <;> linarith
  · -- a tie: both neighbours are half a unit away
    have hhalf : ((n % d : Nat) : ℚ) / d = 1 / 2 := by
      rw [div_eq_iff hpos.ne']
      have : (2 * (n % d : Nat) : ℚ) = d := by exact_mod_cast (by omega : 2 * (n % d) = d)
      linarith
    rw [hhalf]
    rcases Nat.mod_two_eq_zero_or_one (n / d) with hparity | hparity <;> rw [hparity] <;>
      push_cast <;> constructor <;> linarith

/-- The only integer less than half a unit away is the nearest one. -/
theorem roundQuotient_eq {s : Nat} (hd : 0 < d) (h : |(n : ℚ) / d - s| < 1 / 2) :
    roundQuotient n d = s := by
  have hnear := abs_roundQuotient_sub_le (n := n) hd
  rw [abs_le] at hnear
  rw [abs_lt] at h
  have hbelow : (roundQuotient n d : ℚ) < s + 1 := by linarith [hnear.2, h.2]
  have habove : (s : ℚ) < roundQuotient n d + 1 := by linarith [hnear.1, h.1]
  have hbelow' : roundQuotient n d < s + 1 := by exact_mod_cast hbelow
  have habove' : s < roundQuotient n d + 1 := by exact_mod_cast habove
  omega

theorem zpow_eq_div {b : ℚ} (hb : b ≠ 0) (p : Int) : b ^ p = b ^ p.toNat / b ^ (-p).toNat := by
  rw [← zpow_natCast, ← zpow_natCast, ← zpow_sub₀ hb]
  congr 1
  omega

theorem cast_shiftLeft_div (n d : Nat) (p : Int) :
    ((n <<< (-p).toNat : Nat) : ℚ) / (d <<< p.toNat : Nat) = n / d / 2 ^ p := by
  rw [Nat.shiftLeft_eq, Nat.shiftLeft_eq, zpow_eq_div two_ne_zero, div_div_div_eq]
  push_cast
  rfl

theorem two_zpow_le_iff {r : ℚ} (hr : 0 < r) (k : Int) : 2 ^ k ≤ r ↔ k ≤ Int.log 2 r :=
  Int.zpow_le_iff_le_log Nat.one_lt_two hr

theorem lt_two_zpow_iff {r : ℚ} (hr : 0 < r) (k : Int) : r < 2 ^ k ↔ Int.log 2 r < k :=
  Int.lt_zpow_iff_log_lt Nat.one_lt_two hr

namespace Magnitude

theorem eq_of_bits {a b : Magnitude} (h : a.bits = b.bits) : a = b := by
  cases a
  cases b
  cases h
  rfl

theorem binaryOrder_eq_log (hn : n ≠ 0) (hd : d ≠ 0) :
    binaryOrder n d = Int.log 2 ((n : ℚ) / d) := by
  have hnpos : (0 : ℚ) < n := by exact_mod_cast Nat.pos_of_ne_zero hn
  have hdpos : (0 : ℚ) < d := by exact_mod_cast Nat.pos_of_ne_zero hd
  have hpos : (0 : ℚ) < n / d := div_pos hnpos hdpos
  have hnlow : (2 : ℚ) ^ (n.log2 : Int) ≤ n := by exact_mod_cast Nat.log2_self_le hn
  have hnhigh : (n : ℚ) < 2 ^ ((n.log2 : Int) + 1) := by exact_mod_cast Nat.lt_log2_self
  have hdlow : (2 : ℚ) ^ (d.log2 : Int) ≤ d := by exact_mod_cast Nat.log2_self_le hd
  have hdhigh : (d : ℚ) < 2 ^ ((d.log2 : Int) + 1) := by exact_mod_cast Nat.lt_log2_self
  have hupper : (n : ℚ) / d < 2 ^ ((n.log2 : Int) - d.log2 + 1) := by
    rw [div_lt_iff₀ hdpos]
    calc (n : ℚ) < 2 ^ ((n.log2 : Int) + 1) := hnhigh
      _ = 2 ^ ((n.log2 : Int) - d.log2 + 1) * 2 ^ (d.log2 : Int) := by
        rw [← zpow_add₀ two_ne_zero]
        congr 1
        ring
      _ ≤ 2 ^ ((n.log2 : Int) - d.log2 + 1) * d := by gcongr
  have hlower : (2 : ℚ) ^ ((n.log2 : Int) - d.log2 - 1) ≤ n / d := by
    rw [le_div_iff₀ hdpos]
    calc (2 : ℚ) ^ ((n.log2 : Int) - d.log2 - 1) * d
        ≤ 2 ^ ((n.log2 : Int) - d.log2 - 1) * 2 ^ ((d.log2 : Int) + 1) := by gcongr
      _ = 2 ^ (n.log2 : Int) := by
        rw [← zpow_add₀ two_ne_zero]
        congr 1
        ring
      _ ≤ n := hnlow
  rw [lt_two_zpow_iff hpos] at hupper
  rw [two_zpow_le_iff hpos] at hlower
  -- what is left open is on which side of the guessed power the quotient lies
  have htest (g : Int) : n <<< (-g).toNat < d <<< g.toNat ↔ Int.log 2 ((n : ℚ) / d) < g := by
    have hscaled : (0 : ℚ) < (d <<< g.toNat : Nat) := by
      rw [Nat.shiftLeft_eq]
      exact_mod_cast Nat.mul_pos (Nat.pos_of_ne_zero hd) (Nat.two_pow_pos _)
    have hpower : (0 : ℚ) < 2 ^ g := zpow_pos two_pos g
    rw [← lt_two_zpow_iff hpos, ← div_lt_one hpower, ← cast_shiftLeft_div, div_lt_one hscaled,
      Nat.cast_lt]
  rw [binaryOrder]
  simp only [htest]
  split_ifs <;> omega

/-- Only the value of a quotient counts for what it is rounded to. -/
theorem nearest_congr {a b : Nat} (hd : 0 < d) (hb : 0 < b) (h : n * b = a * d) :
    nearest n d = nearest a b := by
  by_cases hn : n = 0
  · have ha : a = 0 := by
      rw [hn, zero_mul, eq_comm] at h
      exact (Nat.mul_eq_zero.1 h).resolve_right hd.ne'
    simp only [nearest, hn, ha, if_true]
  · have ha : a ≠ 0 := by
      rintro rfl
      rw [zero_mul] at h
      exact (Nat.mul_eq_zero.1 h).elim hn hb.ne'
    have hvalue : (n : ℚ) / d = a / b := by
      rw [div_eq_div_iff (by exact_mod_cast hd.ne') (by exact_mod_cast hb.ne')]
      exact_mod_cast h
    have horder : binaryOrder n d = binaryOrder a b := by
      rw [binaryOrder_eq_log hn hd.ne', binaryOrder_eq_log ha hb.ne', hvalue]
    have hround (p : Int) : roundQuotient (n <<< (-p).toNat) (d <<< p.toNat) =
        roundQuotient (a <<< (-p).toNat) (b <<< p.toNat) := by
      simp only [Nat.shiftLeft_eq]
      apply roundQuotient_congr (by positivity) (by positivity)
      rw [mul_mul_mul_comm, h, mul_mul_mul_comm]
    simp only [nearest, if_neg hn, if_neg ha, horder, hround]

/-- The number that a finite magnitude is. -/
def value (m : Magnitude) : ℚ :=
  m.significand * 2 ^ m.power

theorem numerator_div_denominator (m : Magnitude) : (m.numerator : ℚ) / m.denominator = m.value := by
  rw [numerator, denominator, value, Nat.shiftLeft_eq, Nat.one_shiftLeft, zpow_eq_div two_ne_zero]
  push_cast
  ring

/-- How the bits of a finite magnitude tell its significand and its power. -/
structure Fields (m : Magnitude) : Prop where
  bits : m.bits = (m.power + 1074).toNat * significands + m.significand
  power_le : -1074 ≤ m.power
  significand_lt : m.significand < 2 ^ 53
  /-- Small significands go with the least power only. -/
  normal : m.power = -1074 ∨ 2 ^ 52 ≤ m.significand

theorem fields (m : Magnitude) : m.Fields := by
  by_cases hsmall : m.bits < significands
  · have hsignificand : m.significand = m.bits := if_pos hsmall
    have hpower : m.power = -1074 := if_pos hsmall
    rw [significands_eq] at hsmall
    exact ⟨by simp [hsignificand, hpower], hpower.ge, by omega, Or.inl hpower⟩
  · have hsignificand : m.significand = significands + m.bits % significands := if_neg hsmall
    have hpower : m.power = (m.bits / significands : Nat) - 1075 := if_neg hsmall
    rw [significands_eq] at hsmall hsignificand hpower
    refine ⟨?_, by omega, by omega, Or.inr (by omega)⟩
    rw [significands_eq]
    omega

/-- A quotient close to a magnitude is rounded to it. A quarter of a unit is close enough also
below a power of two, where magnitudes are twice as dense. -/
theorem nearest_of_close (m : Magnitude) (hn : n ≠ 0) (hd : d ≠ 0)
    (h : |(n : ℚ) / d - m.value| < 2 ^ m.power / 4) : nearest n d = m := by
  obtain ⟨hbits, hleast, hlt, hnormal⟩ := m.fields
  have hunit : (0 : ℚ) < 2 ^ m.power := zpow_pos two_pos _
  have hpos : (0 : ℚ) < n / d := by
    apply div_pos <;> exact_mod_cast Nat.pos_of_ne_zero ‹_›
  have hscaled : |(n : ℚ) / d / 2 ^ m.power - m.significand| < 1 / 4 := by
    have hdivide : (n : ℚ) / d / 2 ^ m.power - m.significand =
        (n / d - m.value) / 2 ^ m.power := by
      rw [value, sub_div, mul_div_cancel_right₀ _ hunit.ne']
    rw [hdivide, abs_div, abs_of_pos hunit, div_lt_iff₀ hunit]
    linarith
  set q : ℚ := (n : ℚ) / d / 2 ^ m.power with hq
  obtain ⟨hlow, hhigh⟩ := abs_lt.1 hscaled
  have hlog (k : Int) : (2 : ℚ) ^ k ≤ q ↔ k + m.power ≤ binaryOrder n d := by
    rw [binaryOrder_eq_log hn hd, ← two_zpow_le_iff hpos, hq, le_div_iff₀ hunit,
      zpow_add₀ two_ne_zero]
  have hbelow : ¬53 + m.power ≤ binaryOrder n d := by
    have hmost : (m.significand : ℚ) ≤ 2 ^ 53 - 1 := by
      rw [le_sub_iff_add_le]
      exact_mod_cast hlt
    rw [← hlog, not_le, zpow_ofNat]
    linarith
  have hround (p : Int) {s : Nat} (hs : |(n : ℚ) / d / 2 ^ p - s| < 1 / 2) :
      roundQuotient (n <<< (-p).toNat) (d <<< p.toNat) = s := by
    apply roundQuotient_eq
    · rw [Nat.shiftLeft_eq]
      exact Nat.mul_pos (Nat.pos_of_ne_zero hd) (Nat.two_pow_pos _)
    · rwa [cast_shiftLeft_div]
  apply eq_of_bits
  have hle := m.bits_le
  by_cases hplace : max (binaryOrder n d - 52) (-1074) = m.power
  · have hs := hround m.power (s := m.significand) (by rw [← hq, abs_lt]; constructor <;> linarith)
    simp only [nearest, if_neg hn, hplace, hs, ofBits, ← hbits]
    exact Nat.min_eq_left hle
  · -- the quotient lies below the power of two that the magnitude is
    have hnormal : 2 ^ 52 ≤ m.significand := hnormal.resolve_left (by omega)
    have hleast : (2 : ℚ) ^ 52 ≤ m.significand := by exact_mod_cast hnormal
    have hhalf : 51 + m.power ≤ binaryOrder n d := by
      rw [← hlog, zpow_ofNat]
      linarith
    have hbinade : ¬52 + m.power ≤ binaryOrder n d := by omega
    have hpower : m.significand = 2 ^ 52 := by
      rw [← hlog, not_le, zpow_ofNat] at hbinade
      have hmost : (m.significand : ℚ) < 2 ^ 52 + 1 := by linarith
      have hmost : m.significand < 2 ^ 52 + 1 := by exact_mod_cast hmost
      omega
    have hplace : max (binaryOrder n d - 52) (-1074) = m.power - 1 := by omega
    have hs := hround (m.power - 1) (s := 2 ^ 53) (by
      have hdouble : (n : ℚ) / d / 2 ^ (m.power - 1) = 2 * q := by
        rw [hq, zpow_sub_one₀ two_ne_zero]
        field_simp
      rw [hpower] at hlow hhigh
      rw [hdouble, abs_lt]
      push_cast at hlow hhigh ⊢
      constructor <;> linarith)
    simp only [nearest, if_neg hn, hplace, hs, ofBits]
    rw [significands_eq] at hbits ⊢
    omega

end Magnitude

end SeriesGateway.Binary64
