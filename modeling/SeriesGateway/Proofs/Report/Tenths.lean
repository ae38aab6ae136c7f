import SeriesGateway.Proofs.Binary64.Arithmetic
import SeriesGateway.Report.Figures

namespace SeriesGateway.Report

open Binary64 Binary64.Magnitude

variable {n rank : ℕ}

/-- The rank of the unit of which a number of bytes is one at least, and less than one of the
next. -/
structure IsRank (n rank : ℕ) : Prop where
  size_le : 1000 ^ rank ≤ n
  lt_next : n < 1000 ^ (rank + 1)

/-- With each rank the climb multiplies the size by 1000, as long as that is not too great. -/
theorem isRank_climbUnits {size : ℕ} (hsize : size = 1000 ^ rank) (h : size ≤ n) :
    ∃ top, climbUnits n size rank = (1000 ^ top, top) ∧ IsRank n top := by
  fun_induction climbUnits n size rank with
  | case1 size rank hstep ih =>
    have hle := (Nat.le_div_iff_mul_le hstep.1).1 hstep.2
    apply ih
    · rw [hsize, pow_succ]
    · rwa [mul_comm]
  | case2 size rank hlast =>
    have hpos : 0 < size := hsize ▸ Nat.pow_pos (by decide)
    have hlt : n / size < 1000 := by
      by_contra hge
      exact hlast ⟨hpos, not_lt.1 hge⟩
    refine ⟨rank, by rw [hsize], hsize ▸ h, ?_⟩
    rw [pow_succ', ← hsize]
    exact (Nat.div_lt_iff_lt_mul hpos).1 hlt

theorem climbUnits_one (h : 0 < n) :
    ∃ rank, climbUnits n 1 0 = (1000 ^ rank, rank) ∧ IsRank n rank :=
  isRank_climbUnits (pow_zero _).symm h

/-- A power of 1000 that fits in 64 bits is the sixth at most. -/
theorem le_six_of_pow_le (h : 1000 ^ rank ≤ n) (hn : n < 2 ^ 64) : rank ≤ 6 := by
  by_contra hgt
  have hpow : 1000 ^ 7 ≤ 1000 ^ rank := Nat.pow_le_pow_right (by decide) (by omega)
  omega

theorem IsRank.le_six (h : IsRank n rank) (hn : n < 2 ^ 64) : rank ≤ 6 :=
  le_six_of_pow_le h.size_le hn

theorem IsRank.one_le_div (h : IsRank n rank) : (1 : ℚ) ≤ n / 1000 ^ rank := by
  rw [le_div_iff₀ (by positivity), one_mul]
  exact_mod_cast h.size_le

theorem IsRank.div_lt (h : IsRank n rank) : (n : ℚ) / 1000 ^ rank < 1000 := by
  rw [div_lt_iff₀ (by positivity), ← pow_succ']
  exact_mod_cast h.lt_next

theorem value_thousand_pow (h : rank ≤ 6) : (ofNat (1000 ^ rank)).value = 1000 ^ rank := by
  have hodd : 125 ^ rank < 2 ^ 53 :=
    (Nat.pow_le_pow_right (by decide) h).trans_lt (by norm_num)
  have hsplit : ((1000 ^ rank : ℕ) : ℚ) = (125 ^ rank : ℕ) * 2 ^ ((3 * rank : ℕ) : ℤ) := by
    rw [zpow_natCast, pow_mul]
    push_cast
    rw [← mul_pow]
    norm_num
  have hpow : ((1000 ^ rank : ℕ) : ℚ) ≤ 2 ^ 64 := by
    have hle : 1000 ^ rank ≤ 2 ^ 64 :=
      (Nat.pow_le_pow_right (by decide) h).trans (by norm_num)
    exact_mod_cast hle
  have hone : (1 : ℚ) ≤ (1000 ^ rank : ℕ) := by exact_mod_cast Nat.one_le_pow _ _ (by decide)
  rw [ofNat_eq, value_toNearest_mul_zpow hodd hsplit (isNormal_of_le (by linarith) hpow)]
  push_cast
  rfl

theorem value_ten : (ofNat 10).value = 10 := by
  exact_mod_cast value_ofNat (n := 10) (by norm_num)

/-- The number of tenths of a unit, raised by a half: its floor is what is shown. -/
def raised (n size : ℕ) : Magnitude :=
  (((ofNat n).div (ofNat size)).mul (ofNat 10)).add (nearest 1 2)

/-- The number of tenths of a unit that is shown for a number of bytes. -/
def tenthsShown (n size : ℕ) : ℕ :=
  ⌊(raised n size).value⌋₊

theorem inTenths_eq (n size : ℕ) :
    inTenths n size = (ofNat (tenthsShown n size)).div (ofNat 10) := by
  rw [inTenths, floor_eq]
  rfl

theorem value_raised (h : rank ≤ 6) : (raised n (1000 ^ rank)).value =
    (toNearest ((toNearest ((toNearest ((ofNat n).value / 1000 ^ rank)).value * 10)).value +
      1 / 2)).value := by
  have hsize : 0 < (ofNat (1000 ^ rank)).value := by
    rw [value_thousand_pow h]
    positivity
  rw [raised, add_eq, mul_eq, div_eq _ hsize, value_thousand_pow h, value_ten, value_half]

/-- Four roundings, of which the first two count ten times, are off by `5 / 10 ^ 12` at most. -/
theorem abs_raised_sub_le (h : IsRank n rank) (hn : n < 2 ^ 64) :
    |(raised n (1000 ^ rank)).value - (10 * (n / 1000 ^ rank) + 1 / 2)| ≤ 5 / 10 ^ 12 := by
  have hlow := h.one_le_div
  have hhigh := h.div_lt
  have hpos : (0 : ℚ) < 1000 ^ rank := by positivity
  have hone : (1 : ℚ) ≤ n := by exact_mod_cast (Nat.one_le_pow _ _ (by decide)).trans h.size_le
  have hmost : (n : ℚ) ≤ 2 ^ 64 := by exact_mod_cast hn.le
  have hunits : |(ofNat n).value / 1000 ^ rank - n / 1000 ^ rank| ≤ 1000 / 2 ^ 53 := by
    have hround := abs_value_toNearest_sub_le (isNormal_of_le (by linarith) hmost)
    rw [← sub_div, abs_div, abs_of_pos hpos, ofNat_eq]
    calc |(toNearest n).value - n| / 1000 ^ rank ≤ n / 2 ^ 53 / 1000 ^ rank := by gcongr
      _ = n / 1000 ^ rank / 2 ^ 53 := div_right_comm _ _ _
      _ ≤ 1000 / 2 ^ 53 := by gcongr
  rw [value_raised (h.le_six hn)]
  set y : ℚ := n / 1000 ^ rank
  set units : ℚ := (ofNat n).value / 1000 ^ rank
  obtain ⟨hbelow, habove⟩ := abs_le.1 hunits
  have hquotient := abs_toNearest_sub_le 1001 (by norm_num) (by linarith) (by linarith) hunits
  set quotient : ℚ := (toNearest units).value
  have hscaled : |quotient * 10 - 10 * y| ≤ 10 * (1000 / 2 ^ 53 + 1001 / 2 ^ 53) := by
    rw [mul_comm quotient, ← mul_sub, abs_mul, abs_of_pos (by norm_num)]
    gcongr
  obtain ⟨hbelow, habove⟩ := abs_le.1 hscaled
  have hproduct := abs_toNearest_sub_le 10001 (by norm_num) (by linarith) (by linarith) hscaled
  set product : ℚ := (toNearest (quotient * 10)).value
  obtain ⟨hbelow, habove⟩ := abs_le.1 hproduct
  rw [← add_sub_add_right_eq_sub product (10 * y) (1 / 2)] at hproduct
  have hsum := abs_toNearest_sub_le 10002 (by norm_num) (by linarith) (by linarith) hproduct
  exact hsum.trans (by norm_num)

theorem tenthsShown_bounds (h : IsRank n rank) (hn : n < 2 ^ 64) :
    10 ≤ tenthsShown n (1000 ^ rank) ∧ tenthsShown n (1000 ^ rank) ≤ 10000 ∧
      |(tenthsShown n (1000 ^ rank) : ℚ) - 10 * (n / 1000 ^ rank)| ≤ 1 / 2 + 5 / 10 ^ 12 := by
  have hlow := h.one_le_div
  have hhigh := h.div_lt
  obtain ⟨hbelow, habove⟩ := abs_le.1 (abs_raised_sub_le h hn)
  obtain ⟨hle, hlt⟩ := (Nat.floor_eq_iff (by linarith)).1 (rfl : tenthsShown n (1000 ^ rank) = _)
  refine ⟨Nat.le_floor (by push_cast; linarith), ?_, abs_le.2 ⟨by linarith, by linarith⟩⟩
  have hcast : (tenthsShown n (1000 ^ rank) : ℚ) < 10001 := by linarith
  have hcast : tenthsShown n (1000 ^ rank) < 10001 := by exact_mod_cast hcast
  omega

/-- The middle of two tenths goes through the arithmetic unharmed. -/
theorem value_ten_mul_twentieth {j : ℕ} (hlow : 20 ≤ j) (hhigh : j ≤ 20000) :
    (toNearest ((toNearest (j / 20)).value * 10)).value = j / 2 := by
  have hj : (20 : ℚ) ≤ j := by exact_mod_cast hlow
  have hj' : (j : ℚ) ≤ 20000 := by exact_mod_cast hhigh
  obtain ⟨r, hr⟩ : ∃ r : ℚ, r = j / 20 := ⟨_, rfl⟩
  have hhalf : 10 * r = j / 2 := by
    rw [hr]
    ring
  have hnormal : IsNormal r := isNormal_of_le (by linarith) (by linarith)
  obtain ⟨hbelow, habove⟩ := abs_le.1 (abs_value_toNearest_sub_le hnormal)
  set product : ℚ := (toNearest r).value * 10 with hproduct
  have hlog {t : ℚ} (hpos : 0 < t) (hle : t ≤ 20000) : Int.log 2 t ≤ 50 := by
    have hlt := (lt_two_zpow_iff hpos 50).1 (hle.trans_lt (by norm_num))
    omega
  obtain ⟨k, hk⟩ := exists_half_eq_mul_unit (r := r) (hlog (by linarith) (by linarith)) j
  obtain ⟨l, hl⟩ := exists_half_eq_mul_unit (r := product) (hlog (by linarith) (by linarith)) j
  rw [← hr, ← hproduct, value_toNearest_mul_ten hnormal (isNormal_of_le (by linarith) (by linarith))
    (hhalf.trans hk) (hhalf.trans hl), hhalf]

theorem value_ofNat_of_twentieth {j : ℕ} (h : IsRank n rank) (hn : n < 2 ^ 64)
    (hj : (n : ℚ) / 1000 ^ rank = j / 20) : (ofNat n).value = n := by
  rcases lt_or_ge n (10 ^ 15) with hlt | hge
  · exact value_ofNat (by omega)
  · -- the unit is a multiple of a power of two, and so is the number of bytes
    have hcross : n * 20 = j * 1000 ^ rank := by
      rw [div_eq_div_iff (by positivity) (by norm_num)] at hj
      exact_mod_cast hj
    have hrank : 5 ≤ rank := by
      by_contra hfour
      have hpow : 1000 ^ (rank + 1) ≤ 1000 ^ 5 := Nat.pow_le_pow_right (by decide) (by omega)
      have hlt := h.lt_next
      omega
    obtain ⟨e, rfl⟩ : ∃ e, rank = 5 + e := ⟨rank - 5, by omega⟩
    have hmultiple : n = j * 5 ^ 14 * 1000 ^ e * 2 ^ 13 := by
      rw [pow_add] at hcross
      ring_nf at hcross ⊢
      omega
    rw [ofNat_eq]
    apply value_toNearest_mul_zpow (k := j * 5 ^ 14 * 1000 ^ e) (p := 13) (by omega)
    · rw [hmultiple]
      push_cast
      norm_num
    · have hlow : (1 : ℚ) ≤ n := by exact_mod_cast (by omega : 1 ≤ n)
      exact isNormal_of_le (by linarith) (by exact_mod_cast hn.le)

theorem tenthsShown_of_twentieth {j : ℕ} (h : IsRank n rank) (hn : n < 2 ^ 64) (hodd : Odd j)
    (hj : (n : ℚ) / 1000 ^ rank = j / 20) :
    tenthsShown n (1000 ^ rank) = ⌊10 * ((n : ℚ) / 1000 ^ rank) + 1 / 2⌋₊ := by
  obtain ⟨k, rfl⟩ := hodd
  have hlow := h.one_le_div
  have hhigh := h.div_lt
  have hleast : (20 : ℚ) ≤ (2 * k + 1 : ℕ) := by linarith
  have hleast : 20 ≤ 2 * k + 1 := by exact_mod_cast hleast
  have hmost : ((2 * k + 1 : ℕ) : ℚ) ≤ 20000 := by linarith
  have hmost : 2 * k + 1 ≤ 20000 := by exact_mod_cast hmost
  have hinteger : ((2 * k + 1 : ℕ) : ℚ) / 2 + 1 / 2 = (k + 1 : ℕ) := by
    push_cast
    ring
  have hraised : (raised n (1000 ^ rank)).value = (k + 1 : ℕ) := by
    rw [value_raised (h.le_six hn), value_ofNat_of_twentieth h hn hj, hj,
      value_ten_mul_twentieth hleast hmost, hinteger, ← ofNat_eq, value_ofNat (by omega)]
  have hexact : 10 * ((n : ℚ) / 1000 ^ rank) + 1 / 2 = (k + 1 : ℕ) := by
    rw [hj, ← hinteger]
    ring
  rw [tenthsShown, hraised, hexact]

/-- The error does not reach the next integer from a number that is far enough from the middles. -/
theorem tenthsShown_of_far (h : IsRank n rank) (hn : n < 2 ^ 64)
    (hfar : ∀ j : ℕ, Odd j → 1 / 10 ^ 12 ≤ |(n : ℚ) / 1000 ^ rank - j / 20|) :
    tenthsShown n (1000 ^ rank) = ⌊10 * ((n : ℚ) / 1000 ^ rank) + 1 / 2⌋₊ := by
  have hlow := h.one_le_div
  obtain ⟨hbelow, habove⟩ := abs_le.1 (abs_raised_sub_le h hn)
  set y : ℚ := n / 1000 ^ rank
  have hpos : 1 ≤ ⌊10 * y + 1 / 2⌋₊ := (Nat.one_le_floor_iff _).2 (by linarith)
  obtain ⟨k, hk⟩ : ∃ k, ⌊10 * y + 1 / 2⌋₊ = k + 1 := ⟨⌊10 * y + 1 / 2⌋₊ - 1, by omega⟩
  obtain ⟨hle, hlt⟩ := (Nat.floor_eq_iff (by linarith)).1 hk
  have hdown := hfar (2 * k + 1) ⟨k, rfl⟩
  have hup := hfar (2 * (k + 1) + 1) ⟨k + 1, rfl⟩
  push_cast at hle hlt hdown hup
  rw [abs_of_nonneg (by linarith)] at hdown
  rw [abs_of_nonpos (by linarith)] at hup
  rw [hk, tenthsShown, Nat.floor_eq_iff (by linarith)]
  push_cast
  constructor <;> linarith

/-- A number in the middle of two tenths, or at least `10 ^ -12` away from all such numbers. -/
def IsClear (y : ℚ) : Prop :=
  ∀ j : ℕ, Odd j → y = j / 20 ∨ 1 / 10 ^ 12 ≤ |y - j / 20|

theorem isClear_of_lt (h : IsRank n rank) (hn : n < 10 ^ 15) : IsClear (n / 1000 ^ rank) := by
  have hrank : rank ≤ 4 := by
    by_contra hgt
    have hpow : 1000 ^ 5 ≤ 1000 ^ rank := Nat.pow_le_pow_right (by decide) (by omega)
    have hle := h.size_le
    omega
  intro j _
  obtain ⟨z, hz⟩ : ∃ z : ℤ, (n : ℚ) / 1000 ^ rank - j / 20 = z / 10 ^ 12 := by
    obtain ⟨e, he⟩ : ∃ e, rank + e = 4 := ⟨4 - rank, by omega⟩
    have hpow : (10 : ℚ) ^ 12 = 1000 ^ rank * 1000 ^ e := by
      rw [← pow_add, he]
      norm_num
    have hexact : (n : ℚ) / 1000 ^ rank = n * 1000 ^ e / 10 ^ 12 := by
      rw [hpow, mul_div_mul_right _ _ (by positivity)]
    refine ⟨n * 1000 ^ e - j * (5 * 10 ^ 10), ?_⟩
    rw [hexact]
    push_cast
    ring
  rcases eq_or_ne z 0 with rfl | hne
  · left
    rwa [Int.cast_zero, zero_div, sub_eq_zero] at hz
  · right
    rw [hz, abs_div, abs_of_pos (by positivity : (0 : ℚ) < 10 ^ 12)]
    gcongr
    exact_mod_cast Int.one_le_abs hne

/-- For clear numbers the tenths are the nearest ones, the upper ones of two. -/
theorem tenthsShown_eq (h : IsRank n rank) (hn : n < 2 ^ 64) (hclear : IsClear (n / 1000 ^ rank)) :
    tenthsShown n (1000 ^ rank) = ⌊10 * ((n : ℚ) / 1000 ^ rank) + 1 / 2⌋₊ := by
  by_cases hmiddle : ∃ j : ℕ, Odd j ∧ (n : ℚ) / 1000 ^ rank = j / 20
  · obtain ⟨j, hodd, hj⟩ := hmiddle
    exact tenthsShown_of_twentieth h hn hodd hj
  · exact tenthsShown_of_far h hn fun j hj =>
      (hclear j hj).resolve_left fun heq => hmiddle ⟨j, hj, heq⟩

/-- The digits that a number of tenths is shown by. -/
def tenthsText (t : ℕ) : List Char :=
  if t < 100 then Numeral.text (t / 10) ++ '.' :: Numeral.text (t % 10)
  else Numeral.text (roundQuotient t 10)

theorem roundQuotient_ten (t : ℕ) :
    (t % 10 = 5 ∧ roundQuotient t 10 = t / 10 + t / 10 % 2) ∨
      (t % 10 ≠ 5 ∧ 10 * roundQuotient t 10 ≤ t + 4 ∧ t ≤ 10 * roundQuotient t 10 + 4) := by
  simp only [roundQuotient]
  split_ifs <;> omega

theorem bits_toNearest_tenths_lt_iff {t : ℕ} (hlow : 10 ≤ t) (hhigh : t ≤ 10000) :
    (toNearest ((t : ℚ) / 10)).bits < (ofNat 10).bits ↔ t < 100 := by
  have ht : (10 : ℚ) ≤ t := by exact_mod_cast hlow
  have ht' : (t : ℚ) ≤ 10000 := by exact_mod_cast hhigh
  have hnormal : IsNormal ((t : ℚ) / 10) := isNormal_of_le (by linarith) (by linarith)
  rw [← value_lt_iff, value_ten]
  constructor
  · intro hlt
    by_contra hge
    have hge : (100 : ℚ) ≤ t := by exact_mod_cast not_lt.1 hge
    have hmono := value_toNearest_mono (isNormal_of_le (r := (10 : ℕ)) (by norm_num) (by norm_num))
      hnormal (by push_cast; linarith)
    rw [← ofNat_eq, value_ten] at hmono
    linarith
  · intro hlt
    have hlt : (t : ℚ) ≤ 99 := by exact_mod_cast (by omega : t ≤ 99)
    have habove := (abs_le.1 (abs_value_toNearest_sub_le hnormal)).2
    linarith

theorem tenths_toNearest {t : ℕ} (hlow : 10 ≤ t) (hhigh : t ≤ 10000) :
    (toNearest ((t : ℚ) / 10)).tenths = Numeral.text (t / 10) ++ '.' :: Numeral.text (t % 10) := by
  have ht : (10 : ℚ) ≤ t := by exact_mod_cast hlow
  have ht' : (t : ℚ) ≤ 10000 := by exact_mod_cast hhigh
  obtain ⟨hbelow, habove⟩ := abs_le.1 (abs_value_toNearest_sub_le (r := t / 10)
    (isNormal_of_le (by linarith) (by linarith)))
  rw [tenths, roundQuotient_eq (s := t) (denominator_pos _)]
  rw [Nat.cast_mul, mul_div_assoc, numerator_div_denominator, abs_lt]
  push_cast
  constructor <;> linarith

theorem units_toNearest {t : ℕ} (hlow : 10 ≤ t) (hhigh : t ≤ 10000) :
    (toNearest ((t : ℚ) / 10)).units = Numeral.text (roundQuotient t 10) := by
  have ht : (10 : ℚ) ≤ t := by exact_mod_cast hlow
  have ht' : (t : ℚ) ≤ 10000 := by exact_mod_cast hhigh
  have hnormal : IsNormal ((t : ℚ) / 10) := isNormal_of_le (by linarith) (by linarith)
  rw [units]
  rcases roundQuotient_ten t with ⟨hfive, -⟩ | ⟨-, hle, hge⟩
  · -- a tie is a half-integer, which is exact
    have hhalf : (t : ℚ) / 10 = (t / 5 : ℕ) * 2 ^ (-1 : ℤ) := by
      have hsplit : (t : ℚ) = 5 * (t / 5 : ℕ) := by exact_mod_cast (by omega : t = 5 * (t / 5))
      rw [zpow_neg_one]
      linarith
    rw [roundQuotient_eq_roundRat (denominator_pos _), numerator_div_denominator,
      value_toNearest_mul_zpow (by omega) hhalf hnormal, roundQuotient_eq_roundRat (by norm_num),
      Nat.cast_ofNat]
  · obtain ⟨hbelow, habove⟩ := abs_le.1 (abs_value_toNearest_sub_le hnormal)
    have hle : (10 : ℚ) * roundQuotient t 10 ≤ t + 4 := by exact_mod_cast hle
    have hge : (t : ℚ) ≤ 10 * roundQuotient t 10 + 4 := by exact_mod_cast hge
    rw [roundQuotient_eq (s := roundQuotient t 10) (denominator_pos _)]
    rw [numerator_div_denominator, abs_lt]
    constructor <;> linarith

theorem amountText_tenths {t : ℕ} (hlow : 10 ≤ t) (hhigh : t ≤ 10000) :
    amountText ((ofNat t).div (ofNat 10)) = tenthsText t := by
  have hten : 0 < (ofNat 10).value := by
    rw [value_ten]
    norm_num
  rw [div_eq _ hten, value_ten, value_ofNat (by omega), amountText, tenthsText,
    tenths_toNearest hlow hhigh, units_toNearest hlow hhigh]
  simp only [bits_toNearest_tenths_lt_iff hlow hhigh]

theorem byteCountText_eq (hn : n < 2 ^ 64) (h : 10 ≤ n) : ∃ rank, IsRank n rank ∧
    byteCountText n = tenthsText (tenthsShown n (1000 ^ rank)) ++
      ' ' :: (byteUnits.getD rank "").toList := by
  obtain ⟨rank, hclimb, hrank⟩ := climbUnits_one (n := n) (by omega)
  obtain ⟨hlow, hhigh, -⟩ := tenthsShown_bounds hrank hn
  refine ⟨rank, hrank, ?_⟩
  rw [byteCountText, if_neg (by omega), hclimb]
  simp only [inTenths_eq, amountText_tenths hlow hhigh]

end SeriesGateway.Report
