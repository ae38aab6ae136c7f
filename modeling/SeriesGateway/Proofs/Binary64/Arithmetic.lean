import SeriesGateway.Proofs.Binary64.Nearest

namespace SeriesGateway.Binary64

variable {n d : ℕ} {q r t : ℚ}

/-- The nearest integer to a number, the even one of two. -/
def roundRat (q : ℚ) : ℕ :=
  roundQuotient q.num.natAbs q.den

theorem natAbs_num_div_den (hq : 0 ≤ q) : (q.num.natAbs : ℚ) / q.den = q := by
  have hnum : ((q.num.natAbs : ℤ) : ℚ) = q.num := by
    rw [Int.natAbs_of_nonneg (Rat.num_nonneg.2 hq)]
  rw [Int.cast_natCast] at hnum
  rw [hnum, Rat.num_div_den]

theorem natAbs_num_div_cast (n d : ℕ) :
    (((n : ℚ) / d).num.natAbs : ℚ) / ((n : ℚ) / d).den = n / d :=
  natAbs_num_div_den (by positivity)

theorem roundQuotient_eq_roundRat (hd : 0 < d) (n : ℕ) :
    roundQuotient n d = roundRat (n / d) := by
  apply roundQuotient_congr hd (Rat.den_pos _)
  have hvalue := natAbs_num_div_cast n d
  rw [div_eq_div_iff (by exact_mod_cast (Rat.den_pos _).ne') (by exact_mod_cast hd.ne')] at hvalue
  exact_mod_cast hvalue.symm

theorem abs_roundRat_sub_le (hq : 0 ≤ q) : |(roundRat q : ℚ) - q| ≤ 1 / 2 := by
  have h := abs_roundQuotient_sub_le (n := q.num.natAbs) q.den_pos
  rwa [natAbs_num_div_den hq] at h

theorem roundRat_eq {s : ℕ} (hq : 0 ≤ q) (h : |q - s| < 1 / 2) : roundRat q = s := by
  apply roundQuotient_eq q.den_pos
  rwa [natAbs_num_div_den hq]

theorem roundRat_natCast (s : ℕ) : roundRat s = s :=
  roundRat_eq (Nat.cast_nonneg s) (by norm_num)

/-- Rounding to integers keeps the order. -/
theorem roundRat_mono (hq : 0 ≤ q) (h : q ≤ t) : roundRat q ≤ roundRat t := by
  rcases h.eq_or_lt with rfl | hlt
  · exact le_rfl
  · have hbelow := (abs_le.1 (abs_roundRat_sub_le hq)).2
    have habove := (abs_le.1 (abs_roundRat_sub_le (hq.trans h))).1
    have hcast : (roundRat q : ℚ) < roundRat t + 1 := by linarith
    have : roundRat q < roundRat t + 1 := by exact_mod_cast hcast
    omega

/-- Half a unit away from an even integer, that one is the nearest. -/
theorem roundRat_eq_of_even {s : ℕ} (hq : 0 ≤ q) (hs : Even s) (h : |q - s| ≤ 1 / 2) :
    roundRat q = s := by
  obtain ⟨k, rfl⟩ := hs
  rcases h.lt_or_eq with hlt | htie
  · exact roundRat_eq hq hlt
  · rcases (abs_eq (by norm_num)).1 htie with habove | hbelow
    · have hvalue : q = ((4 * k + 1 : ℕ) : ℚ) / (2 : ℕ) := by
        push_cast at habove ⊢
        linarith
      rw [hvalue, ← roundQuotient_eq_roundRat two_pos, roundQuotient]
      grind
    · have hpos : 0 < k := by
        rw [Nat.pos_iff_ne_zero]
        rintro rfl
        norm_num at hbelow
        linarith
      obtain ⟨j, rfl⟩ : ∃ j, k = j + 1 := ⟨k - 1, by omega⟩
      have hvalue : q = ((4 * j + 3 : ℕ) : ℚ) / (2 : ℕ) := by
        push_cast at hbelow ⊢
        linarith
      rw [hvalue, ← roundQuotient_eq_roundRat two_pos, roundQuotient]
      grind

namespace Magnitude

/-- The magnitude nearest to a number. An operation on magnitudes is the exact one, and this is what
becomes of its result: it is off by half a unit at most, keeps its order, and is kept as it is if it
has 53 bits or fewer. -/
def toNearest (r : ℚ) : Magnitude :=
  nearest r.num.natAbs r.den

theorem nearest_eq_toNearest (hd : 0 < d) (n : ℕ) : nearest n d = toNearest (n / d) := by
  apply nearest_congr hd (Rat.den_pos _)
  have hvalue := natAbs_num_div_cast n d
  rw [div_eq_div_iff (by exact_mod_cast (Rat.den_pos _).ne') (by exact_mod_cast hd.ne')] at hvalue
  exact_mod_cast hvalue.symm

/-- The numbers that magnitudes of a full significand are near to. -/
structure IsNormal (r : ℚ) : Prop where
  low : 2 ^ (-1022 : ℤ) ≤ r
  high : r < 2 ^ (1023 : ℤ)

theorem IsNormal.pos (h : IsNormal r) : 0 < r :=
  (zpow_pos two_pos _).trans_le h.low

theorem isNormal_of_le (hlow : 1 / 2 ≤ r) (hhigh : r ≤ 2 ^ 64) : IsNormal r := by
  constructor
  · have hpow : (2 : ℚ) ^ (-1022 : ℤ) ≤ 2 ^ (-1 : ℤ) := zpow_le_zpow_right₀ one_le_two (by omega)
    rw [zpow_neg_one] at hpow
    linarith
  · have hpow : (2 : ℚ) ^ (64 : ℤ) < 2 ^ (1023 : ℤ) := zpow_lt_zpow_right₀ one_lt_two (by omega)
    exact hhigh.trans_lt (by exact_mod_cast hpow)

/-- The distance between the multiples that a number is rounded to. -/
def unit (r : ℚ) : ℚ :=
  2 ^ (Int.log 2 r - 52)

theorem unit_pos (r : ℚ) : 0 < unit r :=
  zpow_pos two_pos _

theorem two_pow_mul_unit_le (hr : 0 < r) : 2 ^ 52 * unit r ≤ r := by
  have hlow := (two_zpow_le_iff hr _).2 le_rfl
  calc 2 ^ 52 * unit r = 2 ^ Int.log 2 r := by
        rw [unit, ← zpow_natCast, ← zpow_add₀ two_ne_zero]
        congr 1
        push_cast
        ring
    _ ≤ r := hlow

theorem lt_two_pow_mul_unit (hr : 0 < r) : r < 2 ^ 53 * unit r := by
  have hhigh := (lt_two_zpow_iff hr (Int.log 2 r + 1)).2 (lt_add_one _)
  calc r < 2 ^ (Int.log 2 r + 1) := hhigh
    _ = 2 ^ 53 * unit r := by
        rw [unit, ← zpow_natCast, ← zpow_add₀ two_ne_zero]
        congr 1
        push_cast
        ring

theorem two_pow_le_roundRat (hr : 0 < r) : 2 ^ 52 ≤ roundRat (r / unit r) := by
  have hle := roundRat_mono (q := (2 ^ 52 : ℕ)) (Nat.cast_nonneg _)
    ((le_div_iff₀ (unit_pos r)).2 (by exact_mod_cast two_pow_mul_unit_le hr))
  rwa [roundRat_natCast] at hle

theorem roundRat_le_two_pow (hr : 0 < r) : roundRat (r / unit r) ≤ 2 ^ 53 := by
  have hle := roundRat_mono (t := (2 ^ 53 : ℕ)) (div_nonneg hr.le (unit_pos r).le)
    ((div_le_iff₀ (unit_pos r)).2 (by exact_mod_cast (lt_two_pow_mul_unit hr).le))
  rwa [roundRat_natCast] at hle

/-- The bits of a significand in its place stand for that multiple of the unit; a significand that
has grown by rounding goes up one place. -/
theorem value_of_bits {m : Magnitude} {place s : ℕ} (hlow : 2 ^ 52 ≤ s) (hhigh : s ≤ 2 ^ 53)
    (hbits : m.bits = place * significands + s) : m.value = s * 2 ^ ((place : ℤ) - 1074) := by
  rcases hhigh.lt_or_eq with hlt | rfl
  · obtain ⟨hsignificand, hpower⟩ := fields_of_full hlow hlt hbits
    rw [value, hsignificand, hpower]
  · have hdouble : 2 ^ 53 = significands + 2 ^ 52 := by decide
    have hnext : m.bits = (place + 1) * significands + 2 ^ 52 := by
      rw [hbits, hdouble, Nat.add_mul, Nat.one_mul, Nat.add_assoc]
    obtain ⟨hsignificand, hpower⟩ := fields_of_full le_rfl (by norm_num) hnext
    have hexponent : ((place + 1 : ℕ) : ℤ) - 1074 = (place - 1074) + 1 := by
      push_cast
      ring
    rw [value, hsignificand, hpower, hexponent, zpow_add_one₀ two_ne_zero]
    push_cast
    ring

theorem value_toNearest (h : IsNormal r) :
    (toNearest r).value = roundRat (r / unit r) * unit r := by
  have hpos := h.pos
  have hnum : r.num.natAbs ≠ 0 := by
    rw [Int.natAbs_ne_zero]
    exact (Rat.num_pos.2 hpos).ne'
  have horder : binaryOrder r.num.natAbs r.den = Int.log 2 r := by
    rw [binaryOrder_eq_log hnum r.den_ne_zero, natAbs_num_div_den hpos.le]
  have hlow : -1022 ≤ Int.log 2 r := (two_zpow_le_iff hpos _).1 h.low
  have hhigh : Int.log 2 r < 1023 := (lt_two_zpow_iff hpos _).1 h.high
  have hround : roundQuotient (r.num.natAbs <<< (-(Int.log 2 r - 52)).toNat)
      (r.den <<< (Int.log 2 r - 52).toNat) = roundRat (r / unit r) := by
    rw [roundQuotient_eq_roundRat, cast_shiftLeft_div, natAbs_num_div_den hpos.le, unit]
    rw [Nat.shiftLeft_eq]
    exact Nat.mul_pos r.den_pos (Nat.two_pow_pos _)
  have hleast := two_pow_le_roundRat hpos
  have hmost := roundRat_le_two_pow hpos
  obtain ⟨place, hplace⟩ : ∃ place : ℕ, Int.log 2 r - 52 = place - 1074 :=
    ⟨(Int.log 2 r + 1022).toNat, by omega⟩
  have hbits : (toNearest r).bits = place * significands + roundRat (r / unit r) := by
    have hmax : max (Int.log 2 r - 52) (-1074) = Int.log 2 r - 52 := by omega
    have htoNat : (Int.log 2 r - 52 + 1074).toNat = place := by omega
    simp only [toNearest, nearest, if_neg hnum, horder, hmax, htoNat, hround, ofBits]
    apply Nat.min_eq_left
    rw [infiniteBits, significands_eq]
    omega
  rw [value_of_bits hleast hmost hbits, ← hplace, unit]

/-- Rounding is off by half a unit in the last of 53 bits at most. -/
theorem abs_value_toNearest_sub_le (h : IsNormal r) :
    |(toNearest r).value - r| ≤ r / 2 ^ 53 := by
  have hunit := unit_pos r
  have hround := abs_roundRat_sub_le (div_pos h.pos hunit).le
  have hscale : (toNearest r).value - r = (roundRat (r / unit r) - r / unit r) * unit r := by
    rw [value_toNearest h, sub_mul, div_mul_cancel₀ _ hunit.ne']
  rw [hscale, abs_mul, abs_of_pos hunit]
  calc |(roundRat (r / unit r) : ℚ) - r / unit r| * unit r ≤ 1 / 2 * unit r := by gcongr
    _ ≤ r / 2 ^ 53 := by
        rw [le_div_iff₀ (by positivity)]
        have hle := two_pow_mul_unit_le h.pos
        linarith

/-- An operation on numbers that are off by some error adds an error of its own. -/
theorem abs_toNearest_sub_le {ε : ℚ} (bound : ℚ) (hbound : bound ≤ 2 ^ 64) (hlow : 1 / 2 ≤ r)
    (hhigh : r ≤ bound) (h : |r - t| ≤ ε) :
    |(toNearest r).value - t| ≤ ε + bound / 2 ^ 53 := by
  have hround := abs_value_toNearest_sub_le (isNormal_of_le hlow (hhigh.trans hbound))
  calc |(toNearest r).value - t| ≤ |(toNearest r).value - r| + |r - t| := abs_sub_le _ _ _
    _ ≤ bound / 2 ^ 53 + ε := by gcongr; exact hround.trans (by gcongr)
    _ = ε + bound / 2 ^ 53 := add_comm _ _

/-- Rounding keeps the order. -/
theorem value_toNearest_mono (hr : IsNormal r) (ht : IsNormal t) (h : r ≤ t) :
    (toNearest r).value ≤ (toNearest t).value := by
  have hlog : Int.log 2 r ≤ Int.log 2 t := Int.log_mono_right hr.pos h
  rw [value_toNearest hr, value_toNearest ht]
  rcases hlog.lt_or_eq with hlt | heq
  · -- from the multiples of one unit to those of a greater one
    have hunits : 2 * unit r ≤ unit t := by
      rw [unit, unit, ← zpow_one_add₀ two_ne_zero]
      exact zpow_le_zpow_right₀ one_le_two (by omega)
    have hmost : (roundRat (r / unit r) : ℚ) ≤ 2 ^ 53 := by
      exact_mod_cast roundRat_le_two_pow hr.pos
    have hleast : (2 : ℚ) ^ 52 ≤ roundRat (t / unit t) := by
      exact_mod_cast two_pow_le_roundRat ht.pos
    calc (roundRat (r / unit r) : ℚ) * unit r ≤ 2 ^ 53 * unit r :=
          mul_le_mul_of_nonneg_right hmost (unit_pos r).le
      _ = 2 ^ 52 * (2 * unit r) := by ring
      _ ≤ 2 ^ 52 * unit t := by gcongr
      _ ≤ roundRat (t / unit t) * unit t := mul_le_mul_of_nonneg_right hleast (unit_pos t).le
  · have hunit : unit r = unit t := by rw [unit, unit, heq]
    rw [hunit]
    have hmono := roundRat_mono (div_nonneg hr.pos.le (unit_pos t).le)
      (div_le_div_of_nonneg_right h (unit_pos t).le)
    exact mul_le_mul_of_nonneg_right (by exact_mod_cast hmono) (unit_pos t).le

/-- A multiple of its unit is kept. -/
theorem value_toNearest_of_multiple {s : ℕ} (h : IsNormal r) (hs : r = s * unit r) :
    (toNearest r).value = r := by
  have hquotient : r / unit r = s := (div_eq_iff (unit_pos r).ne').2 hs
  rw [value_toNearest h, hquotient, roundRat_natCast, ← hs]

/-- Numbers of at most 53 bits are kept. -/
theorem value_toNearest_mul_zpow {k : ℕ} {p : ℤ} (hk : k < 2 ^ 53) (hr : r = k * 2 ^ p)
    (h : IsNormal r) : (toNearest r).value = r := by
  have hlog : Int.log 2 r < 53 + p := by
    rw [← lt_two_zpow_iff h.pos, hr, zpow_add₀ two_ne_zero]
    apply mul_lt_mul_of_pos_right _ (zpow_pos two_pos p)
    exact_mod_cast hk
  obtain ⟨e, he⟩ : ∃ e : ℕ, p = e + (Int.log 2 r - 52) :=
    ⟨(p - (Int.log 2 r - 52)).toNat, by omega⟩
  apply value_toNearest_of_multiple (s := k * 2 ^ e) h
  calc r = k * 2 ^ p := hr
    _ = k * (2 ^ e * unit r) := by rw [unit, ← zpow_natCast, ← zpow_add₀ two_ne_zero, ← he]
    _ = (k * 2 ^ e : ℕ) * unit r := by
        push_cast
        ring

/-- A half-integer is an even multiple of the unit of a number that is not too great. -/
theorem exists_half_eq_mul_unit (hlog : Int.log 2 r ≤ 50) (j : ℕ) :
    ∃ k : ℕ, (j : ℚ) / 2 = (2 * k : ℕ) * unit r := by
  obtain ⟨e, he⟩ : ∃ e : ℕ, (e : ℤ) + 2 + (Int.log 2 r - 52) = 0 :=
    ⟨(50 - Int.log 2 r).toNat, by omega⟩
  have hone : (2 : ℚ) ^ e * 4 * unit r = 1 := by
    have hsum : (2 : ℚ) ^ ((e : ℤ) + 2 + (Int.log 2 r - 52)) = 1 := by rw [he, zpow_zero]
    rw [zpow_add₀ two_ne_zero, zpow_add₀ two_ne_zero, zpow_natCast] at hsum
    exact_mod_cast hsum
  refine ⟨j * 2 ^ e, ?_⟩
  push_cast
  linear_combination -(j : ℚ) / 2 * hone

/-- A product with ten makes good what the division by ten has lost, if the unit of neither is too
great for the number. -/
theorem value_toNearest_mul_ten {k l : ℕ} (hr : IsNormal r)
    (ht : IsNormal ((toNearest r).value * 10)) (hk : 10 * r = (2 * k : ℕ) * unit r)
    (hl : 10 * r = (2 * l : ℕ) * unit ((toNearest r).value * 10)) :
    (toNearest ((toNearest r).value * 10)).value = 10 * r := by
  have hunit := unit_pos r
  have hquotient := value_toNearest hr
  have hleast := two_pow_le_roundRat hr.pos
  have hround := abs_roundRat_sub_le (div_pos hr.pos hunit).le
  set s : ℕ := roundRat (r / unit r)
  set product : ℚ := (toNearest r).value * 10
  have hproduct : product - 10 * r = 2 * (5 * s - k : ℤ) * unit r := by
    rw [hk, show product = s * unit r * 10 by rw [← hquotient]]
    push_cast
    ring
  -- half a unit of the quotient grows to five units, and what is lost are an even number of them
  have hlost : |(5 * s - k : ℤ)| ≤ 2 := by
    have hfifth : r / unit r = k / 5 := by
      rw [div_eq_iff hunit.ne']
      push_cast at hk
      linarith
    have hle : |((5 * s - k : ℤ) : ℚ)| ≤ 5 / 2 := by
      rw [hfifth, abs_le] at hround
      rw [abs_le]
      push_cast
      constructor <;> linarith
    have hlt : |((5 * s - k : ℤ) : ℚ)| < 3 := hle.trans_lt (by norm_num)
    have hlt : |(5 * s - k : ℤ)| < 3 := by exact_mod_cast hlt
    omega
  have hnear : |product - 10 * r| ≤ 4 * unit r := by
    have hcast : |((5 * s - k : ℤ) : ℚ)| ≤ 2 := by exact_mod_cast hlost
    rw [hproduct, abs_mul, abs_mul, abs_of_pos hunit, abs_two]
    nlinarith
  have hgrown : 8 * unit r ≤ unit product := by
    have hlog : Int.log 2 r + 3 ≤ Int.log 2 product := by
      rw [← two_zpow_le_iff ht.pos]
      have hcast : (2 : ℚ) ^ 52 ≤ s := by exact_mod_cast hleast
      calc (2 : ℚ) ^ (Int.log 2 r + 3) = 2 ^ 52 * unit r * 8 := by
            rw [unit, ← zpow_natCast, ← zpow_add₀ two_ne_zero, zpow_add₀ two_ne_zero]
            norm_num
        _ ≤ s * unit r * 10 := by gcongr; norm_num
        _ = product := by rw [← hquotient]
    calc 8 * unit r = 2 ^ (Int.log 2 r - 52 + 3) := by
          rw [unit, zpow_add₀ two_ne_zero]
          norm_num
          ring
      _ ≤ unit product := zpow_le_zpow_right₀ one_le_two (by omega)
  have heven : roundRat (product / unit product) = 2 * l := by
    apply roundRat_eq_of_even (div_pos ht.pos (unit_pos product)).le (even_two_mul l)
    have hscaled : product / unit product - (2 * l : ℕ) = (product - 10 * r) / unit product := by
      rw [sub_div, hl, mul_div_cancel_right₀ _ (unit_pos product).ne']
    rw [hscaled, abs_div, abs_of_pos (unit_pos product), div_le_iff₀ (unit_pos product)]
    linarith
  rw [value_toNearest ht, heven, ← hl]

theorem mul_eq (a b : Magnitude) : a.mul b = toNearest (a.value * b.value) := by
  rw [mul, nearest_eq_toNearest (Nat.mul_pos a.denominator_pos b.denominator_pos)]
  push_cast
  rw [mul_div_mul_comm, numerator_div_denominator, numerator_div_denominator]

theorem div_eq (a : Magnitude) {b : Magnitude} (hb : 0 < b.value) :
    a.div b = toNearest (a.value / b.value) := by
  have hnumerator : 0 < b.numerator := by
    rw [Nat.pos_iff_ne_zero]
    intro hzero
    rw [← numerator_div_denominator, hzero, Nat.cast_zero, zero_div] at hb
    exact lt_irrefl _ hb
  rw [div, nearest_eq_toNearest (Nat.mul_pos a.denominator_pos hnumerator)]
  push_cast
  rw [← div_div_div_eq, numerator_div_denominator, numerator_div_denominator]

theorem add_eq (a b : Magnitude) : a.add b = toNearest (a.value + b.value) := by
  rw [add, nearest_eq_toNearest (Nat.mul_pos a.denominator_pos b.denominator_pos),
    ← numerator_div_denominator a, ← numerator_div_denominator b,
    div_add_div _ _ (by exact_mod_cast a.denominator_pos.ne')
      (by exact_mod_cast b.denominator_pos.ne')]
  push_cast
  ring_nf

theorem ofNat_eq (n : ℕ) : ofNat n = toNearest n := by
  rw [ofNat, nearest_eq_toNearest Nat.one_pos, Nat.cast_one, div_one]

theorem value_ofNat {n : ℕ} (h : n ≤ 2 ^ 53) : (ofNat n).value = n := by
  rw [← numerator_div_denominator, (ofNat_exact h).2, Nat.cast_mul,
    mul_div_cancel_right₀ _ (by exact_mod_cast (denominator_pos _).ne')]

theorem value_half : (nearest 1 2).value = 1 / 2 := by
  rw [nearest_eq_toNearest two_pos, Nat.cast_one, Nat.cast_two]
  apply value_toNearest_mul_zpow (k := 1) (p := -1) (by norm_num)
  · norm_num
  · exact isNormal_of_le le_rfl (by norm_num)

theorem floor_eq (m : Magnitude) : m.floor = ofNat ⌊m.value⌋₊ := by
  rw [floor, ← numerator_div_denominator, Nat.floor_div_eq_div]

/-- The order of bits is the order of values. -/
theorem value_lt_of_bits_lt {a b : Magnitude} (h : a.bits < b.bits) : a.value < b.value := by
  obtain ⟨ha, hapower, halt, hanormal⟩ := a.fields
  obtain ⟨hb, hbpower, -, hbnormal⟩ := b.fields
  have hblt := b.fields.significand_lt
  rw [significands_eq] at ha hb
  rcases lt_trichotomy a.power b.power with hlt | heq | hgt
  · have hleast : 2 ^ 52 ≤ b.significand := hbnormal.resolve_left (by omega)
    calc a.value < 2 ^ 53 * 2 ^ a.power := by
          apply mul_lt_mul_of_pos_right _ (zpow_pos two_pos _)
          exact_mod_cast halt
      _ = 2 ^ 52 * 2 ^ (a.power + 1) := by
          rw [zpow_add_one₀ two_ne_zero]
          ring
      _ ≤ 2 ^ 52 * 2 ^ b.power := by
          gcongr
          · exact one_le_two
          · omega
      _ ≤ b.value := by
          apply mul_le_mul_of_nonneg_right _ (zpow_pos two_pos _).le
          exact_mod_cast hleast
  · rw [value, value, heq]
    apply mul_lt_mul_of_pos_right _ (zpow_pos two_pos _)
    rw [heq] at ha
    exact_mod_cast (by omega : a.significand < b.significand)
  · have hleast : 2 ^ 52 ≤ a.significand := hanormal.resolve_left (by omega)
    omega

theorem value_lt_iff {a b : Magnitude} : a.value < b.value ↔ a.bits < b.bits := by
  refine ⟨fun h => ?_, value_lt_of_bits_lt⟩
  by_contra hge
  rcases (Nat.le_of_not_lt hge).lt_or_eq with hlt | heq
  · exact lt_asymm h (value_lt_of_bits_lt hlt)
  · exact h.ne (congrArg value (eq_of_bits heq.symm))

end Magnitude

end SeriesGateway.Binary64
