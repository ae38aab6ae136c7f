import SeriesGateway.Proofs.Report.Tenths
import SeriesGateway.Proofs.Text.Numeral

namespace SeriesGateway.Report

open Binary64

variable {n rank : ℕ} {y : ℚ}

/-- Digits that show a number: one decimal place below ten, and none from ten on. -/
inductive IsFigure : List Char → ℚ → Prop
  | tenths {whole tenth : ℕ} (hwhole : whole < 10) (htenth : tenth < 10) :
      IsFigure (Numeral.text whole ++ '.' :: Numeral.text tenth) (whole + tenth / 10)
  | units {whole : ℕ} (h : 10 ≤ whole) : IsFigure (Numeral.text whole) whole

/-- A text that says so many units of `1000 ^ rank` bytes. -/
def Says (text : String) (figure : ℚ) (rank : ℕ) : Prop :=
  ∃ digits unit, IsFigure digits figure ∧ byteUnits[rank]? = some unit ∧
    text = .ofList (digits ++ ' ' :: unit.toList)

/-- A figure from one to below 1000 that is off by half a unit of its last digit at most. -/
def IsNearest (figure y : ℚ) : Prop :=
  1 ≤ figure ∧ figure < 1000 ∧ |figure - y| ≤ if figure < 10 then 1 / 20 else 1 / 2

/-- A text that says a nearest figure for a number of bytes. -/
def SaysNearest (text : String) (n : ℕ) : Prop :=
  ∃ figure rank, Says text figure rank ∧ IsNearest figure (n / 1000 ^ rank)

theorem IsFigure.blank_not_mem {digits : List Char} {figure : ℚ} (h : IsFigure digits figure) :
    ' ' ∉ digits := by
  have htext := Numeral.not_mem_text (c := ' ') rfl
  cases h with
  | tenths => simp [htext]
  | units => exact htext _

theorem IsFigure.unique {digits : List Char} {a b : ℚ} (ha : IsFigure digits a)
    (hb : IsFigure digits b) : a = b := by
  have hpoint := Numeral.not_mem_text (c := '.') rfl
  generalize hdigits : digits = others at hb
  cases ha with
  | @tenths whole tenth =>
    cases hb with
    | tenths =>
      obtain ⟨hwhole, -, htenth⟩ :=
        (List.append_cons_inj_of_notMem (hpoint _) (hpoint _)).1 hdigits
      rw [Numeral.text_injective hwhole, Numeral.text_injective htenth]
    | @units other =>
      exact absurd (hdigits ▸ List.mem_append_right _ List.mem_cons_self) (hpoint other)
  | @units whole =>
    cases hb with
    | tenths =>
      exact absurd (hdigits ▸ List.mem_append_right _ List.mem_cons_self) (hpoint whole)
    | units => rw [Numeral.text_injective hdigits]

/-- A text says one thing only. -/
theorem Says.unique {text : String} {a b : ℚ} {i j : ℕ} (ha : Says text a i) (hb : Says text b j) :
    a = b ∧ i = j := by
  obtain ⟨digits, unit, hdigits, hunit, rfl⟩ := ha
  obtain ⟨others, other, hothers, hother, htext⟩ := hb
  have hblank : ∀ unit ∈ byteUnits, ' ' ∉ unit.toList := by decide
  obtain ⟨rfl, -, hname⟩ := (List.append_cons_inj_of_notMem hdigits.blank_not_mem
    (hblank _ (List.mem_of_getElem? hunit))).1 (String.ofList_injective htext)
  obtain ⟨hi, -⟩ := List.getElem?_eq_some_iff.1 hunit
  refine ⟨hdigits.unique hothers, (List.getElem?_inj hi (by decide)).1 ?_⟩
  rw [hunit, hother, String.toList_injective hname]

theorem Says.saysNearest_iff {text : String} {figure : ℚ} (h : Says text figure rank) :
    SaysNearest text n ↔ IsNearest figure (n / 1000 ^ rank) := by
  constructor
  · rintro ⟨other, place, hother, hnearest⟩
    obtain ⟨rfl, rfl⟩ := h.unique hother
    exact hnearest
  · exact fun hnearest => ⟨figure, rank, h, hnearest⟩

/-- The figure for a number of tenths. -/
def figureOf (t : ℕ) : ℚ :=
  if t < 100 then t / 10 else roundQuotient t 10

theorem isFigure_tenthsText (t : ℕ) : IsFigure (tenthsText t) (figureOf t) := by
  rw [tenthsText, figureOf]
  split_ifs with hlt
  · have hdiv : (t : ℚ) = 10 * (t / 10 : ℕ) + (t % 10 : ℕ) := by
      exact_mod_cast (Nat.div_add_mod t 10).symm
    have hsplit : (t : ℚ) / 10 = (t / 10 : ℕ) + (t % 10 : ℕ) / 10 := by linarith
    rw [hsplit]
    exact .tenths (by omega) (by omega)
  · have := roundQuotient_ten t
    exact .units (by omega)

theorem figureOf_bounds {t : ℕ} (hlow : 10 ≤ t) (hhigh : t ≤ 10000) :
    1 ≤ figureOf t ∧ figureOf t ≤ 1000 ∧
      |figureOf t - t / 10| ≤ if figureOf t < 10 then 0 else 1 / 2 := by
  have hleast : (10 : ℚ) ≤ t := by exact_mod_cast hlow
  rw [figureOf]
  split_ifs with hlt hten hten
  · have hcast : (t : ℚ) < 100 := by exact_mod_cast hlt
    exact ⟨by linarith, by linarith, by rw [sub_self, abs_zero]⟩
  · have hcast : (t : ℚ) < 100 := by exact_mod_cast hlt
    linarith
  · have hcast : roundQuotient t 10 < 10 := by exact_mod_cast hten
    have := roundQuotient_ten t
    omega
  · have hround := abs_roundQuotient_sub_le (n := t) (d := 10) (by norm_num)
    have hmost : roundQuotient t 10 ≤ 1000 := by
      have := roundQuotient_ten t
      omega
    exact ⟨by linarith, by exact_mod_cast hmost, by exact_mod_cast hround⟩

/-- The numbers of units that are not shown by a nearest figure. From 999.5 on the figure would be
1000. And a number next to the middle of two integers, with that for its nearest tenth, is shown by
the even one of the two, on whichever side it is. -/
def Slips (y : ℚ) : Prop :=
  999 + 1 / 2 ≤ y ∨ ∃ k : ℕ, 10 ≤ k ∧
    (Odd k ∧ k + 9 / 20 ≤ y ∧ y < k + 1 / 2 ∨ Even k ∧ k + 1 / 2 < y ∧ y < k + 11 / 20)

theorem isNearest_of_units {m : ℕ} (hten : 10 ≤ m) (hmost : m < 1000) (h : |(m : ℚ) - y| ≤ 1 / 2) :
    IsNearest m y := by
  have hten : (10 : ℚ) ≤ m := by exact_mod_cast hten
  have hmost : (m : ℚ) < 1000 := by exact_mod_cast hmost
  refine ⟨by linarith, hmost, ?_⟩
  rwa [if_neg (by linarith)]

theorem roundQuotient_of_even {k : ℕ} (h : Even k) : roundQuotient (10 * k + 5) 10 = k := by
  have hround := roundQuotient_ten (10 * k + 5)
  obtain ⟨i, rfl⟩ := h
  omega

theorem roundQuotient_of_odd {k : ℕ} (h : Odd k) : roundQuotient (10 * k + 5) 10 = k + 1 := by
  have hround := roundQuotient_ten (10 * k + 5)
  obtain ⟨i, rfl⟩ := h
  omega

/-- On its own side of the middle, the even integer is nearest. -/
theorem isNearest_middle {k : ℕ} (hk : 10 ≤ k) (hfrom : k + 9 / 20 ≤ y) (hto : y < k + 11 / 20)
    (h : ¬Slips y) : IsNearest (roundQuotient (10 * k + 5) 10) y := by
  have hend : y < 999 + 1 / 2 := not_le.1 fun hend => h (Or.inl hend)
  rcases Nat.even_or_odd k with heven | hodd
  · have hside : y ≤ k + 1 / 2 := by
      by_contra hside
      exact h (Or.inr ⟨k, hk, Or.inr ⟨heven, not_le.1 hside, hto⟩⟩)
    have hlast : (k : ℚ) < 1000 := by linarith
    rw [roundQuotient_of_even heven]
    apply isNearest_of_units hk (by exact_mod_cast hlast)
    rw [abs_le]
    constructor <;> linarith
  · have hside : k + 1 / 2 ≤ y := by
      by_contra hside
      exact h (Or.inr ⟨k, hk, Or.inl ⟨hodd, hfrom, not_le.1 hside⟩⟩)
    have hlast : ((k + 1 : ℕ) : ℚ) < 1000 := by
      push_cast
      linarith
    rw [roundQuotient_of_odd hodd]
    apply isNearest_of_units (by omega) (by exact_mod_cast hlast)
    rw [abs_le]
    push_cast
    constructor <;> linarith

section Tenths

variable {t : ℕ} (hle : t ≤ 10 * y + 1 / 2) (hlt : 10 * y + 1 / 2 < t + 1)

include hle hlt

theorem tenths_middle_iff (k : ℕ) : t = 10 * k + 5 ↔ k + 9 / 20 ≤ y ∧ y < k + 11 / 20 := by
  constructor
  · rintro rfl
    push_cast at hle hlt
    constructor <;> linarith
  · rintro ⟨hlow, hhigh⟩
    have hleast : (10 * k + 5 : ℚ) < t + 1 := by linarith
    have hleast : 10 * k + 5 < t + 1 := by exact_mod_cast hleast
    have hmost : (t : ℚ) < 10 * k + 6 := by linarith
    have hmost : t < 10 * k + 6 := by exact_mod_cast hmost
    omega

theorem Slips.not_isNearest (h : Slips y) : ¬IsNearest (figureOf t) y := by
  rintro ⟨-, hmost, hnear⟩
  rcases h with hend | ⟨k, hk, hslip⟩
  · have hround := roundQuotient_ten t
    have ht : (9994 : ℚ) < t := by linarith
    have ht : 9994 < t := by exact_mod_cast ht
    rw [figureOf, if_neg (by omega)] at hmost
    have hmost : roundQuotient t 10 < 1000 := by exact_mod_cast hmost
    omega
  · obtain rfl : t = 10 * k + 5 := by
      rw [tenths_middle_iff hle hlt]
      rcases hslip with ⟨-, hlow, hhigh⟩ | ⟨-, hlow, hhigh⟩ <;> constructor <;> linarith
    have hten : (10 : ℚ) ≤ k := by exact_mod_cast hk
    rw [figureOf, if_neg (by omega)] at hnear
    rcases hslip with ⟨hodd, -, hhigh⟩ | ⟨heven, hlow, -⟩
    · rw [roundQuotient_of_odd hodd, Nat.cast_succ, if_neg (by linarith), abs_le] at hnear
      linarith
    · rw [roundQuotient_of_even heven, if_neg (by linarith), abs_le] at hnear
      linarith

theorem isNearest_figureOf (hlow : 10 ≤ t) (h : ¬Slips y) : IsNearest (figureOf t) y := by
  rcases lt_or_ge t 100 with hsmall | hgreat
  · have hleast : (10 : ℚ) ≤ t := by exact_mod_cast hlow
    have hmost : (t : ℚ) < 100 := by exact_mod_cast hsmall
    rw [figureOf, if_pos hsmall, IsNearest, if_pos (by linarith), abs_le]
    refine ⟨by linarith, by linarith, ?_, ?_⟩ <;> linarith
  · rw [figureOf, if_neg (by omega)]
    rcases roundQuotient_ten t with ⟨hfive, -⟩ | ⟨-, hbelow, habove⟩
    · obtain ⟨k, hk⟩ : ∃ k, t = 10 * k + 5 := ⟨t / 10, by omega⟩
      obtain ⟨hfrom, hto⟩ := (tenths_middle_iff hle hlt k).1 hk
      rw [hk]
      exact isNearest_middle (by omega) hfrom hto h
    · -- two fifths of a unit and half a tenth leave room for more
      have hend : y < 999 + 1 / 2 := not_le.1 fun hend => h (Or.inl hend)
      have hbelow : (10 * roundQuotient t 10 : ℚ) ≤ t + 4 := by exact_mod_cast hbelow
      have habove : (t : ℚ) ≤ 10 * roundQuotient t 10 + 4 := by exact_mod_cast habove
      have hmost : (roundQuotient t 10 : ℚ) < 1000 := by linarith
      apply isNearest_of_units (by omega) (by exact_mod_cast hmost)
      rw [abs_le]
      constructor <;> linarith

end Tenths

/-- The text of a byte count names the greatest unit of which there is one at least, and a figure
that is off by half a tenth below ten and by half a unit and half a tenth from ten on, up to what
the arithmetic adds. Where that cannot miss the nearest tenth, the text is a nearest one exactly for
the numbers of units that do not slip. -/
theorem byteCount_says_nearest_unless_slips (n : UInt64) (h : 10 ≤ n) :
    ∃ figure rank, Says (byteCount n) figure rank ∧ rank ≤ 6 ∧ IsRank n.toNat rank ∧
      1 ≤ figure ∧ figure ≤ 1000 ∧
      |figure - n.toNat / 1000 ^ rank| ≤ (if figure < 10 then 1 / 20 else 11 / 20) + 1 / 10 ^ 12 ∧
      (n.toNat < 10 ^ 15 ∨ IsClear (n.toNat / 1000 ^ rank) →
        (SaysNearest (byteCount n) n.toNat ↔ ¬Slips (n.toNat / 1000 ^ rank))) := by
  have hn : n.toNat < 2 ^ 64 := n.toNat_lt
  obtain ⟨rank, hrank, htext⟩ := byteCountText_eq hn (UInt64.le_iff_toNat_le.1 h)
  obtain ⟨hlow, hhigh, herror⟩ := tenthsShown_bounds hrank hn
  obtain ⟨hone, hmost, hround⟩ := figureOf_bounds hlow hhigh
  have hsix := hrank.le_six hn
  have htold : Says (byteCount n) (figureOf (tenthsShown n.toNat (1000 ^ rank))) rank := by
    refine ⟨_, byteUnits.getD rank "", isFigure_tenthsText _, ?_, by rw [byteCount, htext]⟩
    have hunits : rank < byteUnits.length := Nat.lt_succ_of_le hsix
    rw [List.getElem?_eq_getElem hunits, List.getD_eq_getElem _ _ hunits]
  refine ⟨_, rank, htold, hsix, hrank, hone, hmost, ?_, fun hexact => ?_⟩
  · rw [abs_le] at herror hround ⊢
    split_ifs at hround ⊢ <;> constructor <;> linarith
  · have hclear : IsClear (n.toNat / 1000 ^ rank) := hexact.elim (isClear_of_lt hrank) id
    have htenths := tenthsShown_eq hrank hn hclear
    obtain ⟨hle, hlt⟩ := (Nat.floor_eq_iff (by positivity)).1 htenths.symm
    rw [htold.saysNearest_iff]
    exact ⟨fun hnearest hslip => hslip.not_isNearest hle hlt hnearest,
      isNearest_figureOf hle hlt hlow⟩

theorem byteCount_says_nearest_of_greatest :
    (10 : UInt64) ≤ 18446744073709551615 ∧
      SaysNearest (byteCount 18446744073709551615) 18446744073709551615 := by
  have h : (10 : UInt64) ≤ 18446744073709551615 := by decide
  have hn : (18446744073709551615 : UInt64).toNat = 18446744073709551615 := by decide
  obtain ⟨figure, rank, -, hsix, hrank, -, -, -, hiff⟩ :=
    byteCount_says_nearest_unless_slips 18446744073709551615 h
  rw [hn] at hrank hiff
  obtain rfl : rank = 6 := by
    by_contra hne
    have hpow : 1000 ^ (rank + 1) ≤ 1000 ^ 6 := Nat.pow_le_pow_right (by decide) (by omega)
    have hlt := hrank.lt_next
    omega
  refine ⟨h, (hiff (Or.inr fun j _ => Or.inr ?_)).2 ?_⟩
  · -- the count lies between the twentieths 368 and 369
    rw [le_abs]
    rcases le_or_gt j 368 with hle | hgt
    · have hle : (j : ℚ) ≤ 368 := by exact_mod_cast hle
      left
      norm_num
      linarith
    · have hgt : (369 : ℚ) ≤ j := by exact_mod_cast hgt
      right
      norm_num
      linarith
  · rintro (hend | ⟨k, -, hslip⟩)
    · norm_num at hend
    · have hk : (k : ℚ) < 18 := by
        rcases hslip with ⟨-, hlow, -⟩ | ⟨-, hlow, -⟩ <;> norm_num at hlow <;> linarith
      have hk : k ≤ 17 := Nat.lt_succ_iff.1 (by exact_mod_cast hk)
      have hk : (k : ℚ) ≤ 17 := by exact_mod_cast hk
      rcases hslip with ⟨-, -, hhigh⟩ | ⟨-, -, hhigh⟩ <;> norm_num at hhigh <;> linarith

/-- A figure of four digits; a number below the middle that is shown by the integer above; and one
below the middle of two tenths that binary64 does not tell from it. The nearest texts stand
beside them. -/
theorem byteCount_slips :
    (byteCount 999999 = "1000 kB" ∧ ¬SaysNearest "1000 kB" 999999 ∧
      SaysNearest "1.0 MB" 999999) ∧
    (byteCount 11450 = "12 kB" ∧ ¬SaysNearest "12 kB" 11450 ∧ SaysNearest "11 kB" 11450) ∧
    (byteCount 1049999999999999999 = "1.1 EB" ∧ ¬SaysNearest "1.1 EB" 1049999999999999999 ∧
      SaysNearest "1.0 EB" 1049999999999999999) := by
  have hthousand : Says "1000 kB" (1000 : ℕ) 1 :=
    ⟨_, _, .units (by decide), rfl, by decide +kernel⟩
  have hmillion : Says "1.0 MB" ((1 : ℕ) + (0 : ℕ) / 10) 2 :=
    ⟨_, _, .tenths (by decide) (by decide), rfl, by decide +kernel⟩
  have htwelve : Says "12 kB" (12 : ℕ) 1 := ⟨_, _, .units (by decide), rfl, by decide +kernel⟩
  have heleven : Says "11 kB" (11 : ℕ) 1 := ⟨_, _, .units (by decide), rfl, by decide +kernel⟩
  have habove : Says "1.1 EB" ((1 : ℕ) + (1 : ℕ) / 10) 6 :=
    ⟨_, _, .tenths (by decide) (by decide), rfl, by decide +kernel⟩
  have hbelow : Says "1.0 EB" ((1 : ℕ) + (0 : ℕ) / 10) 6 :=
    ⟨_, _, .tenths (by decide) (by decide), rfl, by decide +kernel⟩
  rw [hthousand.saysNearest_iff, hmillion.saysNearest_iff, htwelve.saysNearest_iff,
    heleven.saysNearest_iff, habove.saysNearest_iff, hbelow.saysNearest_iff]
  refine ⟨⟨by decide +kernel, ?_⟩, ⟨by decide +kernel, ?_⟩, ⟨by decide +kernel, ?_⟩⟩ <;>
    norm_num [IsNearest, abs_le]

end SeriesGateway.Report
