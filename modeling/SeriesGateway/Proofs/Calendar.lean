import Mathlib
import SeriesGateway.Calendar

namespace SeriesGateway

namespace Calendar

def yearLength (leap : Bool) : Nat :=
  if leap then 366 else 365

theorem sum_monthLengths (leap : Bool) : (monthLengths leap).sum = yearLength leap := by
  cases leap <;> rfl

theorem newYear_succ (year : Int) :
    newYear (year + 1) = newYear year + yearLength (isLeap year) := by
  simp only [newYear, yearLength, isLeap, bne, beq_eq_decide, Bool.and_eq_true, Bool.or_eq_true,
    Bool.not_eq_true', decide_eq_true_eq, decide_eq_false_iff_not]
  split_ifs <;> omega

theorem newYear_mono {a b : Int} (h : a ≤ b) : newYear a ≤ newYear b := by
  simp only [newYear]
  omega

/-- Years are 365.2425 days long in the mean; the first of January is never off by two days. -/
theorem newYear_bounds (year : Int) :
    146097 * (year - 1970) - 506 ≤ 400 * newYear year ∧
      400 * newYear year ≤ 146097 * (year - 1970) + 589 := by
  simp only [newYear]
  omega

theorem yearOf_bounds (day : Int) :
    newYear (yearOf day) ≤ day ∧ day < newYear (yearOf day + 1) := by
  -- A year before the guess and two years behind it, the mean length leaves no doubt.
  have hbefore := newYear_bounds (400 * day / 146097 + 1970 - 1)
  have hbehind := newYear_bounds (400 * day / 146097 + 1970 + 1 + 1)
  unfold yearOf
  dsimp only
  split_ifs with hearly hlate
  · rw [sub_add_cancel]
    exact ⟨by omega, hearly⟩
  · exact ⟨hlate, by omega⟩
  · exact ⟨by omega, by omega⟩

/-- No other year has the day. -/
theorem yearOf_eq {year day : Int} (hlow : newYear year ≤ day) (hhigh : day < newYear (year + 1)) :
    yearOf day = year := by
  obtain ⟨hfirst, hlast⟩ := yearOf_bounds day
  apply le_antisymm
  · by_contra hlt
    have hmono := newYear_mono (show year + 1 ≤ yearOf day by omega)
    omega
  · by_contra hlt
    have hmono := newYear_mono (show yearOf day + 1 ≤ year by omega)
    omega

theorem sum_take_add_le {lengths : List Nat} {k length : Nat} (h : lengths[k]? = some length) :
    (lengths.take k).sum + length ≤ lengths.sum := by
  obtain ⟨hk, rfl⟩ := List.getElem?_eq_some_iff.1 h
  rw [← List.sum_take_succ _ _ hk]
  conv_rhs => rw [← List.take_append_drop (k + 1) lengths, List.sum_append]
  exact Nat.le_add_right _ _

/-- A day of the year lies in a month, behind the months before it. -/
theorem exists_month_of_lt {lengths : List Nat} {day : Nat} (h : day < lengths.sum) :
    ∃ k d length, splitMonths lengths day = (k + 1, d + 1) ∧ lengths[k]? = some length ∧
      d < length ∧ (lengths.take k).sum + d = day := by
  induction lengths generalizing day with
  | nil => cases h
  | cons first rest ih =>
    rw [splitMonths]
    split
    · rename_i hday
      exact ⟨0, day, first, rfl, rfl, hday, by simp⟩
    · rename_i hday
      rw [List.sum_cons] at h
      have hrest : day - first < rest.sum := by omega
      obtain ⟨k, d, length, hsplit, hlength, hd, hsum⟩ := ih hrest
      refine ⟨k + 1, d, length, ?_, hlength, hd, ?_⟩
      · rw [hsplit]
      · rw [List.take_succ_cons, List.sum_cons]
        omega

/-- A day of a month is told apart from the days of all others. -/
theorem splitMonths_of_getElem? {lengths : List Nat} {k d length : Nat}
    (hlength : lengths[k]? = some length) (hd : d < length) :
    splitMonths lengths ((lengths.take k).sum + d) = (k + 1, d + 1) := by
  induction lengths generalizing k with
  | nil => simp at hlength
  | cons first rest ih =>
    cases k with
    | zero =>
      obtain rfl : first = length := by simpa using hlength
      simp [splitMonths, hd]
    | succ k =>
      have hbehind : ¬first + (rest.take k).sum + d < first := by omega
      have hleft : first + (rest.take k).sum + d - first = (rest.take k).sum + d := by omega
      rw [List.take_succ_cons, List.sum_cons, splitMonths, if_neg hbehind, hleft,
        ih (by simpa using hlength)]

end Calendar

namespace Date

open Calendar

theorem daysBefore_eq_sum (leap : Bool) (month : Nat) :
    daysBefore leap month = ((monthLengths leap).take (month - 1)).sum := by
  rw [daysBefore, List.sum_eq_foldl]

theorem isValid_iff {d : Date} :
    d.isValid = true ↔ (firstYear ≤ d.year ∧ d.year ≤ lastYear) ∧ 1 ≤ d.month ∧ 1 ≤ d.day ∧
      ∃ length, (monthLengths (isLeap d.year))[d.month - 1]? = some length ∧ d.day ≤ length := by
  unfold isValid
  cases (monthLengths (isLeap d.year))[d.month - 1]? <;> simp [and_assoc]

theorem of?_eq_some_iff {year : Int} {month day : Nat} {d : Date} :
    of? year month day = some d ↔ d = ⟨year, month, day⟩ ∧ d.isValid = true := by
  unfold of?
  grind

theorem of?_self {d : Date} (h : d.isValid = true) : of? d.year d.month d.day = some d :=
  of?_eq_some_iff.2 ⟨rfl, h⟩

theorem month_pos {d : Date} (h : d.isValid = true) : 1 ≤ d.month :=
  (isValid_iff.1 h).2.1

/-- The numbers of a date are small enough for two digits. -/
theorem month_le {d : Date} (h : d.isValid = true) : d.month ≤ 12 := by
  obtain ⟨-, hmonth, -, length, hlength, -⟩ := isValid_iff.1 h
  have hk := (List.getElem?_eq_some_iff.1 hlength).1
  have htwelve : (monthLengths (isLeap d.year)).length = 12 := rfl
  omega

theorem day_le {d : Date} (h : d.isValid = true) : d.day ≤ 31 := by
  obtain ⟨-, -, -, length, hlength, hday⟩ := isValid_iff.1 h
  have hmem := List.mem_of_getElem? hlength
  have hall : ∀ leap, ∀ l ∈ monthLengths leap, l ≤ 31 := by decide
  exact hday.trans (hall _ _ hmem)

theorem isValid_newYear {year : Int} (h : firstYear ≤ year ∧ year ≤ lastYear) :
    (Date.mk year 1 1).isValid = true :=
  isValid_iff.2 ⟨h, le_rfl, le_rfl, 31, rfl, Nat.succ_le_succ (Nat.zero_le 30)⟩

theorem dayNumber_newYear (year : Int) : dayNumber ⟨year, 1, 1⟩ = newYear year := by
  simp [dayNumber, daysBefore]

theorem dayNumber_bounds {d : Date} (h : d.isValid = true) :
    newYear d.year ≤ d.dayNumber ∧ d.dayNumber < newYear (d.year + 1) := by
  obtain ⟨-, hmonth, hday, length, hlength, hle⟩ := isValid_iff.1 h
  have hsum := sum_take_add_le hlength
  rw [sum_monthLengths] at hsum
  rw [dayNumber, daysBefore_eq_sum, newYear_succ]
  omega

/-- A day of the calendar's years has a date, and is the day of it. -/
theorem ofDayNumber_spec (n : Int) :
    (ofDayNumber n).dayNumber = n ∧
      (firstYear ≤ (ofDayNumber n).year → (ofDayNumber n).year ≤ lastYear →
        (ofDayNumber n).isValid = true) := by
  obtain ⟨hlow, hhigh⟩ := yearOf_bounds n
  rw [newYear_succ] at hhigh
  have hday : (n - newYear (yearOf n)).toNat < (monthLengths (isLeap (yearOf n))).sum := by
    rw [sum_monthLengths]
    omega
  obtain ⟨k, d, length, hsplit, hlength, hd, hsum⟩ := exists_month_of_lt hday
  have hdate : ofDayNumber n = ⟨yearOf n, k + 1, d + 1⟩ := by
    rw [ofDayNumber, hsplit]
  rw [hdate]
  refine ⟨?_, fun hfirst hlast => ?_⟩
  · rw [dayNumber, daysBefore_eq_sum]
    simp only [Nat.add_sub_cancel]
    omega
  · exact isValid_iff.2
      ⟨⟨hfirst, hlast⟩, Nat.le_add_left 1 k, Nat.le_add_left 1 d, length, hlength, hd⟩

/-- The day of a date has that date and no other. -/
theorem ofDayNumber_dayNumber {d : Date} (h : d.isValid = true) : ofDayNumber d.dayNumber = d := by
  obtain ⟨-, hmonth, hday, length, hlength, hle⟩ := isValid_iff.1 h
  obtain ⟨hlow, hhigh⟩ := dayNumber_bounds h
  have hyear := yearOf_eq hlow hhigh
  have hoffset : (d.dayNumber - newYear d.year).toNat =
      ((monthLengths (isLeap d.year)).take (d.month - 1)).sum + (d.day - 1) := by
    rw [dayNumber, daysBefore_eq_sum]
    omega
  have hsplit := splitMonths_of_getElem? hlength (show d.day - 1 < length by omega)
  rw [ofDayNumber, hyear]
  simp only [hoffset, hsplit, Nat.sub_add_cancel hmonth, Nat.sub_add_cancel hday]

end Date

end SeriesGateway
