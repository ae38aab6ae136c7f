import SeriesGateway.Proofs.Rounding
import SeriesGateway.Proofs.Timestamp.FullForms
import SeriesGateway.Proofs.Timestamp.Integer

namespace SeriesGateway

open Numeral Timestamp

/-- How many characters of `2012-08-28T21:24` name a unit. -/
def Grain.width : Grain → Nat
  | .year => 4
  | .month => 7
  | .day => 10
  | .hour => 13
  | .minute => 16

/-- `2012-08-28` -/
def Date.isoText (d : Date) : List Char :=
  d.yearText ++ '-' :: twoDigits d.month ++ '-' :: twoDigits d.day

namespace Civil

/-- `2012-08-28T21:24` -/
def minuteText (c : Civil) : List Char :=
  c.date.isoText ++ 'T' :: twoDigits c.hour ++ ':' :: twoDigits c.minute

/-- Such a text up to a unit. -/
def cutText (c : Civil) : Grain → List Char
  | .year => c.date.yearText
  | .month => c.date.yearText ++ '-' :: twoDigits c.date.month
  | .day => c.date.isoText
  | .hour => c.date.isoText ++ 'T' :: twoDigits c.hour
  | .minute => c.minuteText

theorem cutText_isPrefix (c : Civil) (g : Grain) : c.cutText g <+: c.minuteText := by
  have hour : c.cutText .hour <+: c.minuteText := List.prefix_append _ _
  have day : c.cutText .day <+: c.minuteText := (List.prefix_append _ _).trans hour
  have month : c.cutText .month <+: c.minuteText := (List.prefix_append _ _).trans day
  have year : c.cutText .year <+: c.minuteText := (List.prefix_append _ _).trans month
  cases g with
  | year => exact year
  | month => exact month
  | day => exact day
  | hour => exact hour
  | minute => exact List.prefix_rfl

theorem dash_mem_cutText (c : Civil) {g : Grain} (hg : g ≠ .year) : '-' ∈ c.cutText g := by
  cases g with
  | year => exact absurd rfl hg
  | month => simp [cutText]
  | day => simp [cutText, Date.isoText]
  | hour => simp [cutText, Date.isoText]
  | minute => simp [cutText, minuteText, Date.isoText]

theorem cutText_startOf_year (c : Civil) :
    (c.startOf .year).cutText .day = c.cutText .year ++ ['-', '0', '1', '-', '0', '1'] := by
  have hone : twoDigits 1 = ['0', '1'] := rfl
  simp [cutText, Civil.startOf, Date.isoText, Date.yearText, hone]

theorem cutText_startOf_month (c : Civil) :
    (c.startOf .month).cutText .day = c.cutText .month ++ ['-', '0', '1'] := by
  have hone : twoDigits 1 = ['0', '1'] := rfl
  simp [cutText, Civil.startOf, Date.isoText, Date.yearText, hone]

theorem cutText_startOf_hour (c : Civil) :
    (c.startOf .hour).cutText .minute = c.cutText .hour ++ [':', '0', '0'] := by
  have hzero : twoDigits 0 = ['0', '0'] := rfl
  simp [cutText, Civil.startOf, minuteText, hzero]

section

variable {c : Civil} (hc : c.IsCommon)

include hc

theorem IsCommon.startOf (g : Grain) : (c.startOf g).IsCommon where
  toIsValid := hc.toIsValid.startOf g
  year_nonneg := by
    rw [year_startOf]
    exact hc.year_nonneg
  year_le := by
    rw [year_startOf]
    exact hc.year_le

theorem length_cutText (g : Grain) : (c.cutText g).length = g.width := by
  have hyear := hc.digits_year.length_eq
  have hmonth := hc.digits_month.length_eq
  have hday := hc.digits_day.length_eq
  have hhour := hc.digits_hour.length_eq
  have hminute := hc.digits_minute.length_eq
  cases g <;>
    simp [cutText, minuteText, Date.isoText, Grain.width, hyear, hmonth, hday, hhour, hminute]

theorem take_minuteText (g : Grain) : c.minuteText.take g.width = c.cutText g := by
  rw [← length_cutText hc g]
  exact (List.prefix_iff_eq_take.1 (cutText_isPrefix c g)).symm

theorem mem_minuteText {d : Char} (hd : d ∈ c.minuteText) :
    d.isDigit = true ∨ d = '-' ∨ d = 'T' ∨ d = ':' := by
  have hyear := hc.digits_year.isDigit d
  have hmonth := hc.digits_month.isDigit d
  have hday := hc.digits_day.isDigit d
  have hhour := hc.digits_hour.isDigit d
  have hminute := hc.digits_minute.isDigit d
  simp only [minuteText, Date.isoText, List.mem_append, List.mem_cons] at hd
  grind

theorem mem_cutText {g : Grain} {d : Char} (hd : d ∈ c.cutText g) :
    d.isDigit = true ∨ d = '-' ∨ d = 'T' ∨ d = ':' :=
  mem_minuteText hc ((cutText_isPrefix c g).subset hd)

theorem isBlank_eq_false_of_mem_cutText {g : Grain} {d : Char} (hd : d ∈ c.cutText g) :
    Text.isBlank d = false := by
  rcases mem_cutText hc hd with hdigit | rfl | rfl | rfl
  · exact Text.isBlank_eq_false_of_isDigit hdigit
  · rfl
  · rfl
  · rfl

theorem trim_cutText (g : Grain) : Text.trim (c.cutText g) = c.cutText g := by
  apply Text.trim_eq_self
  · intro d hd
    exact isBlank_eq_false_of_mem_cutText hc (List.mem_of_mem_head? hd)
  · intro d hd
    exact isBlank_eq_false_of_mem_cutText hc (List.mem_of_getLast? hd)

theorem size_cutText (g : Grain) : Utf8.size (c.cutText g) = g.width := by
  have hnarrow : ∀ d ∈ c.cutText g, d.utf8Size = 1 := by
    intro d hd
    rcases mem_cutText hc hd with hdigit | rfl | rfl | rfl
    · exact utf8Size_of_isDigit hdigit
    · rfl
    · rfl
    · rfl
  rw [size_of_narrow hnarrow, length_cutText hc]

theorem exists_cutText_eq_cons (g : Grain) :
    ∃ d rest, c.cutText g = d :: rest ∧ d.isDigit = true := by
  obtain ⟨d, ds, hyear⟩ := List.exists_cons_of_ne_nil (hc.digits_year.ne_nil (by decide))
  have hdigit : d.isDigit = true := by
    apply hc.digits_year.isDigit
    rw [hyear]
    exact List.mem_cons_self
  have hfront : c.date.yearText <+: c.cutText g := by
    apply List.prefix_of_prefix_length_le (cutText_isPrefix c .year) (cutText_isPrefix c g)
    rw [length_cutText hc, length_cutText hc]
    cases g <;> decide
  obtain ⟨rest, hrest⟩ := hfront
  exact ⟨d, ds ++ rest, by rw [← hrest, hyear, List.cons_append], hdigit⟩

end

end Civil

namespace Timestamp

theorem signed?_cons_of_isDigit {c : Char} (hc : c.isDigit = true) (rest : List Char) :
    signed? (c :: rest) = (natural? (c :: rest)).map Int.ofNat := by
  unfold signed?
  split
  · rename_i heq
    cases heq
    cases hc
  · rename_i heq
    cases heq
    cases hc
  · rfl

/-- A sign stands before its digits. -/
theorem integer?_eq_none_of_dash {c : Char} {rest : List Char} (hc : c.isDigit = true)
    (hdash : '-' ∈ c :: rest) : integer? (c :: rest) = none := by
  rw [integer?, int64?, signed?_cons_of_isDigit hc, natural?_eq_none rfl hdash]
  rfl

/-- Numbers of four digits are too small for timestamps. -/
theorem integer?_eq_none_of_digits {n : Nat} {digits : List Char} (h : Digits 4 n digits) :
    integer? digits = none := by
  have hsmall : n < 10 ^ 4 := by
    rw [← h.value_eq, ← h.length_eq]
    exact value_lt h.isDigit
  have hne := h.ne_nil (by decide)
  have hnatural := natural?_eq_some_iff.2 ⟨hne, h.isDigit, h.value_eq⟩
  obtain ⟨c, rest, rfl⟩ := List.exists_cons_of_ne_nil hne
  have hinteger : int64? (c :: rest) = some (Int64.ofInt n) := by
    rw [int64?, signed?_cons_of_isDigit (h.isDigit c List.mem_cons_self), hnatural]
    simp only [Option.map_some, Int.ofNat_eq_natCast]
    rw [if_pos (by omega)]
  have hvalue : (Int64.ofInt n).toInt = n := Int64.toInt_ofInt_of_le (by omega) (by omega)
  rw [integer?, hinteger, Option.bind_some, hvalue, ofInteger?, greatestSecond]
  rw [if_neg (by omega), if_neg (by omega), if_neg (by omega)]

theorem length_of_takeExactly {width n : Nat} {cs rest : List Char}
    (h : takeExactly width cs = some (n, rest)) : cs.length = rest.length + width := by
  obtain rfl := eq_drop_of_takeExactly h
  unfold takeExactly at h
  dsimp only at h
  split at h
  · rename_i hdigits
    have hlength := hdigits.1
    rw [List.length_take] at hlength
    rw [List.length_drop]
    omega
  · cases h

theorem length_of_takeChar {c : Char} {cs rest : List Char} (h : takeChar c cs = some rest) :
    cs.length = rest.length + 1 := by
  cases cs with
  | nil => cases h
  | cons d ds =>
    simp only [takeChar, Option.ite_none_right_eq_some, Option.some.injEq] at h
    rw [List.length_cons, h.2]

theorem length_of_takeTimeMark {cs rest : List Char} (h : Rfc3339.takeTimeMark cs = some rest) :
    cs.length = rest.length + 1 := by
  unfold Rfc3339.takeTimeMark at h
  split at h
  case h_4 => cases h
  all_goals
    cases h
    rfl

/-- A timestamp of RFC 3339 goes on to its second. -/
theorem Rfc3339.length_of_read? {cs : List Char} {t : Instant} (h : read? cs = some t) :
    19 ≤ cs.length := by
  rw [read?] at h
  obtain ⟨⟨_, _⟩, hyear, h⟩ := Option.bind_eq_some_iff.1 h
  obtain ⟨_, hdash, h⟩ := Option.bind_eq_some_iff.1 h
  obtain ⟨⟨_, _⟩, hmonth, h⟩ := Option.bind_eq_some_iff.1 h
  obtain ⟨_, hdash', h⟩ := Option.bind_eq_some_iff.1 h
  obtain ⟨⟨_, _⟩, hday, h⟩ := Option.bind_eq_some_iff.1 h
  obtain ⟨_, hmark, h⟩ := Option.bind_eq_some_iff.1 h
  obtain ⟨⟨_, _⟩, hhour, h⟩ := Option.bind_eq_some_iff.1 h
  obtain ⟨_, hcolon, h⟩ := Option.bind_eq_some_iff.1 h
  obtain ⟨⟨_, _⟩, hminute, h⟩ := Option.bind_eq_some_iff.1 h
  obtain ⟨_, hcolon', h⟩ := Option.bind_eq_some_iff.1 h
  obtain ⟨⟨_, _⟩, hsecond, -⟩ := Option.bind_eq_some_iff.1 h
  have := length_of_takeExactly hyear
  have := length_of_takeChar hdash
  have := length_of_takeExactly hmonth
  have := length_of_takeChar hdash'
  have := length_of_takeExactly hday
  have := length_of_takeTimeMark hmark
  have := length_of_takeExactly hhour
  have := length_of_takeChar hcolon
  have := length_of_takeExactly hminute
  have := length_of_takeChar hcolon'
  have := length_of_takeExactly hsecond
  omega

section

variable {c : Civil} (hc : c.IsCommon)

include hc

theorem integer?_cutText_eq_none (g : Grain) : integer? (c.cutText g) = none := by
  by_cases hg : g = .year
  · subst hg
    exact integer?_eq_none_of_digits hc.digits_year
  · have hdash := c.dash_mem_cutText hg
    obtain ⟨d, rest, htext, hdigit⟩ := Civil.exists_cutText_eq_cons hc g
    rw [htext] at hdash ⊢
    exact integer?_eq_none_of_dash hdigit hdash

theorem not_mem_cutText {d : Char} (hd : d = ' ' ∨ d = 'Z') (g : Grain) : d ∉ c.cutText g := by
  intro hmem
  have hkind := Civil.mem_cutText hc hmem
  rcases hd with rfl | rfl
  · revert hkind
    decide
  · revert hkind
    decide

theorem rfc3339?_cutText_eq_none (g : Grain) : Rfc3339.read? (c.cutText g) = none := by
  rw [Option.eq_none_iff_forall_ne_some]
  intro t ht
  have hlong := Rfc3339.length_of_read? ht
  rw [Civil.length_cutText hc] at hlong
  cases g <;> simp [Grain.width] at hlong

/-- A timestamp that is cut off has no other form. -/
theorem refuse_cutText (g : Grain) : Refuse forms.dropLast (c.cutText g) := by
  have hinteger := integer?_cutText_eq_none hc g
  have hcanonical := canonical?_eq_none (not_mem_cutText hc (Or.inr rfl) g)
  have hrfc := rfc3339?_cutText_eq_none hc g
  have hblank := not_mem_cutText hc (Or.inl rfl) g
  obtain ⟨d, rest, htext, hdigit⟩ := Civil.exists_cutText_eq_cons hc g
  have hletter := isAlpha_eq_false_of_isDigit hdigit
  rw [htext] at hinteger hcanonical hrfc hblank ⊢
  simp [Refuse, forms, hinteger, hcanonical, hrfc, rfc1123?_eq_none hletter hblank,
    zoneYearLast?_eq_none hblank, Pattern.yearLast, Pattern.offsetYearLast,
    read?_weekdayName_eq_none hletter]

end

/-- What is not given of a time is zero. -/
theorem Fields.instant?_eq_filled (f : Fields) :
    f.instant? = Fields.instant? { f with
      hour := some (f.hour.getD 0), minute := some (f.minute.getD 0),
      second := some (f.second.getD 0) } :=
  rfl

namespace Pattern

variable {c : Civil} (hc : c.IsCommon)

include hc

theorem fields?_isoDate {rest : List Char} (hrest : ∀ d ∈ rest.head?, d.isDigit = false) :
    fields? isoDate {} (c.date.isoText ++ rest) =
      some ({ year := some c.date.year, month := some c.date.month, day := some c.date.day },
        rest) := by
  have hyear (rest : List Char) :=
    takeYear_digits hc.digits_year (isDigit_head?_cons (c := '-') rfl rest)
  have hmonth := (isShort_of_pair hc.digits_month).before (c := '-') rfl
  have hday := isShort_of_pair hc.digits_day rest hrest
  simp only [isoDate, fields?, Directive.read?, Date.isoText, List.append_assoc, List.cons_append,
    hyear, hmonth, hday, takeChar_self, Int.toNat_of_nonneg hc.year_nonneg, Option.map_some,
    Option.bind_some]

theorem fields?_isoMinute :
    fields? isoMinute {} c.minuteText =
      some ({ year := some c.date.year, month := some c.date.month, day := some c.date.day,
              hour := some c.hour, minute := some c.minute }, []) := by
  have hdate := fields?_isoDate hc
    (isDigit_head?_cons (c := 'T') rfl (twoDigits c.hour ++ ':' :: twoDigits c.minute))
  have hhour := (isShort_of_pair hc.digits_hour).before (c := ':') rfl
  have hminute := isShort_of_pair hc.digits_minute [] isDigit_head?_nil
  rw [List.append_nil] at hminute
  rw [isoMinute, Civil.minuteText, List.append_assoc, List.cons_append, fields?_append hdate]
  simp only [fields?, Directive.read?, hhour, hminute, takeChar_self, Option.map_some,
    Option.bind_some]

theorem read?_isoDate : isoDate.read? (c.cutText .day) = some ((c.startOf .day).instant 0) := by
  have hread := fields?_isoDate hc isDigit_head?_nil
  rw [List.append_nil] at hread
  rw [Civil.cutText, read?_eq_instant? hread, Fields.instant?_eq_filled]
  exact Fields.instant?_eq ⟨rfl, rfl, rfl, rfl, rfl, rfl, Or.inl ⟨rfl, rfl⟩⟩
    (hc.toIsValid.startOf .day) hc.firstYear_lt hc.lt_lastYear (Nat.zero_lt_succ _)

theorem read?_isoMinute :
    isoMinute.read? (c.cutText .minute) = some ((c.startOf .minute).instant 0) := by
  rw [Civil.cutText, read?_eq_instant? (fields?_isoMinute hc), Fields.instant?_eq_filled]
  exact Fields.instant?_eq ⟨rfl, rfl, rfl, rfl, rfl, rfl, Or.inl ⟨rfl, rfl⟩⟩
    (hc.toIsValid.startOf .minute) hc.firstYear_lt hc.lt_lastYear (Nat.zero_lt_succ _)

end Pattern

theorem truncated?_cutText {c : Civil} (hc : c.IsCommon) (g : Grain) :
    truncated? (c.cutText g) = some ((c.startOf g).instant 0) := by
  have hstart := hc.startOf g
  rw [truncated?, Civil.size_cutText hc]
  cases g with
  | year =>
    simp only [Grain.width, ← Civil.cutText_startOf_year]
    exact Pattern.read?_isoDate hstart
  | month =>
    simp only [Grain.width, ← Civil.cutText_startOf_month]
    exact Pattern.read?_isoDate hstart
  | day => exact Pattern.read?_isoDate hc
  | hour =>
    simp only [Grain.width, ← Civil.cutText_startOf_hour]
    exact Pattern.read?_isoMinute hstart
  | minute => exact Pattern.read?_isoMinute hc

theorem ofTrimmed?_cutText {c : Civil} (hc : c.IsCommon) (g : Grain) :
    ofTrimmed? (c.cutText g) = some ((c.startOf g).instant 0) := by
  have hforms : forms = forms.dropLast ++ truncated? :: [] := rfl
  exact ofTrimmed?_of_form hforms (refuse_cutText hc g) (truncated?_cutText hc g)

/-- A timestamp that is cut off is the instant rounded down to the unit at its end; it is no number
and has no other form of timestamps. -/
theorem readInstant_take {t : Instant} (hlow : 0 ≤ t.civil.date.year)
    (hhigh : t.civil.date.year ≤ 9999) (g : Grain) :
    readInstant (.ofList (t.civil.minuteText.take g.width)) = .ok (t.startOf g) ∧
      t.IsRoundedDown g (t.startOf g) ∧
      Refuse forms.dropLast (t.civil.minuteText.take g.width) := by
  have hvalid : t.civil.IsValid :=
    Instant.civil_isValid (hlow.trans' (by decide)) (hhigh.trans (by decide))
  have hc : t.civil.IsCommon := ⟨hvalid, hlow, hhigh⟩
  rw [Civil.take_minuteText hc]
  refine ⟨?_, ?_, ?_⟩
  · exact readInstant_ofList (Civil.trim_cutText hc g) (ofTrimmed?_cutText hc g)
  · exact Instant.isRoundedDown_startOf hvalid g
  · exact refuse_cutText hc g

/-- The leap second of a leap day, cut off everywhere; the year zero is no epoch. -/
theorem readInstant_take_of_leap_day :
    ∃ t : Instant, t.civil = ⟨⟨0, 2, 29⟩, 23, 59, 59, 1_500_000_000⟩ ∧
      0 ≤ t.civil.date.year ∧ t.civil.date.year ≤ 9999 ∧
      readInstant "0000-02-29T23:59" = .ok ⟨-62162035260, 0⟩ ∧
      readInstant "0000-02-29T23" = .ok ⟨-62162038800, 0⟩ ∧
      readInstant "0000-02-29" = .ok ⟨-62162121600, 0⟩ ∧
      readInstant "0000-02" = .ok ⟨-62164540800, 0⟩ ∧
      readInstant "0000" = .ok ⟨-62167219200, 0⟩ ∧
      t.IsRoundedDown .year ⟨-62167219200, 0⟩ := by
  obtain ⟨t, hcivil⟩ : ∃ t : Instant, t.civil = ⟨⟨0, 2, 29⟩, 23, 59, 59, 1_500_000_000⟩ :=
    ⟨⟨-62162035201, 1_500_000_000⟩, by rfl⟩
  have hlow : 0 ≤ t.civil.date.year := by simp [hcivil]
  have hhigh : t.civil.date.year ≤ 9999 := by simp [hcivil]
  have hread := readInstant_take hlow hhigh
  simp only [Instant.startOf, hcivil] at hread
  exact ⟨t, hcivil, hlow, hhigh, (hread .minute).1, (hread .hour).1, (hread .day).1,
    (hread .month).1, (hread .year).1, (hread .year).2.1⟩

end Timestamp

end SeriesGateway
