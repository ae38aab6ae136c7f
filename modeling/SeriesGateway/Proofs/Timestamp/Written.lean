import SeriesGateway.Proofs.Timestamp.Canonical

namespace SeriesGateway

open Numeral

def weekdayTexts : List String := ["Sun", "Mon", "Tue", "Wed", "Thu", "Fri", "Sat"]

def monthTexts : List String :=
  ["Jan", "Feb", "Mar", "Apr", "May", "Jun", "Jul", "Aug", "Sep", "Oct", "Nov", "Dec"]

/-- The hours and minutes of an offset behind its sign. -/
def offsetText (colon : List Char) (offset : Int) : List Char :=
  (if offset < 0 then '-' else '+') :: twoDigits (offset.natAbs / 60) ++ colon ++
    twoDigits (offset.natAbs % 60)

namespace Date

def weekdayText (d : Date) : List Char :=
  (weekdayTexts.getD d.weekday "").toList

def monthText (d : Date) : List Char :=
  (monthTexts.getD (d.month - 1) "").toList

def yearText (d : Date) : List Char :=
  padded 4 d.year.toNat

/-- A day of the month filled up with a blank. -/
def spacedDay (d : Date) : List Char :=
  if d.day < 10 then ' ' :: text d.day else text d.day

end Date

namespace Civil

def clockText (c : Civil) : List Char :=
  twoDigits c.hour ++ ':' :: twoDigits c.minute ++ ':' :: twoDigits c.second

/-- The parts of `YYYY-MM-DDTHH:MM:SS`, and what stands behind the second. -/
def parts (c : Civil) (tail : List Char) : Timestamp.Canonical.Parts where
  year := c.date.yearText
  month := twoDigits c.date.month
  day := twoDigits c.date.day
  hour := twoDigits c.hour
  minute := twoDigits c.minute
  second := twoDigits c.second
  tail := tail

/-- `2012-08-28T21:24:35Z` -/
def canonicalText (c : Civil) : List Char :=
  (c.parts ['Z']).text

/-- `2012-08-28T21:24:35+02:00` -/
def rfc3339Text (c : Civil) (offset : Int) : List Char :=
  (c.parts (offsetText [':'] offset)).text

/-- `Tue, 28 Aug 2012 21:24:35` -/
def rfc1123Stem (c : Civil) : List Char :=
  c.date.weekdayText ++ ',' :: ' ' :: twoDigits c.date.day ++ ' ' :: c.date.monthText ++
    ' ' :: c.date.yearText ++ ' ' :: c.clockText

/-- `Tue, 28 Aug 2012 21:24:35 UTC`, and other zones. -/
def rfc1123Text (c : Civil) (zone : List Char) : List Char :=
  c.rfc1123Stem ++ ' ' :: zone

/-- `Tue Aug 28 21:24:35`, by the spelling of the day. -/
def stampText (c : Civil) (day : List Char) : List Char :=
  c.date.weekdayText ++ ' ' :: c.date.monthText ++ ' ' :: day ++ ' ' :: c.clockText

/-- `Tue Aug 28 21:24:35 +0200 2012` -/
def rubyText (c : Civil) (offset : Int) : List Char :=
  c.stampText (twoDigits c.date.day) ++ ' ' :: offsetText [] offset ++ ' ' :: c.date.yearText

/-- `Tue Aug  7 21:24:35 UTC 2012` -/
def unixText (c : Civil) : List Char :=
  c.stampText c.date.spacedDay ++ ' ' :: ['U', 'T', 'C'] ++ ' ' :: c.date.yearText

/-- `Tue Aug  7 21:24:35 2012` -/
def ansicText (c : Civil) : List Char :=
  c.stampText c.date.spacedDay ++ ' ' :: c.date.yearText

end Civil

/-- A civil time whose year has four digits. -/
structure Civil.IsCommon (c : Civil) : Prop extends c.IsValid where
  year_nonneg : 0 ≤ c.date.year
  year_le : c.date.year ≤ 9999

namespace Civil.IsCommon

open Calendar

variable {c : Civil} (h : c.IsCommon)

include h

theorem firstYear_lt : firstYear < c.date.year :=
  lt_of_lt_of_le (by decide) h.year_nonneg

theorem lt_lastYear : c.date.year < lastYear :=
  lt_of_le_of_lt h.year_le (by decide)

theorem second_lt : c.second < 100 :=
  h.second.trans (by decide)

theorem digits_year : Digits 4 c.date.year.toNat c.date.yearText := by
  have hle := h.year_le
  exact digits_padded (by decide) (by omega)

theorem digits_month : Digits 2 c.date.month (twoDigits c.date.month) :=
  digits_twoDigits ((Date.month_le h.date).trans_lt (by decide))

theorem digits_day : Digits 2 c.date.day (twoDigits c.date.day) :=
  digits_twoDigits ((Date.day_le h.date).trans_lt (by decide))

theorem digits_hour : Digits 2 c.hour (twoDigits c.hour) :=
  digits_twoDigits (h.hour.trans (by decide))

theorem digits_minute : Digits 2 c.minute (twoDigits c.minute) :=
  digits_twoDigits (h.minute.trans (by decide))

theorem digits_second : Digits 2 c.second (twoDigits c.second) :=
  digits_twoDigits h.second_lt

/-- The parts spell the time, with any second of two digits. -/
theorem spells_parts {second nanos : Nat} (hsecond : second < 100)
    {behind : Nat → List Char → Prop} {tail : List Char} (htail : behind nanos tail) :
    ({ c with second := second, nanos := nanos }.parts tail).Spells Digits behind
      { c with second := second, nanos := nanos } :=
  ⟨h.year_nonneg, h.digits_year, h.digits_month, h.digits_day, h.digits_hour, h.digits_minute,
    digits_twoDigits hsecond, htail⟩

end Civil.IsCommon

end SeriesGateway
