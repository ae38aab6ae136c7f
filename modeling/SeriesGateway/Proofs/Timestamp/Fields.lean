import SeriesGateway.Proofs.Instant
import SeriesGateway.Proofs.Text.Digits
import SeriesGateway.Proofs.Timestamp.Forms

namespace SeriesGateway.Timestamp

open Numeral

/-- The fields of a civil time in full. The day of the week may be missing, and second 60 is the
leap second behind second 59. -/
structure Fields.Describe (f : Fields) (c : Civil) : Prop where
  year : f.year = some c.date.year
  month : f.month = some c.date.month
  day : f.day = some c.date.day
  weekday : f.weekday.getD c.date.weekday = c.date.weekday
  hour : f.hour = some c.hour
  minute : f.minute = some c.minute
  second : f.second = some c.second ∧ f.nanos.getD 0 = c.nanos ∨
    f.second = some 60 ∧ c.second = 59 ∧ 1_000_000_000 + f.nanos.getD 0 = c.nanos

namespace Fields

theorem date?_eq {f : Fields} {c : Civil} (h : f.Describe c) (hdate : c.date.isValid = true) :
    f.date? = some c.date := by
  simp [date?, h.year, h.month, h.day, h.weekday, Date.of?_self hdate]

theorem civil?_eq {f : Fields} {c : Civil} (h : f.Describe c) (hc : c.IsValid) :
    f.civil? = some c := by
  have hhour := hc.hour
  have hminute := hc.minute
  have hsecond := hc.second
  rw [civil?, date?_eq h hc.date]
  simp only [Option.bind_eq_bind, Option.bind_some, h.hour, h.minute, Option.getD_some]
  rcases h.second with ⟨hs, hnanos⟩ | ⟨hs, hlast, hnanos⟩
  · rw [hs, Option.getD_some, hnanos, if_neg (by omega), if_neg (by omega)]
  · rw [hs, Option.getD_some, hnanos, if_neg (by omega), if_pos rfl, ← hlast]

theorem instant?_eq {f : Fields} {c : Civil} (h : f.Describe c) (hc : c.IsValid)
    (hfirst : Calendar.firstYear < c.date.year) (hlast : c.date.year < Calendar.lastYear)
    (hoffset : (f.offset.getD 0).natAbs < 86400) :
    f.instant? = some (c.instant (f.offset.getD 0)) := by
  rw [instant?, civil?_eq h hc]
  simp only [Option.bind_eq_bind, Option.bind_some, hoffset, hc.inCalendar hfirst hlast hoffset,
    and_self, if_true]

end Fields

theorem takeExactly_digits {width n : Nat} {digits : List Char} (h : Digits width n digits)
    (rest : List Char) : takeExactly width (digits ++ rest) = some (n, rest) := by
  have htake : (digits ++ rest).take width = digits := List.take_left' h.length_eq
  have hdrop : (digits ++ rest).drop width = rest := List.drop_left' h.length_eq
  have hall : digits.all Char.isDigit = true := List.all_eq_true.2 h.isDigit
  simp only [takeExactly, htake, hdrop, h.length_eq, hall, h.value_eq, and_self, if_true]

theorem takeExactly_eq_none {c : Char} (hc : c.isDigit = false) (width : Nat) (rest : List Char) :
    takeExactly (width + 1) (c :: rest) = none := by
  simp [takeExactly, hc]

theorem takeChar_self (c : Char) (rest : List Char) : takeChar c (c :: rest) = some rest :=
  if_pos rfl

end SeriesGateway.Timestamp
