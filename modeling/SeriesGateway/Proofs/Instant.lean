import SeriesGateway.Instant
import SeriesGateway.Proofs.Calendar

namespace SeriesGateway

/-- A date of the calendar and a time of day. The part of the second is left open. -/
structure Civil.IsValid (c : Civil) : Prop where
  date : c.date.isValid = true
  hour : c.hour < 24
  minute : c.minute < 60
  second : c.second < 60

instance (c : Civil) : Decidable c.IsValid :=
  decidable_of_iff (c.date.isValid = true ∧ c.hour < 24 ∧ c.minute < 60 ∧ c.second < 60)
    ⟨fun ⟨date, hour, minute, second⟩ => ⟨date, hour, minute, second⟩,
      fun h => ⟨h.date, h.hour, h.minute, h.second⟩⟩

open Calendar

theorem Civil.IsValid.inCalendar {c : Civil} (h : c.IsValid) (hfirst : firstYear < c.date.year)
    (hlast : c.date.year < lastYear) {offset : Int} (hoffset : offset.natAbs < 86400) :
    (c.instant offset).inCalendar = true := by
  obtain ⟨hlow, hhigh⟩ := Date.dayNumber_bounds h.date
  have hbefore := newYear_mono (Int.add_one_le_of_lt hfirst)
  have hbehind := newYear_mono (Int.add_one_le_of_lt hlast)
  have hstart := newYear_succ firstYear
  have hend := newYear_succ lastYear
  have hfull (leap : Bool) : 365 ≤ yearLength leap := by
    cases leap <;> decide
  have hfirstFull := hfull (isLeap firstYear)
  have hlastFull := hfull (isLeap lastYear)
  have hhour := h.hour
  have hminute := h.minute
  have hsecond := h.second
  simp only [Instant.inCalendar, Civil.instant, Bool.and_eq_true]
  exact ⟨decide_eq_true (by omega), decide_eq_true (by omega)⟩

/-- An instant has no other civil time without offset than the one it was made of. -/
theorem Civil.IsValid.civil_instant {c : Civil} (h : c.IsValid) : (c.instant 0).civil = c := by
  have hhour := h.hour
  have hminute := h.minute
  have hsecond := h.second
  have hdate := Date.ofDayNumber_dayNumber h.date
  obtain ⟨date, hour, minute, second, nanos⟩ := c
  simp only at hhour hminute hsecond hdate
  have hday : (date.dayNumber * 86400 + hour * 3600 + minute * 60 + second - 0) / 86400 =
      date.dayNumber := by omega
  have hrest : ((date.dayNumber * 86400 + hour * 3600 + minute * 60 + second - 0) % 86400).toNat =
      hour * 3600 + minute * 60 + second := by omega
  simp only [Instant.civil, Civil.instant, hday, hrest, hdate, Civil.mk.injEq, true_and, and_true]
  omega

namespace Instant

theorem instant_civil (t : Instant) : t.civil.instant 0 = t := by
  have hday := (Date.ofDayNumber_spec (t.seconds / 86400)).1
  obtain ⟨seconds, nanos⟩ := t
  simp only [civil, Civil.instant, hday, mk.injEq, and_true]
  omega

theorem second_civil_lt (t : Instant) : t.civil.second < 60 :=
  Nat.mod_lt _ (by decide)

theorem civil_isValid {t : Instant} (hfirst : firstYear ≤ t.civil.date.year)
    (hlast : t.civil.date.year ≤ lastYear) : t.civil.IsValid where
  date := (Date.ofDayNumber_spec _).2 hfirst hlast
  hour := by
    simp only [civil]
    omega
  minute := by
    simp only [civil]
    omega
  second := by
    simp only [civil]
    omega

end Instant

end SeriesGateway
