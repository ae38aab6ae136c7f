import SeriesGateway.Proofs.Instant

namespace SeriesGateway

open Calendar

/-- The units that a date and time can be cut off at. -/
inductive Grain where
  | year
  | month
  | day
  | hour
  | minute
  deriving DecidableEq, Repr

/-- The first moment of the unit that a civil time lies in. -/
def Civil.startOf (c : Civil) : Grain → Civil
  | .year => ⟨⟨c.date.year, 1, 1⟩, 0, 0, 0, 0⟩
  | .month => ⟨⟨c.date.year, c.date.month, 1⟩, 0, 0, 0, 0⟩
  | .day => ⟨c.date, 0, 0, 0, 0⟩
  | .hour => ⟨c.date, c.hour, 0, 0, 0⟩
  | .minute => ⟨c.date, c.hour, c.minute, 0, 0⟩

theorem Civil.startOf_startOf (c : Civil) (g : Grain) : (c.startOf g).startOf g = c.startOf g := by
  cases g <;> rfl

theorem Civil.year_startOf (c : Civil) (g : Grain) : (c.startOf g).date.year = c.date.year := by
  cases g <;> rfl

namespace Date

theorem isValid_of_le {d : Date} (h : d.isValid = true) {day : Nat} (hpos : 1 ≤ day)
    (hle : day ≤ d.day) : (Date.mk d.year d.month day).isValid = true := by
  obtain ⟨hyear, hmonth, -, length, hlength, hday⟩ := isValid_iff.1 h
  exact isValid_iff.2 ⟨hyear, hmonth, hpos, length, hlength, hle.trans hday⟩

theorem dayNumber_first (d : Date) :
    d.dayNumber = dayNumber ⟨d.year, d.month, 1⟩ + d.day - 1 := by
  simp only [dayNumber]
  omega

/-- From the first of a month to a date in it the month does not change. -/
theorem exists_ofDayNumber_eq {d : Date} (h : d.isValid = true) {n : Int}
    (hlow : dayNumber ⟨d.year, d.month, 1⟩ ≤ n) (hhigh : n ≤ d.dayNumber) :
    ∃ day, ofDayNumber n = ⟨d.year, d.month, day⟩ := by
  have hfirst := dayNumber_first d
  obtain ⟨k, hk⟩ := Int.eq_ofNat_of_zero_le (show 0 ≤ n - dayNumber ⟨d.year, d.month, 1⟩ by omega)
  have hvalid := isValid_of_le h (Nat.le_add_left 1 k) (show k + 1 ≤ d.day by omega)
  have hn : dayNumber ⟨d.year, d.month, k + 1⟩ = n := by
    rw [dayNumber_first]
    simp only
    omega
  exact ⟨k + 1, by rw [← hn, ofDayNumber_dayNumber hvalid]⟩

end Date

/-- A unit starts with a time of the calendar. -/
theorem Civil.IsValid.startOf {c : Civil} (h : c.IsValid) (g : Grain) : (c.startOf g).IsValid := by
  obtain ⟨hyear, -, hday, -⟩ := Date.isValid_iff.1 h.date
  have hzero {n : Nat} : 0 < n + 1 := Nat.zero_lt_succ n
  cases g with
  | year => exact ⟨Date.isValid_newYear hyear, hzero, hzero, hzero⟩
  | month => exact ⟨Date.isValid_of_le h.date le_rfl hday, hzero, hzero, hzero⟩
  | day => exact ⟨h.date, hzero, hzero, hzero⟩
  | hour => exact ⟨h.date, h.hour, hzero, hzero⟩
  | minute => exact ⟨h.date, h.hour, h.minute, hzero⟩

namespace Instant

/-- Whether a unit begins at an instant. -/
def Starts (t : Instant) (g : Grain) : Prop :=
  t.civil = t.civil.startOf g

/-- Instants in their order. A leap second comes behind the second before it. -/
def NotAfter (s t : Instant) : Prop :=
  s.seconds < t.seconds ∨ s.seconds = t.seconds ∧ s.nanos ≤ t.nanos

theorem NotAfter.seconds_le {s t : Instant} (h : s.NotAfter t) : s.seconds ≤ t.seconds := by
  rcases h with hlt | ⟨heq, -⟩
  · exact hlt.le
  · exact heq.le

/-- The last start of a unit up to an instant. -/
structure IsRoundedDown (t : Instant) (g : Grain) (u : Instant) : Prop where
  starts : u.Starts g
  notAfter : u.NotAfter t
  last : ∀ s : Instant, s.Starts g → s.NotAfter t → s.NotAfter u

def startOf (t : Instant) (g : Grain) : Instant :=
  (t.civil.startOf g).instant 0

theorem nanos_startOf (t : Instant) (g : Grain) : (t.startOf g).nanos = 0 := by
  cases g <;> rfl

section

variable {s t : Instant} (ht : t.civil.IsValid)

theorem year_civil (t : Instant) : t.civil.date.year = yearOf (t.seconds / 86400) :=
  rfl

theorem dayNumber_civil (t : Instant) : t.civil.date.dayNumber = t.seconds / 86400 :=
  (Date.ofDayNumber_spec _).1

include ht

theorem seconds_startOf_le (g : Grain) : (t.startOf g).seconds ≤ t.seconds := by
  have hday : t.civil.date.dayNumber = t.seconds / 86400 := t.dayNumber_civil
  cases g with
  | year =>
    have hbounds := (Date.dayNumber_bounds ht.date).1
    simp only [startOf, Civil.startOf, Civil.instant, Date.dayNumber_newYear]
    omega
  | month =>
    have hfirst := Date.dayNumber_first t.civil.date
    have hpos := (Date.isValid_iff.1 ht.date).2.2.1
    simp only [startOf, Civil.startOf, Civil.instant]
    omega
  | day =>
    simp only [startOf, Civil.startOf, Civil.instant]
    omega
  | hour =>
    simp only [startOf, Civil.startOf, Civil.instant, hday]
    simp only [civil]
    omega
  | minute =>
    simp only [startOf, Civil.startOf, Civil.instant, hday]
    simp only [civil]
    omega

/-- From the start of a unit to an instant in it the unit does not change. -/
theorem civil_startOf_eq {g : Grain} (hlow : (t.startOf g).seconds ≤ s.seconds)
    (hhigh : s.seconds ≤ t.seconds) : s.civil.startOf g = t.civil.startOf g := by
  have hday := t.dayNumber_civil
  cases g with
  | year =>
    have hbounds := (Date.dayNumber_bounds ht.date).2
    simp only [startOf, Civil.startOf, Civil.instant, Date.dayNumber_newYear] at hlow
    have hyear : yearOf (s.seconds / 86400) = t.civil.date.year :=
      yearOf_eq (by omega) (by omega)
    rw [Civil.startOf, Civil.startOf, year_civil, hyear]
  | month =>
    simp only [startOf, Civil.startOf, Civil.instant] at hlow
    obtain ⟨day, hdate⟩ : ∃ day, s.civil.date = ⟨t.civil.date.year, t.civil.date.month, day⟩ :=
      Date.exists_ofDayNumber_eq (n := s.seconds / 86400) ht.date (by omega) (by omega)
    rw [Civil.startOf, Civil.startOf, hdate]
  | day =>
    simp only [startOf, Civil.startOf, Civil.instant] at hlow
    have hsame : s.seconds / 86400 = t.seconds / 86400 := by omega
    simp only [Civil.startOf, civil, hsame]
  | hour =>
    simp only [startOf, Civil.startOf, Civil.instant, hday] at hlow
    simp only [civil] at hlow
    have hsame : s.seconds / 86400 = t.seconds / 86400 := by omega
    have hhour : (s.seconds % 86400).toNat / 3600 = (t.seconds % 86400).toNat / 3600 := by omega
    simp only [Civil.startOf, civil, hsame, hhour]
  | minute =>
    simp only [startOf, Civil.startOf, Civil.instant, hday] at hlow
    simp only [civil] at hlow
    have hsame : s.seconds / 86400 = t.seconds / 86400 := by omega
    have hhour : (s.seconds % 86400).toNat / 3600 = (t.seconds % 86400).toNat / 3600 := by omega
    have hminute : (s.seconds % 86400).toNat / 60 % 60 = (t.seconds % 86400).toNat / 60 % 60 := by
      omega
    simp only [Civil.startOf, civil, hsame, hhour, hminute]

/-- An instant is rounded down to the first moment of its unit. -/
theorem isRoundedDown_startOf (g : Grain) : t.IsRoundedDown g (t.startOf g) where
  starts := by
    rw [Starts, startOf, (ht.startOf g).civil_instant, Civil.startOf_startOf]
  notAfter := by
    rcases (seconds_startOf_le ht g).lt_or_eq with hlt | heq
    · exact Or.inl hlt
    · exact Or.inr ⟨heq, (nanos_startOf t g).trans_le (Nat.zero_le _)⟩
  last := by
    intro s hs hle
    by_cases hbefore : s.seconds < (t.startOf g).seconds
    · exact Or.inl hbefore
    · have hunit := civil_startOf_eq ht (Int.not_lt.1 hbefore) hle.seconds_le
      have heq : s = t.startOf g := by
        rw [← s.instant_civil, hs, hunit, startOf]
      rw [heq]
      exact Or.inr ⟨rfl, le_rfl⟩

end

end Instant

end SeriesGateway
