import SeriesGateway.Proofs.Failure
import SeriesGateway.Proofs.Instant
import SeriesGateway.Proofs.Timestamp.Integer

namespace SeriesGateway

namespace Instant

theorem nanoseconds_ofNanoseconds (n : Int) : (ofNanoseconds n).nanoseconds = n := by
  simp only [ofNanoseconds, nanoseconds]
  omega

theorem nanoseconds_ofMilliseconds (n : Int) :
    (ofMilliseconds n).nanoseconds = n * 1_000_000 := by
  simp only [ofMilliseconds, nanoseconds]
  omega

theorem nanoseconds_ofSeconds (n : Int) : (ofSeconds n).nanoseconds = n * 1_000_000_000 := by
  simp only [ofSeconds, nanoseconds]
  omega

theorem nanos_ofNanoseconds_lt (n : Int) : (ofNanoseconds n).nanos < 1_000_000_000 := by
  simp only [ofNanoseconds]
  omega

theorem nanos_ofMilliseconds_lt (n : Int) : (ofMilliseconds n).nanos < 1_000_000_000 := by
  simp only [ofMilliseconds]
  omega

theorem milliseconds_ofMilliseconds (n : Int) : (ofMilliseconds n).milliseconds = n := by
  simp only [ofMilliseconds, milliseconds]
  omega

/-- Outside leap seconds no two instants have the same nanoseconds. -/
theorem eq_of_nanoseconds {s t : Instant} (hs : s.nanos < 1_000_000_000)
    (ht : t.nanos < 1_000_000_000) (h : s.nanoseconds = t.nanoseconds) : s = t := by
  obtain ⟨seconds, nanos⟩ := s
  obtain ⟨seconds', nanos'⟩ := t
  simp only [nanoseconds] at hs ht h
  simp only [mk.injEq]
  omega

end Instant

namespace Timestamp

open Numeral

/-- An integer as a timestamp: so many nanoseconds, milliseconds or seconds since 1970 began, or the
first of January of the year of that number. -/
inductive StandsFor (n : Int) (t : Instant) : Prop
  | nanoseconds (hsize : 2147483647000 < n) (ht : t.nanoseconds = n)
  | milliseconds (hsize : 2147483647 < n ∧ n ≤ 2147483647000) (ht : t.nanoseconds = n * 1_000_000)
  | seconds (hsize : 10000 < n ∧ n ≤ 2147483647) (ht : t.nanoseconds = n * 1_000_000_000)
  | year (hsize : 1000 ≤ n ∧ n ≤ 9999 ∨ -999 ≤ n ∧ n ≤ -100)
    (ht : t.civil = ⟨⟨n, 1, 1⟩, 0, 0, 0, 0⟩)

theorem startOfYear_eq (n : Int) : startOfYear n = Civil.instant ⟨⟨n, 1, 1⟩, 0, 0, 0, 0⟩ 0 := by
  simp [startOfYear, Civil.instant, Date.dayNumber_newYear]

theorem isValid_startOfYear {n : Int} (hlow : -999 ≤ n) (hhigh : n ≤ 9999) :
    Civil.IsValid ⟨⟨n, 1, 1⟩, 0, 0, 0, 0⟩ := by
  have hyears : Calendar.firstYear ≤ n ∧ n ≤ Calendar.lastYear := by
    simp only [Calendar.firstYear, Calendar.lastYear]
    omega
  have hzero {n : Nat} : 0 < n + 1 := Nat.zero_lt_succ n
  exact ⟨Date.isValid_newYear hyears, hzero, hzero, hzero⟩

theorem ofYear?_eq_some_iff {n : Int} {t : Instant} :
    ofYear? n = some t ↔ (1000 ≤ n ∧ n ≤ 9999 ∨ -999 ≤ n ∧ n ≤ -100) ∧
      t.civil = ⟨⟨n, 1, 1⟩, 0, 0, 0, 0⟩ := by
  rw [ofYear?, Option.ite_none_right_eq_some, Option.some.injEq, startOfYear_eq]
  apply and_congr_right
  intro hsize
  have hvalid := isValid_startOfYear (n := n) (by omega) (by omega)
  constructor
  · intro ht
    rw [← ht, hvalid.civil_instant]
  · intro ht
    rw [← ht, Instant.instant_civil]

/-- An integer is read as what it stands for. -/
theorem integer_eq_some_iff {n : Int} {t : Instant} :
    (ofInteger? n).or (ofYear? n) = some t ↔ t.nanos < 1_000_000_000 ∧ StandsFor n t := by
  constructor
  · intro h
    unfold ofInteger? greatestSecond at h
    split_ifs at h with hnanos hmillis hseconds
    · cases h
      exact ⟨Instant.nanos_ofNanoseconds_lt n,
        .nanoseconds (by omega) (Instant.nanoseconds_ofNanoseconds n)⟩
    · cases h
      exact ⟨Instant.nanos_ofMilliseconds_lt n,
        .milliseconds (by omega) (Instant.nanoseconds_ofMilliseconds n)⟩
    · cases h
      exact ⟨Nat.zero_lt_succ _, .seconds (by omega) (Instant.nanoseconds_ofSeconds n)⟩
    · rw [Option.none_or, ofYear?_eq_some_iff] at h
      have hwhole : t.nanos = 0 := congrArg Civil.nanos h.2
      exact ⟨by omega, .year h.1 h.2⟩
  · intro ⟨hpart, h⟩
    unfold ofInteger? greatestSecond
    cases h with
    | nanoseconds hsize ht =>
      rw [if_pos (by omega), Option.some_or, Option.some.injEq]
      exact Instant.eq_of_nanoseconds (Instant.nanos_ofNanoseconds_lt n) hpart
        ((Instant.nanoseconds_ofNanoseconds n).trans ht.symm)
    | milliseconds hsize ht =>
      rw [if_neg (by omega), if_pos (by omega), Option.some_or, Option.some.injEq]
      exact Instant.eq_of_nanoseconds (Instant.nanos_ofMilliseconds_lt n) hpart
        ((Instant.nanoseconds_ofMilliseconds n).trans ht.symm)
    | seconds hsize ht =>
      rw [if_neg (by omega), if_neg (by omega), if_pos (by omega), Option.some_or,
        Option.some.injEq]
      exact Instant.eq_of_nanoseconds (Nat.zero_lt_succ _) hpart
        ((Instant.nanoseconds_ofSeconds n).trans ht.symm)
    | year hsize ht =>
      rw [if_neg (by omega), if_neg (by omega), if_neg (by omega), Option.none_or]
      exact ofYear?_eq_some_iff.2 ⟨hsize, ht⟩

theorem integer_eq_none_iff {n : Int} :
    (ofInteger? n).or (ofYear? n) = none ↔
      n ≤ 10000 ∧ ¬(1000 ≤ n ∧ n ≤ 9999 ∨ -999 ≤ n ∧ n ≤ -100) := by
  unfold ofInteger? ofYear? greatestSecond
  split_ifs <;> simp <;> omega

/-- A year begins with a day. -/
theorem seconds_of_newYear {n : Int} {t : Instant} (h : t.civil = ⟨⟨n, 1, 1⟩, 0, 0, 0, 0⟩) :
    t.seconds = Calendar.newYear n * 86400 ∧ t.nanos = 0 := by
  have hstart : startOfYear n = t := by
    rw [startOfYear_eq, ← h, Instant.instant_civil]
  rw [← hstart]
  exact ⟨rfl, rfl⟩

/-- As many nanoseconds since 1970 as the number itself has an instant only if the number stands for
nanoseconds. -/
theorem StandsFor.nanoseconds_eq_iff {n : Int} {t : Instant} (h : StandsFor n t) :
    t.nanoseconds = n ↔ 2147483647000 < n := by
  cases h with
  | nanoseconds hsize ht => exact iff_of_true ht hsize
  | milliseconds hsize ht => omega
  | seconds hsize ht => omega
  | year hsize ht =>
    obtain ⟨hday, hnanos⟩ := seconds_of_newYear ht
    rw [Instant.nanoseconds]
    omega

/-- As many milliseconds since 1970 as the number itself has an instant only if the number stands
for milliseconds: nanoseconds are too few, seconds too many, and years begin with a day. -/
theorem StandsFor.milliseconds_eq_iff {n : Int} {t : Instant} (h : StandsFor n t)
    (hpart : t.nanos < 1_000_000_000) :
    t.milliseconds = n ↔ 2147483647 < n ∧ n ≤ 2147483647000 := by
  cases h with
  | nanoseconds hsize ht =>
    rw [Instant.nanoseconds] at ht
    rw [Instant.milliseconds]
    omega
  | milliseconds hsize ht =>
    rw [Instant.nanoseconds] at ht
    rw [Instant.milliseconds]
    omega
  | seconds hsize ht =>
    rw [Instant.nanoseconds] at ht
    rw [Instant.milliseconds]
    omega
  | year hsize ht =>
    obtain ⟨hday, hnanos⟩ := seconds_of_newYear ht
    rw [Instant.milliseconds]
    omega

/-- The calendar has the instants of all integers of 64 bits. -/
theorem StandsFor.inCalendar {n : Int64} {t : Instant} (h : StandsFor n.toInt t)
    (hpart : t.nanos < 1_000_000_000) : t.inCalendar = true := by
  have hbound := n.toInt_lt
  have hnear (hlow : 0 ≤ t.seconds) (hhigh : t.seconds < 10_000_000_000) :
      t.inCalendar = true := by
    simp only [Instant.inCalendar, Calendar.newYear, Calendar.firstYear, Calendar.lastYear,
      Bool.and_eq_true]
    exact ⟨decide_eq_true (by omega), decide_eq_true (by omega)⟩
  cases h with
  | nanoseconds hsize ht =>
    rw [Instant.nanoseconds] at ht
    exact hnear (by omega) (by omega)
  | milliseconds hsize ht =>
    rw [Instant.nanoseconds] at ht
    exact hnear (by omega) (by omega)
  | seconds hsize ht =>
    rw [Instant.nanoseconds] at ht
    exact hnear (by omega) (by omega)
  | year hsize ht =>
    have hvalid := isValid_startOfYear (n := n.toInt) (by omega) (by omega)
    rw [← t.instant_civil, ht]
    apply hvalid.inCalendar
    · simp only [Calendar.firstYear]
      omega
    · simp only [Calendar.lastYear]
      omega
    · exact Nat.zero_lt_succ _

theorem read_intText_eq_ok_iff {n : Int64} {t : Instant} :
    read (.ofList (intText n.toInt)) = .ok t ↔ t.nanos < 1_000_000_000 ∧ StandsFor n.toInt t := by
  rw [read_intText, ← integer_eq_some_iff]
  cases (ofInteger? n.toInt).or (ofYear? n.toInt) <;> simp

theorem readInstant_intText_eq_ok_iff {n : Int64} {t : Instant} :
    readInstant (.ofList (intText n.toInt)) = .ok t ↔
      t.nanos < 1_000_000_000 ∧ StandsFor n.toInt t :=
  readInstant_eq_ok_iff.trans read_intText_eq_ok_iff

theorem readInstant_intText_eq_error_iff {n : Int64} {f : Failure} :
    readInstant (.ofList (intText n.toInt)) = .error f ↔
      f = .timestamp (.ofList (intText n.toInt)) ∧ n.toInt ≤ 10000 ∧
        ¬(1000 ≤ n.toInt ∧ n.toInt ≤ 9999 ∨ -999 ≤ n.toInt ∧ n.toInt ≤ -100) := by
  rw [readInstant, read_intText, ← integer_eq_none_iff]
  cases (ofInteger? n.toInt).or (ofYear? n.toInt) <;> simp [Except.mapError, eq_comm]

/-- Only numbers that stand for milliseconds are read as so many of them. -/
theorem read_intText_eq_ofMilliseconds_iff (t : Int64) :
    read (.ofList (intText t.toInt)) = .ok (.ofMilliseconds t.toInt) ↔
      greatestSecond < t.toInt ∧ t.toInt ≤ greatestSecond * 1000 := by
  have hpart := Instant.nanos_ofMilliseconds_lt t.toInt
  rw [read_intText_eq_ok_iff]
  constructor
  · intro ⟨_, hstands⟩
    exact (hstands.milliseconds_eq_iff hpart).1 (Instant.milliseconds_ofMilliseconds t.toInt)
  · intro hsize
    exact ⟨hpart, .milliseconds hsize (Instant.nanoseconds_ofMilliseconds t.toInt)⟩

/-- Only numbers that stand for nanoseconds are read as so many of them, and a leap second has the
nanoseconds of the second behind it. -/
theorem read_intText_nanoseconds_iff {t : Int64} {i : Instant} (h : i.nanoseconds = t.toInt) :
    read (.ofList (intText t.toInt)) = .ok i ↔
      i.nanos < 1_000_000_000 ∧ greatestSecond * 1000 < t.toInt := by
  rw [read_intText_eq_ok_iff]
  apply and_congr_right
  intro _
  constructor
  · intro hstands
    exact hstands.nanoseconds_eq_iff.1 h
  · intro hsize
    exact .nanoseconds hsize h

/-- An integer of 64 bits is read as the instant that it stands for, which is in no leap second and
which the calendar has. An integer that stands for none is refused. -/
theorem readInstant_integer_iff (n : Int64) :
    (∀ t, readInstant (.ofList (intText n.toInt)) = .ok t ↔
      t.nanos < 1_000_000_000 ∧ StandsFor n.toInt t) ∧
    (∀ f, readInstant (.ofList (intText n.toInt)) = .error f ↔
      f = .timestamp (.ofList (intText n.toInt)) ∧ n.toInt ≤ 10000 ∧
        ¬(1000 ≤ n.toInt ∧ n.toInt ≤ 9999 ∨ -999 ≤ n.toInt ∧ n.toInt ≤ -100)) ∧
    ∀ t, readInstant (.ofList (intText n.toInt)) = .ok t → t.inCalendar = true := by
  refine ⟨fun t => readInstant_intText_eq_ok_iff, fun f => readInstant_intText_eq_error_iff, ?_⟩
  intro t ht
  obtain ⟨hpart, hstands⟩ := readInstant_intText_eq_ok_iff.1 ht
  exact hstands.inCalendar hpart

end Timestamp

end SeriesGateway
