import SeriesGateway.Proofs.Service.SeriesTarget
import SeriesGateway.Proofs.Text.Blank
import SeriesGateway.Proofs.Text.Digits
import SeriesGateway.Proofs.Timestamp.Magnitude

namespace SeriesGateway

open Numeral

namespace Numeral

/-- White space is no part of a numeral. -/
theorem int64?_eq_none_of_isBlank {cs : List Char} {c : Char} (hc : Text.isBlank c = true)
    (h : c ∈ cs) : int64? cs = none := by
  have hdigit : c.isDigit = false := by
    rw [← Bool.not_eq_true]
    intro hdigit
    rw [Text.isBlank_eq_false_of_isDigit hdigit] at hc
    cases hc
  have hsign : c ≠ '+' ∧ c ≠ '-' := by
    constructor
    · rintro rfl
      cases hc
    · rintro rfl
      cases hc
  rw [int64?, signed?_eq_none hdigit hsign h]

end Numeral

namespace Timestamp

/-- White space around a timestamp is not read. -/
theorem readInstant_append_append {front back : List Char}
    (hfront : ∀ c ∈ front, Text.isBlank c = true) (hback : ∀ c ∈ back, Text.isBlank c = true)
    (cs : List Char) :
    readInstant (.ofList (front ++ cs ++ back)) = readInstant (.ofList cs) := by
  rw [readInstant, readInstant, read, read, String.toList_ofList, String.toList_ofList,
    Text.trim_append_append hfront hback]

/-- The milliseconds of what an integer stands for fit 64 bits. -/
theorem StandsFor.toInt_milliseconds {n : Int64} {t : Instant} (h : StandsFor n.toInt t)
    (hpart : t.nanos < 1_000_000_000) : (Int64.ofInt t.milliseconds).toInt = t.milliseconds := by
  have hcalendar := h.inCalendar hpart
  simp only [Instant.inCalendar, Calendar.newYear, Calendar.firstYear, Calendar.lastYear,
    Bool.and_eq_true] at hcalendar
  have hlow := of_decide_eq_true hcalendar.1
  have hhigh := of_decide_eq_true hcalendar.2
  apply Int64.toInt_ofInt_of_le
  · rw [Instant.milliseconds]
    omega
  · rw [Instant.milliseconds]
    omega

end Timestamp

namespace SeriesRequest

open Timestamp

/-- A text that is no integer is a timestamp. -/
theorem readMoment_of_int64?_eq_none {text : String} (h : int64? text.toList = none) :
    readMoment text = (readInstant text).map fun t => .ofInt t.milliseconds := by
  rw [readMoment, h]

/-- With white space around it an integer is read as a timestamp. -/
theorem readMoment_append_append {front back : List Char}
    (hfront : ∀ c ∈ front, Text.isBlank c = true) (hback : ∀ c ∈ back, Text.isBlank c = true)
    (hpadded : front ++ back ≠ []) (cs : List Char) :
    readMoment (.ofList (front ++ cs ++ back)) =
      (readInstant (.ofList cs)).map fun t => .ofInt t.milliseconds := by
  rw [readMoment_of_int64?_eq_none, readInstant_append_append hfront hback]
  obtain ⟨c, hc⟩ := List.exists_mem_of_ne_nil _ hpadded
  rw [String.toList_ofList]
  rcases List.mem_append.1 hc with hmem | hmem
  · exact int64?_eq_none_of_isBlank (hfront c hmem) (by simp [hmem])
  · exact int64?_eq_none_of_isBlank (hback c hmem) (by simp [hmem])

theorem readMoment_bare {front back : List Char} (hbare : front ++ back = []) (n : Int64) :
    readMoment (.ofList (front ++ intText n.toInt ++ back)) = .ok n := by
  obtain ⟨rfl, rfl⟩ := List.append_eq_nil_iff.1 hbare
  apply readMoment_of_int64?
  rw [String.toList_ofList, List.nil_append, List.append_nil, int64?_intText]

theorem readMoment_padded_eq_ok_iff {front back : List Char}
    (hfront : ∀ c ∈ front, Text.isBlank c = true) (hback : ∀ c ∈ back, Text.isBlank c = true)
    (hpadded : front ++ back ≠ []) {n m : Int64} :
    readMoment (.ofList (front ++ intText n.toInt ++ back)) = .ok m ↔
      ∃ t, t.nanos < 1_000_000_000 ∧ StandsFor n.toInt t ∧ m.toInt = t.milliseconds := by
  rw [readMoment_append_append hfront hback hpadded, map_eq_ok_iff]
  apply exists_congr
  intro t
  rw [readInstant_intText_eq_ok_iff, and_assoc]
  apply and_congr_right
  intro hpart
  apply and_congr_right
  intro hstands
  rw [← Int64.toInt_inj, hstands.toInt_milliseconds hpart, eq_comm]

/-- An integer of 64 bits with nothing around it is that number of milliseconds. With white space
around it it is the milliseconds of the instant that it stands for as a timestamp, and it is refused
if it stands for none. It is read alike in both ways just if it stands for milliseconds. -/
theorem readMoment_padded_integer (n : Int64) {front back : List Char}
    (hfront : ∀ c ∈ front, Text.isBlank c = true) (hback : ∀ c ∈ back, Text.isBlank c = true) :
    (front ++ back = [] → readMoment (.ofList (front ++ intText n.toInt ++ back)) = .ok n) ∧
    (front ++ back ≠ [] →
      (∀ m, readMoment (.ofList (front ++ intText n.toInt ++ back)) = .ok m ↔
        ∃ t, t.nanos < 1_000_000_000 ∧ StandsFor n.toInt t ∧ m.toInt = t.milliseconds) ∧
      ∀ f, readMoment (.ofList (front ++ intText n.toInt ++ back)) = .error f ↔
        f = .timestamp (.ofList (intText n.toInt)) ∧ n.toInt ≤ 10000 ∧
          ¬(1000 ≤ n.toInt ∧ n.toInt ≤ 9999 ∨ -999 ≤ n.toInt ∧ n.toInt ≤ -100)) ∧
    (readMoment (.ofList (front ++ intText n.toInt ++ back)) = .ok n ↔
      front ++ back = [] ∨ 2147483647 < n.toInt ∧ n.toInt ≤ 2147483647000) := by
  refine ⟨fun hbare => readMoment_bare hbare n, ?_, ?_⟩
  · intro hpadded
    refine ⟨fun m => readMoment_padded_eq_ok_iff hfront hback hpadded, fun f => ?_⟩
    rw [readMoment_append_append hfront hback hpadded, map_eq_error_iff,
      readInstant_intText_eq_error_iff]
  · by_cases hbare : front ++ back = []
    · rw [readMoment_bare hbare]
      exact iff_of_true rfl (Or.inl hbare)
    · rw [readMoment_padded_eq_ok_iff hfront hback hbare, or_iff_right hbare]
      constructor
      · intro ⟨t, hpart, hstands, hsame⟩
        exact (hstands.milliseconds_eq_iff hpart).1 hsame.symm
      · intro hsize
        have hstands : StandsFor n.toInt (.ofMilliseconds n.toInt) :=
          .milliseconds hsize (Instant.nanoseconds_ofMilliseconds n.toInt)
        have hpart := Instant.nanos_ofMilliseconds_lt n.toInt
        exact ⟨_, hpart, hstands, ((hstands.milliseconds_eq_iff hpart).2 hsize).symm⟩

/-- Seconds, milliseconds and a number that is too small, each with white space around it. -/
theorem readMoment_padded_integer_of_sizes :
    (∀ c ∈ [' '], Text.isBlank c = true) ∧ (∀ c ∈ ['\n', '\u3000'], Text.isBlank c = true) ∧
      readMoment " 1346189075\n\u3000" = .ok 1346189075000 ∧
      readMoment " 1346189075374\n\u3000" = .ok 1346189075374 ∧
      readMoment " -5\n\u3000" = .error (.timestamp "-5") := by
  have hfront : ∀ c ∈ [' '], Text.isBlank c = true := by
    simp [Text.isBlank, Text.blankRanges]
  have hback : ∀ c ∈ ['\n', '\u3000'], Text.isBlank c = true := by
    simp [Text.isBlank, Text.blankRanges]
  have hpadded : [' '] ++ ['\n', '\u3000'] ≠ [] := by decide
  have hseconds := (readMoment_padded_integer 1346189075 hfront hback).2.1 hpadded
  have hmilliseconds := (readMoment_padded_integer 1346189075374 hfront hback).2.2
  have hsmall := (readMoment_padded_integer (-5) hfront hback).2.1 hpadded
  refine ⟨hfront, hback, ?_, ?_, ?_⟩
  · exact (hseconds.1 1346189075000).2
      ⟨⟨1346189075, 0⟩, by decide, .seconds (by decide +kernel) rfl, rfl⟩
  · exact hmilliseconds.2 (Or.inr (by decide +kernel))
  · exact (hsmall.2 _).2 ⟨rfl, by decide⟩

/-- A plus or an escaped blank beside an integer of a query changes its unit, or leaves nothing that
can be read. -/
theorem readMoment_beside_blank :
    Form.decode "start=+1346189075&stop=0%20".toList =
        [("start", " 1346189075"), ("stop", "0 ")] ∧
      (readMoment "1346189075" = .ok 1346189075 ∧
        readMoment " 1346189075" = .ok 1346189075000) ∧
      (readMoment "0" = .ok 0 ∧ readMoment "0 " = .error (.timestamp "0")) :=
  ⟨by decide +kernel, ⟨rfl, rfl⟩, rfl, rfl⟩

end SeriesRequest

end SeriesGateway
