import Mathlib
import SeriesGateway.Proofs.Calendar
import SeriesGateway.Proofs.Timestamp.Forms

namespace SeriesGateway.Timestamp

open Numeral

theorem takeYear_intText_append {n : Int} {rest : List Char} (hn : n ≤ 9999)
    (hrest : ∀ c ∈ rest.head?, c.isDigit = false) :
    Pattern.takeYear (intText n ++ rest) = some (n, rest) := by
  cases n with
  | ofNat k =>
    have hwidth : (text k).length ≤ 4 := by
      rw [length_text_le_iff k 3]
      simp only [Int.ofNat_eq_natCast] at hn
      omega
    have htake : takeNumber 4 (text k ++ rest) = some (k, rest) := by
      rw [takeNumber_append (text_ne_nil k) (fun _ => isDigit_of_mem_text) hwidth hrest,
        value_text]
    obtain ⟨c, cs, hcs, hc⟩ := exists_text_eq_cons k
    rw [intText]
    rw [hcs, List.cons_append] at htake ⊢
    unfold Pattern.takeYear
    split
    · rename_i heq
      cases heq
      cases hc
    · rename_i heq
      cases heq
      cases hc
    · rw [htake]
      rfl
  | negSucc k =>
    have hwidth : (text (k + 1)).length ≤ (text (k + 1) ++ rest).length := by
      rw [List.length_append]
      omega
    rw [intText, List.cons_append, Pattern.takeYear,
      takeNumber_append (text_ne_nil _) (fun _ => isDigit_of_mem_text) hwidth hrest, value_text]
    rfl

/-- A year at the start of a text is read whole, whatever comes behind it. -/
theorem fields?_year {n : Int} {rest : List Char} (hn : n ≤ 9999)
    (hrest : ∀ c ∈ rest.head?, c.isDigit = false) (p : Pattern) (f : Fields) :
    Pattern.fields? (.year :: p) f (intText n ++ rest) =
      Pattern.fields? p { f with year := some n } rest := by
  have htrim : Text.trimStart (intText n ++ rest) = intText n ++ rest := by
    obtain ⟨c, cs, hcs⟩ := List.exists_cons_of_ne_nil (intText_ne_nil n)
    rw [hcs, List.cons_append]
    refine Text.trimStart_cons (Text.isBlank_eq_false_of_mem_intText (n := n) ?_)
    rw [hcs]
    exact List.mem_cons_self
  rw [Pattern.fields?, Directive.read?, htrim, takeYear_intText_append hn hrest]
  rfl

/-- A date goes on behind its year with a dash. -/
theorem read?_year_eq_none {n : Int} {rest : List Char} (hn : n ≤ 9999)
    (hrest : ∀ c ∈ rest.head?, c.isDigit = false) (hdash : takeChar '-' rest = none)
    (p : Pattern) : Pattern.read? (.year :: .literal '-' :: p) (intText n ++ rest) = none := by
  rw [Pattern.read?, fields?_year hn hrest, Pattern.fields?, Directive.read?, hdash]
  rfl

/-- The first second of a year. -/
def startOfYear (year : Int) : Instant :=
  ⟨Calendar.newYear year * 86400, 0⟩

theorem instant?_of_newYear {n : Int} (hlow : -999 ≤ n) (hhigh : n ≤ 9999) :
    Fields.instant? { year := some n, month := some 1, day := some 1 } = some (startOfYear n) := by
  have hvalid : (Date.mk n 1 1).isValid = true := by
    have hyears : Calendar.firstYear ≤ n ∧ n ≤ Calendar.lastYear := by
      simp only [Calendar.firstYear, Calendar.lastYear]
      omega
    exact Date.isValid_newYear hyears
  have hcalendar : (startOfYear n).inCalendar = true := by
    simp only [Instant.inCalendar, startOfYear, Calendar.newYear, Calendar.firstYear,
      Calendar.lastYear, Bool.and_eq_true]
    exact ⟨decide_eq_true (by omega), decide_eq_true (by omega)⟩
  have hcivil : Fields.civil? { year := some n, month := some 1, day := some 1 } =
      some ⟨⟨n, 1, 1⟩, 0, 0, 0, 0⟩ := by
    simp [Fields.civil?, Fields.date?, Date.of?, hvalid]
  have hinstant : Civil.instant ⟨⟨n, 1, 1⟩, 0, 0, 0, 0⟩ 0 = startOfYear n := by
    simp [Civil.instant, startOfYear, Date.dayNumber_newYear]
  simp [Fields.instant?, hcivil, hinstant, hcalendar]

/-- What a number counts as that is too small for a timestamp: a year, if its text has four
characters. -/
def ofYear? (n : Int) : Option Instant :=
  if 1000 ≤ n ∧ n ≤ 9999 ∨ -999 ≤ n ∧ n ≤ -100 then some (startOfYear n) else none

theorem length_intText_eq_four_iff (n : Int) :
    (intText n).length = 4 ↔ 1000 ≤ n ∧ n ≤ 9999 ∨ -999 ≤ n ∧ n ≤ -100 := by
  cases n with
  | ofNat k =>
    have hthree := length_text_le_iff k 2
    have hfour := length_text_le_iff k 3
    simp only [intText, Int.ofNat_eq_natCast]
    omega
  | negSucc k =>
    have htwo := length_text_le_iff (k + 1) 1
    have hthree := length_text_le_iff (k + 1) 2
    simp only [intText, List.length_cons]
    omega

/-- A text has one byte for each of its characters if all of them are narrow. -/
theorem size_of_narrow {cs : List Char} (h : ∀ c ∈ cs, c.utf8Size = 1) :
    Utf8.size cs = cs.length := by
  have hone : ∀ c ∈ cs, (String.utf8EncodeChar c).length = 1 := by
    intro c hc
    rw [String.length_utf8EncodeChar, h c hc]
  rw [Utf8.size, Utf8.encode, List.length_flatMap, List.map_congr_left hone]
  simp

theorem size_intText (n : Int) : Utf8.size (intText n) = (intText n).length := by
  refine size_of_narrow fun c hc => ?_
  rcases isDigit_or_eq_minus_of_mem_intText hc with hdigit | rfl
  · exact utf8Size_of_isDigit hdigit
  · rfl

/-- Of the lengths that a date can be cut off at, only that of a year reads as one where the text
is that of a number too small for a timestamp. -/
theorem truncated?_intText {n : Int} (h : n ≤ 10000) : truncated? (intText n) = ofYear? n := by
  have hsmall (hlength : (intText n).length ≠ 5) : n ≤ 9999 := by
    by_contra hlt
    obtain rfl : n = 10000 := by omega
    exact hlength (by decide)
  have hnone (hlength : (intText n).length ≠ 4) : ofYear? n = none := by
    rw [ofYear?, if_neg (mt (length_intText_eq_four_iff n).2 hlength)]
  have hopen (hlength : (intText n).length ≠ 5) (p : Pattern) :
      Pattern.read? (.year :: .literal '-' :: p) (intText n) = none := by
    rw [← List.append_nil (intText n)]
    exact read?_year_eq_none (hsmall hlength) (by simp) rfl p
  rw [truncated?, size_intText]
  split
  · rename_i hlength
    rw [hnone (by omega)]
    exact hopen (by omega) _
  · rename_i hlength
    rw [hnone (by omega)]
    exact read?_year_eq_none (hsmall (by omega)) (by simp) rfl _
  · rename_i hlength
    rw [hnone (by omega)]
    exact hopen (by omega) _
  · rename_i hlength
    rw [hnone (by omega), Pattern.read?, Pattern.isoDate,
      fields?_year (hsmall (by omega)) (by simp)]
    rfl
  · rename_i hlength
    have hyear := (length_intText_eq_four_iff n).1 hlength
    have hfields : Pattern.fields? Pattern.isoDate {}
        (intText n ++ ['-', '0', '1', '-', '0', '1']) =
          some ({ year := some n, month := some 1, day := some 1 }, []) := by
      rw [Pattern.isoDate, fields?_year (hsmall (by omega)) (by simp)]
      rfl
    rw [Pattern.read?, hfields, ofYear?, if_pos hyear]
    exact instant?_of_newYear (by omega) (by omega)
  · rename_i hlength
    rw [hnone hlength]

theorem ofTrimmed?_intText (t : Int64) :
    ofTrimmed? (intText t.toInt) = (ofInteger? t.toInt).or (ofYear? t.toInt) := by
  have hdash : '-' ∉ (intText t.toInt).drop 4 := by
    intro h
    have htail : '-' ∈ (intText t.toInt).tail := by
      rw [← List.drop_one]
      exact List.drop_subset_drop_left _ (by decide) h
    cases isDigit_of_mem_tail_intText htail
  have hinteger : integer? (intText t.toInt) = ofInteger? t.toInt := by
    rw [integer?, int64?_intText]
    rfl
  rw [ofTrimmed?_eq_or (intText_ne_nil _) (fun _ => isDigit_or_eq_minus_of_mem_intText) hdash,
    hinteger]
  rcases le_or_gt t.toInt 10000 with hsmall | hlarge
  · rw [truncated?_intText hsmall]
  · obtain ⟨i, hi⟩ : ∃ i, ofInteger? t.toInt = some i := by
      unfold ofInteger?
      split_ifs <;> exact ⟨_, rfl⟩
    rw [hi]
    rfl

theorem read_intText (t : Int64) :
    read (.ofList (intText t.toInt)) =
      ((ofInteger? t.toInt).or (ofYear? t.toInt)).elim (.error (.ofList (intText t.toInt)))
        .ok := by
  rw [read, String.toList_ofList, Text.trim_intText, ofTrimmed?_intText]
  cases (ofInteger? t.toInt).or (ofYear? t.toInt) <;> rfl

end SeriesGateway.Timestamp
