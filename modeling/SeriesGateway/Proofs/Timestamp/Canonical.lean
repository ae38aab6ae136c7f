import SeriesGateway.Proofs.Timestamp.Columns

namespace SeriesGateway.Timestamp.Canonical

open Numeral

/-- The parts of a timestamp between its marks. The tail is what stands behind the second. -/
structure Parts where
  year : List Char
  month : List Char
  day : List Char
  hour : List Char
  minute : List Char
  second : List Char
  tail : List Char

namespace Parts

def text (p : Parts) : List Char :=
  p.year ++ '-' :: p.month ++ '-' :: p.day ++ 'T' :: p.hour ++ ':' :: p.minute ++ ':' :: p.second ++
    p.tail

/-- The parts spell a civil time, by the spelling of its numbers and of its nanoseconds. -/
structure Spells (number : Nat → Nat → List Char → Prop) (behind : Nat → List Char → Prop)
    (p : Parts) (c : Civil) : Prop where
  year_nonneg : 0 ≤ c.date.year
  year : number 4 c.date.year.toNat p.year
  month : number 2 c.date.month p.month
  day : number 2 c.date.day p.day
  hour : number 2 c.hour p.hour
  minute : number 2 c.minute p.minute
  second : number 2 c.second p.second
  tail : behind c.nanos p.tail

end Parts

/-- A final `Z`, behind a point and up to nine digits if there is a point. -/
inductive Fraction : Nat → List Char → Prop where
  | whole : Fraction 0 ['Z']
  | pointed {width n : Nat} {digits : List Char} (hwidth : width ≤ 9)
    (hdigits : Digits width n digits) :
    Fraction (n * Nat.pow 10 (9 - width)) ('.' :: digits ++ ['Z'])

/-- What the reader takes behind the second. -/
inductive OpenFraction : Nat → List Char → Prop where
  | whole : OpenFraction 0 ['Z']
  | overgrown (junk : List Char) : OpenFraction 0 ('Z' :: junk ++ ['Z'])
  | empty : OpenFraction 0 ['.', 'Z']
  | pointed {width n : Nat} {digits : List Char} (hwidth : width ≤ 9)
    (hdigits : Unsigned width n digits) :
    OpenFraction (n * Nat.pow 10 (9 - width)) ('.' :: digits ++ ['Z'])

theorem spelled_of_field {name : String} {cols : List (Option Char)} {k n v : Nat} (hn : n ≤ 9)
    (hcols : k + n ≤ cols.length) (h : field name ((cols.drop k).take n) = .ok v) :
    ∃ cs, (cols.drop k).take n = cs.map some ∧ Unsigned n v cs := by
  have hlength : ((cols.drop k).take n).length = n := by
    rw [List.length_take, List.length_drop]
    omega
  obtain ⟨cs, hcs, hspelled⟩ := (field_eq_ok_iff_unsigned (hlength.trans_le hn)).1 h
  rw [hlength] at hspelled
  exact ⟨cs, hcs, hspelled⟩

theorem openFraction_of_fraction {front : List Char} {n : Nat}
    (h : fraction (columns front) = .ok n) : OpenFraction n ('.' :: front ++ ['Z']) := by
  unfold fraction at h
  split_ifs at h with hempty hlong
  · cases h
    rw [eq_nil_of_columns (List.isEmpty_iff.1 hempty)]
    exact .empty
  · cases hfield : field "nanoseconds" (columns front) with
    | error fault =>
      rw [hfield] at h
      cases h
    | ok v =>
      rw [hfield] at h
      cases h
      have hshort := not_lt.1 hlong
      obtain ⟨digits, hcols, hdigits⟩ := (field_eq_ok_iff_unsigned hshort).1 hfield
      obtain ⟨rest, rfl, hrest⟩ :=
        eq_append_of_columns (hcols.trans (List.append_nil _).symm) (by simp)
      rw [eq_nil_of_columns hrest, List.append_nil] at hdigits hshort ⊢
      exact .pointed hshort hdigits

theorem openFraction_of_tailNanos {cols : List (Option Char)} {m : Char} {behind : List Char}
    {n : Nat} (hcols : columns behind = cols.drop 20) (hmark : hasMark cols (19, m) = true)
    (hm : m = '.' ∨ m = 'Z') (hlast : cols.getLast? = some (some 'Z'))
    (h : tailNanos cols = .ok n) : OpenFraction n (m :: behind) := by
  have hm19 : cols[19]? = some (some m) := by
    simpa [hasMark] using hmark
  have hlonger : behind ≠ [] → ∃ front, behind = front ++ ['Z'] := by
    intro hne
    refine exists_concat_of_columns ?_
    rw [hcols, List.getLast?_drop, if_neg, hlast]
    intro hshort
    exact hne (eq_nil_of_columns (hcols.trans (List.drop_of_length_le hshort)))
  rcases hm with rfl | rfl
  · rw [tailNanos, if_pos hmark] at h
    have hne : behind ≠ [] := by
      rintro rfl
      have hshort : cols.length ≤ 20 := List.drop_eq_nil_iff.1 hcols.symm
      have hlong := (List.getElem?_eq_some_iff.1 hm19).1
      rw [List.getLast?_eq_getElem?, show cols.length - 1 = 19 by omega, hm19] at hlast
      cases hlast
    obtain ⟨front, rfl⟩ := hlonger hne
    rw [← hcols, columns_append, show columns ['Z'] = [some 'Z'] from rfl,
      List.dropLast_concat] at h
    exact openFraction_of_fraction h
  · rw [tailNanos, if_neg (by simp [hasMark, hm19])] at h
    cases h
    rcases eq_or_ne behind [] with rfl | hne
    · exact .whole
    · obtain ⟨junk, rfl⟩ := hlonger hne
      exact .overgrown junk

/-- Whatever is accepted has the parts of a timestamp. -/
theorem exists_spells_of_read {cs : List Char} {t : Instant} (h : read cs = .ok t) :
    ∃ (p : Parts) (c : Civil), cs = p.text ∧ p.Spells Unsigned OpenFraction c ∧ c.IsValid ∧
      c.instant 0 = t := by
  obtain ⟨⟨hlength, hlast⟩, ⟨hmarks, hpoint⟩, c, hvalid, hnonneg, hyear, hmonth, hday, hhour,
    hminute, hsecond, hnanos, ht⟩ := readColumns_eq_ok_iff.1 h
  have hmark {k : Nat} {m : Char} (hmem : (k, m) ∈ marks) : hasMark (columns cs) (k, m) = true :=
    hmarks (k, m) hmem
  obtain ⟨m, hm, hmpoint⟩ : ∃ m, (m = '.' ∨ m = 'Z') ∧ hasMark (columns cs) (19, m) = true := by
    rcases hpoint with hpoint | hpoint
    · exact ⟨'.', Or.inl rfl, hpoint⟩
    · exact ⟨'Z', Or.inr rfl, hpoint⟩
  have hmnarrow : m.utf8Size = 1 := by
    rcases hm with rfl | rfl <;> rfl
  have hstart : columns cs = (columns cs).drop 0 := rfl
  rw [hstart] at hyear
  obtain ⟨y, hycols, hy⟩ := spelled_of_field (by decide) (by omega) hyear
  obtain ⟨mo, hmocols, hmo⟩ := spelled_of_field (by decide) (by omega) hmonth
  obtain ⟨d, hdcols, hd⟩ := spelled_of_field (by decide) (by omega) hday
  obtain ⟨ho, hhocols, hho⟩ := spelled_of_field (by decide) (by omega) hhour
  obtain ⟨mi, hmicols, hmi⟩ := spelled_of_field (by decide) (by omega) hminute
  obtain ⟨s, hscols, hs⟩ := spelled_of_field (by decide) (by omega) hsecond
  obtain ⟨behindYear, hcs, hcols⟩ :=
    exists_part hstart hycols (hmark (k := 0 + 4) (m := '-') (by simp [marks])) rfl
  obtain ⟨behindMonth, hbehindYear, hcols⟩ :=
    exists_part hcols hmocols (hmark (k := 7) (m := '-') (by simp [marks])) rfl
  obtain ⟨behindDay, hbehindMonth, hcols⟩ :=
    exists_part hcols hdcols (hmark (k := 10) (m := 'T') (by simp [marks])) rfl
  obtain ⟨behindHour, hbehindDay, hcols⟩ :=
    exists_part hcols hhocols (hmark (k := 13) (m := ':') (by simp [marks])) rfl
  obtain ⟨behindMinute, hbehindHour, hcols⟩ :=
    exists_part hcols hmicols (hmark (k := 16) (m := ':') (by simp [marks])) rfl
  obtain ⟨behind, hbehindMinute, hcols⟩ := exists_part hcols hscols hmpoint hmnarrow
  refine ⟨⟨y, mo, d, ho, mi, s, m :: behind⟩, c, ?_, ?_, hvalid, ht⟩
  · rw [hcs, hbehindYear, hbehindMonth, hbehindDay, hbehindHour, hbehindMinute]
    simp [Parts.text]
  · exact ⟨hnonneg, hy, hmo, hd, hho, hmi, hs,
      openFraction_of_tailNanos hcols hmpoint hm hlast hnanos⟩

theorem columns_of_unsigned {width n : Nat} {cs : List Char} (h : Unsigned width n cs) :
    columns cs = cs.map some := by
  refine columns_of_narrow fun c hc => ?_
  obtain ⟨digits, rfl | rfl, -, hdigits, -⟩ := h.spelled
  · exact utf8Size_of_isDigit (hdigits c hc)
  · rcases List.mem_cons.1 hc with rfl | hc
    · rfl
    · exact utf8Size_of_isDigit (hdigits c hc)

theorem field_of_unsigned {name : String} {width n : Nat} {cs : List Char} (hwidth : width ≤ 9)
    (h : Unsigned width n cs) : field name (cs.map some) = .ok n := by
  have hlength : (cs.map some).length = width := by
    rw [List.length_map, h.length_eq]
  refine (field_eq_ok_iff_unsigned (hlength.trans_le hwidth)).2 ⟨cs, rfl, ?_⟩
  rw [hlength]
  exact h

theorem fraction_of_unsigned {width n : Nat} {digits : List Char} (hwidth : width ≤ 9)
    (h : Unsigned width n digits) :
    fraction (digits.map some) = .ok (n * Nat.pow 10 (9 - width)) := by
  have hne : digits ≠ [] := by
    obtain ⟨cs, rfl | rfl, hcs, -⟩ := h.spelled
    · exact hcs
    · exact List.cons_ne_nil _ _
  have hlength : (digits.map some).length = width := by
    rw [List.length_map, h.length_eq]
  rw [fraction, if_neg (by simpa using hne), hlength, if_neg (not_lt.2 hwidth),
    field_of_unsigned hwidth h]
  rfl

theorem columns_of_openFraction {n : Nat} {z : List Char} (h : OpenFraction n z) :
    ∃ m back, columns z = some m :: back ∧ (m = '.' ∨ m = 'Z') ∧
      (some m :: back).getLast? = some (some 'Z') ∧
      (if m = '.' then fraction back.dropLast else .ok 0) = .ok n := by
  cases h with
  | whole => exact ⟨'Z', [], rfl, Or.inr rfl, rfl, rfl⟩
  | overgrown junk =>
    refine ⟨'Z', columns junk ++ [some 'Z'], ?_, Or.inr rfl, ?_, rfl⟩
    · rw [List.cons_append, columns_cons, columns_append]
      rfl
    · rw [← List.cons_append, List.getLast?_concat]
  | empty => exact ⟨'.', [some 'Z'], rfl, Or.inl rfl, rfl, rfl⟩
  | pointed hwidth hdigits =>
    rename_i digits
    refine ⟨'.', digits.map some ++ [some 'Z'], ?_, Or.inl rfl, ?_, ?_⟩
    · rw [List.cons_append, columns_cons, columns_append, columns_of_unsigned hdigits]
      rfl
    · rw [← List.cons_append, List.getLast?_concat]
    · rw [if_pos rfl, List.dropLast_concat, fraction_of_unsigned hwidth hdigits]

theorem columns_text {p : Parts} {c : Civil} (h : p.Spells Unsigned OpenFraction c) :
    columns p.text =
      p.year.map some ++ some '-' :: p.month.map some ++ some '-' :: p.day.map some ++
        some 'T' :: p.hour.map some ++ some ':' :: p.minute.map some ++
        some ':' :: p.second.map some ++ columns p.tail := by
  have hmark {m : Char} (hm : m.utf8Size = 1) (cs : List Char) := columns_cons_of_narrow hm cs
  simp only [Parts.text, columns_append, hmark (show '-'.utf8Size = 1 from rfl),
    hmark (show 'T'.utf8Size = 1 from rfl), hmark (show ':'.utf8Size = 1 from rfl),
    columns_of_unsigned h.year, columns_of_unsigned h.month, columns_of_unsigned h.day,
    columns_of_unsigned h.hour, columns_of_unsigned h.minute, columns_of_unsigned h.second]

/-- Parts are read as what they spell, if that is a time of the calendar. -/
theorem read_text_eq_ok_iff {p : Parts} {c : Civil} (h : p.Spells Unsigned OpenFraction c)
    {t : Instant} : read p.text = .ok t ↔ c.IsValid ∧ c.instant 0 = t := by
  obtain ⟨m, back, htail, hm, hlast, hnanos⟩ := columns_of_openFraction h.tail
  have hcols := columns_text h
  rw [htail] at hcols
  have hwidths := And.intro h.year.length_eq <| And.intro h.month.length_eq <|
    And.intro h.day.length_eq <| And.intro h.hour.length_eq <|
    And.intro h.minute.length_eq h.second.length_eq
  -- The marks and the numbers stand in the columns where the reader looks for them.
  have hmarks : ∀ mark ∈ marks, hasMark (columns p.text) mark = true := by
    simp [marks, hasMark, hcols, hwidths, List.getElem?_append]
  have hnineteen (d : Char) : hasMark (columns p.text) (19, d) = true ↔ m = d := by
    simp [hasMark, hcols, hwidths, List.getElem?_append]
  have hlength : 20 ≤ (columns p.text).length := by
    simp only [hcols, List.length_append, List.length_cons, List.length_map, hwidths]
    omega
  have hfield {name : String} {k n v : Nat} {part : List Char} (hn : n ≤ 9)
      (hpart : Unsigned n v part) (hcut : ((columns p.text).drop k).take n = part.map some) :
      field name (((columns p.text).drop k).take n) = .ok v := by
    rw [hcut, field_of_unsigned hn hpart]
  have hyear : field "year" ((columns p.text).take 4) = .ok c.date.year.toNat :=
    hfield (k := 0) (by decide) h.year (by simp [hcols, hwidths])
  have hmonth : field "month" (((columns p.text).drop 5).take 2) = .ok c.date.month :=
    hfield (by decide) h.month (by simp [hcols, hwidths, List.drop_append, List.drop_of_length_le])
  have hday : field "day" (((columns p.text).drop 8).take 2) = .ok c.date.day :=
    hfield (by decide) h.day (by simp [hcols, hwidths, List.drop_append, List.drop_of_length_le])
  have hhour : field "hour" (((columns p.text).drop 11).take 2) = .ok c.hour :=
    hfield (by decide) h.hour (by simp [hcols, hwidths, List.drop_append, List.drop_of_length_le])
  have hminute : field "minute" (((columns p.text).drop 14).take 2) = .ok c.minute :=
    hfield (by decide) h.minute (by simp [hcols, hwidths, List.drop_append, List.drop_of_length_le])
  have hsecond : field "second" (((columns p.text).drop 17).take 2) = .ok c.second :=
    hfield (by decide) h.second (by simp [hcols, hwidths, List.drop_append, List.drop_of_length_le])
  have htailNanos : tailNanos (columns p.text) = .ok c.nanos := by
    have hbehind : (columns p.text).drop 20 = back := by
      simp [hcols, hwidths, List.drop_append, List.drop_of_length_le]
    simp only [tailNanos, hnineteen, hbehind]
    exact hnanos
  rw [read, readColumns_eq_ok_iff]
  constructor
  · rintro ⟨-, -, d, hvalid, hnonneg, hy, hmo, hd, hho, hmi, hs, hn, ht⟩
    have hyears : d.date.year = c.date.year := by
      rw [← Int.toNat_of_nonneg hnonneg, ← Int.toNat_of_nonneg h.year_nonneg,
        Except.ok.inj (hy.symm.trans hyear)]
    obtain rfl : d = c := by
      obtain ⟨⟨_, _, _⟩, _, _, _, _⟩ := d
      obtain ⟨⟨_, _, _⟩, _, _, _, _⟩ := c
      cases hyears
      cases hmo.symm.trans hmonth
      cases hd.symm.trans hday
      cases hho.symm.trans hhour
      cases hmi.symm.trans hminute
      cases hs.symm.trans hsecond
      cases hn.symm.trans htailNanos
      rfl
    exact ⟨hvalid, ht⟩
  · rintro ⟨hvalid, ht⟩
    refine ⟨⟨hlength, ?_⟩, ⟨hmarks, ?_⟩, c, hvalid, h.year_nonneg, hyear, hmonth, hday, hhour,
      hminute, hsecond, htailNanos, ht⟩
    · rw [hcols, List.getLast?_append, hlast]
      rfl
    · rw [hnineteen, hnineteen]
      exact hm

/-- A text of the form `YYYY-MM-DDTHH:MM:SS[.fraction]Z`, and the civil time that it spells. -/
def IsForm (cs : List Char) (c : Civil) : Prop :=
  ∃ p : Parts, cs = p.text ∧ p.Spells Digits Fraction c

theorem Fraction.openFraction {n : Nat} {z : List Char} (h : Fraction n z) : OpenFraction n z := by
  cases h with
  | whole => exact .whole
  | pointed hwidth hdigits =>
    rename_i width n digits
    cases width with
    | zero =>
      obtain rfl := List.length_eq_zero_iff.1 hdigits.length_eq
      obtain rfl := hdigits.value_eq
      exact .empty
    | succ width => exact .pointed hwidth (hdigits.unsigned width.succ_pos)

theorem Parts.Spells.unsigned {p : Parts} {c : Civil} (h : p.Spells Digits Fraction c) :
    p.Spells Unsigned OpenFraction c :=
  ⟨h.year_nonneg, h.year.unsigned (by decide), h.month.unsigned (by decide),
    h.day.unsigned (by decide), h.hour.unsigned (by decide), h.minute.unsigned (by decide),
    h.second.unsigned (by decide), h.tail.openFraction⟩

theorem digits_of_unsigned {width n : Nat} {cs : List Char} (h : Unsigned width n cs)
    (hplus : '+' ∉ cs) : Digits width n cs := by
  obtain ⟨digits, rfl | rfl, -, hdigits, hvalue⟩ := h.spelled
  · exact ⟨h.length_eq, hdigits, hvalue⟩
  · exact absurd List.mem_cons_self hplus

theorem fraction_of_openFraction {n : Nat} {z : List Char} (h : OpenFraction n z)
    (hplus : '+' ∉ z) (hzulu : 'Z' ∉ z.dropLast) : Fraction n z := by
  cases h with
  | whole => exact .whole
  | overgrown junk =>
    rw [List.dropLast_concat] at hzulu
    exact absurd List.mem_cons_self hzulu
  | empty =>
    have hempty : Digits 0 0 [] := ⟨rfl, by simp, rfl⟩
    exact .pointed (by decide) hempty
  | pointed hwidth hdigits =>
    refine .pointed hwidth (digits_of_unsigned hdigits fun hmem => hplus ?_)
    exact List.mem_append_left _ (List.mem_cons_of_mem _ hmem)

theorem not_mem_of_fraction {n : Nat} {z : List Char} (h : Fraction n z) :
    '+' ∉ z ∧ 'Z' ∉ z.dropLast := by
  cases h with
  | whole => decide
  | pointed hwidth hdigits =>
    have hplus := hdigits.not_mem (show '+'.isDigit = false from rfl)
    have hzulu := hdigits.not_mem (show 'Z'.isDigit = false from rfl)
    rw [List.dropLast_concat]
    simp [hplus, hzulu]

theorem Fraction.ne_nil {n : Nat} {z : List Char} (h : Fraction n z) : z ≠ [] := by
  cases h with
  | whole => exact List.cons_ne_nil _ _
  | pointed hwidth hdigits => exact List.cons_ne_nil _ _

/-- What is neither a digit nor a mark stands in the tail, if anywhere. -/
theorem Parts.mem_text_iff {p : Parts} {c : Civil} {behind : Nat → List Char → Prop}
    (hp : p.Spells Digits behind c) {d : Char} (hdigit : d.isDigit = false)
    (hmarks : d ∉ ['-', 'T', ':']) : d ∈ p.text ↔ d ∈ p.tail := by
  simp only [List.mem_cons, List.not_mem_nil, or_false, not_or] at hmarks
  simp only [text, List.mem_append, List.mem_cons, hp.year.not_mem hdigit, hp.month.not_mem hdigit,
    hp.day.not_mem hdigit, hp.hour.not_mem hdigit, hp.minute.not_mem hdigit,
    hp.second.not_mem hdigit, hmarks, or_self, false_or]

/-- A text of the form has no plus, and no `Z` before its last character. -/
theorem IsForm.not_mem {cs : List Char} {c : Civil} (h : IsForm cs c) :
    '+' ∉ cs ∧ 'Z' ∉ cs.dropLast := by
  obtain ⟨p, rfl, hp⟩ := h
  have htail := not_mem_of_fraction hp.tail
  have hcut : p.text.dropLast = { p with tail := p.tail.dropLast : Parts }.text :=
    List.dropLast_append_of_ne_nil hp.tail.ne_nil
  have hspells : { p with tail := p.tail.dropLast : Parts }.Spells Digits (fun _ _ => True) c :=
    ⟨hp.year_nonneg, hp.year, hp.month, hp.day, hp.hour, hp.minute, hp.second, trivial⟩
  rw [hcut, Parts.mem_text_iff hp rfl (by decide), Parts.mem_text_iff hspells rfl (by decide)]
  exact htail

/-- Of the texts that the reader accepts, those are of the form that have no plus and no `Z` before
the last character; each of these is read as the instant that its digits denote. -/
theorem isForm_iff_of_readCanonical {input : String} {t : Instant}
    (h : readCanonical input = .ok t) :
    (∃ c, IsForm input.toList c ∧ c.IsValid ∧ c.instant 0 = t) ↔
      '+' ∉ input.toList ∧ 'Z' ∉ input.toList.dropLast := by
  obtain ⟨p, c, htext, hp, hvalid, ht⟩ := exists_spells_of_read (mapError_eq_ok_iff.1 h)
  constructor
  · rintro ⟨d, hd, -, -⟩
    exact hd.not_mem
  · rintro ⟨hplus, hzulu⟩
    have htail : 'Z' ∉ p.tail.dropLast := by
      intro hmem
      have hne : p.tail ≠ [] := by
        intro hnil
        rw [hnil] at hmem
        cases hmem
      rw [htext, Parts.text, List.dropLast_append_of_ne_nil hne] at hzulu
      exact hzulu (List.mem_append_right _ hmem)
    rw [htext] at hplus
    simp only [Parts.text, List.mem_append, List.mem_cons, not_or] at hplus
    obtain ⟨⟨⟨⟨⟨⟨hyear, -, hmonth⟩, -, hday⟩, -, hhour⟩, -, hminute⟩, -, hsecond⟩, hplus⟩ := hplus
    refine ⟨c, ⟨p, htext, ?_⟩, hvalid, ht⟩
    exact ⟨hp.year_nonneg, digits_of_unsigned hp.year hyear, digits_of_unsigned hp.month hmonth,
      digits_of_unsigned hp.day hday, digits_of_unsigned hp.hour hhour,
      digits_of_unsigned hp.minute hminute, digits_of_unsigned hp.second hsecond,
      fraction_of_openFraction hp.tail hplus htail⟩

/-- Nine digits, in the last second of the greatest year of four digits. -/
theorem isForm_of_last_nanosecond :
    readCanonical "9999-12-31T23:59:59.999999999Z" = .ok ⟨253402300799, 999999999⟩ ∧
      ∃ c, IsForm "9999-12-31T23:59:59.999999999Z".toList c ∧ c.IsValid ∧
        c.instant 0 = ⟨253402300799, 999999999⟩ := by
  have h : readCanonical "9999-12-31T23:59:59.999999999Z" = .ok ⟨253402300799, 999999999⟩ := rfl
  exact ⟨h, (isForm_iff_of_readCanonical h).2 (by decide +kernel)⟩

/-- A month with a plus, and a text that goes on behind its `Z`, are accepted all the same. -/
theorem readCanonical_beyond_form :
    (readCanonical "2012-+8-28T21:24:35Z" = .ok ⟨1346189075, 0⟩ ∧
      ¬∃ c, IsForm "2012-+8-28T21:24:35Z".toList c) ∧
    (readCanonical "2012-08-28T21:24:35Z or so Z" = .ok ⟨1346189075, 0⟩ ∧
      ¬∃ c, IsForm "2012-08-28T21:24:35Z or so Z".toList c) := by
  refine ⟨⟨rfl, ?_⟩, ⟨rfl, ?_⟩⟩
  · rintro ⟨c, h⟩
    exact h.not_mem.1 (by decide +kernel)
  · rintro ⟨c, h⟩
    exact h.not_mem.2 (by decide +kernel)

end SeriesGateway.Timestamp.Canonical
