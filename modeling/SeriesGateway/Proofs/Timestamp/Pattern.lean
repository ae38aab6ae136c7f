import SeriesGateway.Proofs.Timestamp.Rfc3339

namespace SeriesGateway

open Numeral Timestamp

namespace Date

theorem weekday_lt (d : Date) : d.weekday < 7 := by
  unfold weekday
  omega

/-- The name of a day has three letters, by which it is found. -/
theorem weekdayText_spec (d : Date) :
    d.weekdayText.length = 3 ∧ (∀ c ∈ d.weekdayText, c.isAlpha = true) ∧
      Pattern.takeName Pattern.weekdayNames d.weekdayText = some (d.weekday, []) := by
  have hall : ∀ n < 7, (weekdayTexts.getD n "").toList.length = 3 ∧
      (weekdayTexts.getD n "").toList.all Char.isAlpha = true ∧
      Pattern.takeName Pattern.weekdayNames (weekdayTexts.getD n "").toList = some (n, []) := by
    decide
  obtain ⟨hlength, halpha, htake⟩ := hall d.weekday d.weekday_lt
  exact ⟨hlength, List.all_eq_true.1 halpha, htake⟩

theorem monthText_spec {d : Date} (h : d.isValid = true) :
    d.monthText.length = 3 ∧ (∀ c ∈ d.monthText, c.isAlpha = true) ∧
      Pattern.takeName Pattern.monthNames d.monthText = some (d.month - 1, []) := by
  have hall : ∀ n < 12, (monthTexts.getD n "").toList.length = 3 ∧
      (monthTexts.getD n "").toList.all Char.isAlpha = true ∧
      Pattern.takeName Pattern.monthNames (monthTexts.getD n "").toList = some (n, []) := by
    decide
  have hle := month_le h
  obtain ⟨hlength, halpha, htake⟩ := hall (d.month - 1) (by omega)
  exact ⟨hlength, List.all_eq_true.1 halpha, htake⟩

end Date

namespace Timestamp.Pattern

theorem takeName_append {names : List String} {name : List Char} {n : Nat}
    (hlength : name.length = 3) (h : takeName names name = some (n, [])) (rest : List Char) :
    takeName names (name ++ rest) = some (n, rest) := by
  have htake : (name ++ rest).take 3 = name.take 3 := List.take_append_of_le_length hlength.ge
  have hdrop : (name ++ rest).drop 3 = rest := List.drop_left' hlength
  unfold takeName at h ⊢
  rw [htake, hdrop]
  obtain ⟨place, hplace, heq⟩ := Option.map_eq_some_iff.1 h
  rw [hplace, Option.map_some, (Prod.mk.inj heq).1]

theorem takeName_weekday (d : Date) (rest : List Char) :
    takeName weekdayNames (d.weekdayText ++ rest) = some (d.weekday, rest) := by
  obtain ⟨hlength, -, htake⟩ := d.weekdayText_spec
  exact takeName_append hlength htake rest

/-- The name of a month is found behind a blank. -/
theorem takeName_month {d : Date} (h : d.isValid = true) (rest : List Char) :
    takeName monthNames (Text.trimStart (d.monthText ++ rest)) = some (d.month - 1, rest) := by
  obtain ⟨hlength, halpha, htake⟩ := Date.monthText_spec h
  rw [Text.trimStart_append (List.ne_nil_of_length_eq_add_one hlength) fun c hc =>
    Text.isBlank_eq_false_of_isAlpha (halpha c hc)]
  exact takeName_append hlength htake rest

theorem trimStart_digits_append {width n : Nat} {digits : List Char} (h : Digits width n digits)
    (hwidth : 0 < width) (rest : List Char) : Text.trimStart (digits ++ rest) = digits ++ rest :=
  Text.trimStart_append (h.ne_nil hwidth)
    (fun c hc => Text.isBlank_eq_false_of_isDigit (h.isDigit c hc)) rest

/-- A text that is read as a number of one or two digits, behind white space or without. -/
def IsShort (n : Nat) (cs : List Char) : Prop :=
  ∀ rest : List Char, (∀ c ∈ rest.head?, c.isDigit = false) →
    takeShort (cs ++ rest) = some (n, rest)

theorem IsShort.before {n : Nat} {cs : List Char} (h : IsShort n cs) {c : Char}
    (hc : c.isDigit = false) (rest : List Char) :
    takeShort (cs ++ c :: rest) = some (n, c :: rest) :=
  h _ (isDigit_head?_cons hc rest)

theorem isShort_of_digits {width n : Nat} {digits : List Char} (hpos : 0 < width)
    (hwidth : width ≤ 2) (h : Digits width n digits) : IsShort n digits := by
  intro rest hrest
  have hne := h.ne_nil hpos
  rw [takeShort, trimStart_digits_append h hpos,
    takeNumber_append hne h.isDigit (h.length_eq.trans_le hwidth) hrest, h.value_eq]

theorem isShort_of_pair {n : Nat} {digits : List Char} (h : Digits 2 n digits) :
    IsShort n digits :=
  isShort_of_digits (by decide) le_rfl h

theorem takeShort_trimStart (cs : List Char) : takeShort (Text.trimStart cs) = takeShort cs := by
  rw [takeShort, takeShort, Text.trimStart_trimStart]

theorem takeShort_blank (cs : List Char) : takeShort (' ' :: cs) = takeShort cs :=
  rfl

theorem isShort_spacedDay {d : Date} (h : d.isValid = true) : IsShort d.day d.spacedDay := by
  have hle := Date.day_le h
  have hdigits : Digits (text d.day).length d.day (text d.day) :=
    ⟨rfl, fun _ => isDigit_of_mem_text, value_text d.day⟩
  have hshort : IsShort d.day (text d.day) :=
    isShort_of_digits (List.length_pos_iff.2 (text_ne_nil _))
      ((length_text_le_iff d.day 1).2 (by omega)) hdigits
  unfold Date.spacedDay
  split_ifs
  · intro rest hrest
    exact hshort rest hrest
  · exact hshort

theorem takeYear_digits {n : Nat} {digits : List Char} (h : Digits 4 n digits) {rest : List Char}
    (hrest : ∀ c ∈ rest.head?, c.isDigit = false) :
    takeYear (Text.trimStart (digits ++ rest)) = some ((n : Int), rest) := by
  have hne := h.ne_nil (by decide)
  have htake := takeNumber_append hne h.isDigit h.length_eq.le hrest
  rw [trimStart_digits_append h (by decide)]
  obtain ⟨c, cs, rfl⟩ := List.exists_cons_of_ne_nil hne
  have hsign := h.isDigit c List.mem_cons_self
  unfold takeYear
  split
  · rename_i heq
    cases heq
    cases hsign
  · rename_i heq
    cases heq
    cases hsign
  · rw [htake, h.value_eq]
    rfl

/-- A sign before a year is taken for its sign, with all digits behind it. -/
theorem takeYear_signed {c : Char} (hsign : c = '+' ∨ c = '-') {digits rest : List Char}
    (hne : digits ≠ []) (hdigits : ∀ c ∈ digits, c.isDigit = true)
    (hrest : ∀ c ∈ rest.head?, c.isDigit = false) :
    ∃ n, takeYear (c :: digits ++ rest) = some (n, rest) := by
  have hwidth : digits.length ≤ (digits ++ rest).length := by
    rw [List.length_append]
    omega
  have htake := takeNumber_append hne hdigits hwidth hrest
  rcases hsign with rfl | rfl
  · exact ⟨_, by rw [List.cons_append, takeYear, htake]; rfl⟩
  · exact ⟨_, by rw [List.cons_append, takeYear, htake]; rfl⟩

theorem skipColons_digits {digits : List Char} (hne : digits ≠ [])
    (hdigits : ∀ c ∈ digits, c.isDigit = true) (rest : List Char) :
    skipColons (digits ++ rest) = some (digits ++ rest) := by
  obtain ⟨c, cs, rfl⟩ := List.exists_cons_of_ne_nil hne
  have hc := hdigits c List.mem_cons_self
  have hcolon : (c == ':') = false := by
    rw [beq_eq_false_iff_ne]
    rintro rfl
    cases hc
  rw [skipColons, List.cons_append, List.dropWhile_cons_of_neg]
  rw [hcolon, Text.isBlank_eq_false_of_isDigit hc]
  exact Bool.false_ne_true

/-- An offset is a sign and digits. -/
theorem exists_offsetText {offset : Int} (h : offset.natAbs < 1440) :
    ∃ sign digits, offsetText [] offset = sign :: digits ∧ (sign = '+' ∨ sign = '-') ∧
      digits ≠ [] ∧ ∀ c ∈ digits, c.isDigit = true := by
  have hhours := digits_twoDigits (natAbs_div_lt h)
  have hminutes := digits_twoDigits (n := offset.natAbs % 60) (by omega)
  refine ⟨if offset < 0 then '-' else '+',
    twoDigits (offset.natAbs / 60) ++ twoDigits (offset.natAbs % 60), ?_, ?_, ?_, ?_⟩
  · rw [offsetText, List.append_nil, List.cons_append]
  · split_ifs
    · exact Or.inr rfl
    · exact Or.inl rfl
  · simp [hhours.ne_nil]
  · intro c hc
    rcases List.mem_append.1 hc with hc | hc
    · exact hhours.isDigit c hc
    · exact hminutes.isDigit c hc

/-- The whole of an offset is read, with nothing between its hours and its minutes. -/
theorem takeOffset_trimStart {offset : Int} (h : offset.natAbs < 1440) (rest : List Char) :
    takeOffset skipColons (Text.trimStart (offsetText [] offset ++ rest)) =
      some (offset * 60, rest) := by
  have htrim : Text.trimStart (offsetText [] offset ++ rest) = offsetText [] offset ++ rest := by
    unfold offsetText
    split_ifs <;> exact Text.trimStart_cons rfl
  rw [htrim]
  refine takeOffset_offsetText h rest fun m hm => ?_
  have hdigits := digits_twoDigits (hm.trans (by decide : 60 < 100))
  exact skipColons_digits (hdigits.ne_nil (by decide)) hdigits.isDigit rest

theorem takeOffset_eq_none {c : Char} (hc : c.isAlpha = true) (rest : List Char) :
    takeOffset skipColons (c :: rest) = none := by
  unfold takeOffset
  split
  case h_4 => rfl
  all_goals
    rename_i heq
    cases heq
    cases hc

theorem fields?_append {p : Pattern} {f g : Fields} {cs rest : List Char}
    (h : fields? p f cs = some (g, rest)) (q : Pattern) :
    fields? (p ++ q) f cs = fields? q g rest := by
  induction p generalizing f cs with
  | nil =>
    cases h
    rfl
  | cons directive p ih =>
    obtain ⟨next, hnext, hrest⟩ := Option.bind_eq_some_iff.1 h
    rw [List.cons_append, fields?, hnext]
    exact ih hrest

/-- A day that no comma follows is none of RFC 1123. -/
theorem read?_comma_eq_none (d : Date) (rest : List Char) (p : Pattern) :
    read? (.weekdayName :: .literal ',' :: p) (d.weekdayText ++ ' ' :: rest) = none := by
  have hcomma : takeChar ',' (' ' :: rest) = none := rfl
  simp only [read?, fields?, Directive.read?, takeName_weekday, hcomma, Option.map_some,
    Option.map_none, Option.bind_some, Option.bind_none]

/-- The fields that a pattern without an offset gives. -/
def fieldsOf (c : Civil) : Fields where
  year := some c.date.year
  month := some c.date.month
  day := some c.date.day
  weekday := some c.date.weekday
  hour := some c.hour
  minute := some c.minute
  second := some c.second

/-- What `Tue Aug 28 21:24:35` is read by, at the start of either pattern with the year behind. -/
def stamp : Pattern :=
  [.weekdayName, .blank, .monthName, .blank, .day, .blank] ++ clock

section

variable {c : Civil} (hc : c.IsCommon)

include hc

theorem fields?_clock (f : Fields) {rest : List Char}
    (hrest : ∀ d ∈ rest.head?, d.isDigit = false) :
    fields? clock f (Text.trimStart (c.clockText ++ rest)) =
      some ({ f with hour := some c.hour, minute := some c.minute, second := some c.second },
        rest) := by
  have hhour := (isShort_of_pair hc.digits_hour).before (c := ':') rfl
  have hminute := (isShort_of_pair hc.digits_minute).before (c := ':') rfl
  have hsecond := isShort_of_pair hc.digits_second rest hrest
  simp only [clock, fields?, Directive.read?, takeShort_trimStart, Civil.clockText,
    List.append_assoc, List.cons_append, hhour, hminute, hsecond, takeChar_self, Option.map_some,
    Option.bind_some]

theorem fields?_stamp {day : List Char} (hday : IsShort c.date.day day) {rest : List Char}
    (hrest : ∀ d ∈ rest.head?, d.isDigit = false) :
    fields? stamp {} (c.stampText day ++ rest) =
      some ({ fieldsOf c with year := none }, rest) := by
  have hshort := hday.before (c := ' ') rfl
  have hmonth := Nat.sub_add_cancel (Date.month_pos hc.date)
  simp only [stamp, List.cons_append, List.nil_append, fields?, Directive.read?, Civil.stampText,
    List.append_assoc, Text.trimStart_blank, takeName_weekday, takeName_month hc.date,
    takeShort_trimStart, takeShort_blank, hshort, fields?_clock hc _ hrest, hmonth, Option.map_some,
    Option.bind_some]
  rfl

/-- `Tue, 28 Aug 2012 21:24:35` -/
theorem fields?_rfc1123 {rest : List Char} (hrest : ∀ d ∈ rest.head?, d.isDigit = false) :
    fields? rfc1123 {} (c.rfc1123Stem ++ rest) = some (fieldsOf c, rest) := by
  have hday := (isShort_of_pair hc.digits_day).before (c := ' ') rfl
  have hmonth := Nat.sub_add_cancel (Date.month_pos hc.date)
  have hyear (rest : List Char) :=
    takeYear_digits hc.digits_year (isDigit_head?_cons (c := ' ') rfl rest)
  simp only [rfc1123, List.cons_append, List.nil_append, fields?, Directive.read?,
    Civil.rfc1123Stem, List.append_assoc, Text.trimStart_blank, Text.trimStart_trimStart,
    takeName_weekday, takeName_month hc.date, takeShort_trimStart, takeShort_blank, takeChar_self,
    hday, hyear, Int.toNat_of_nonneg hc.year_nonneg, fields?_clock hc _ hrest, hmonth,
    Option.map_some, Option.bind_some]
  rfl

omit hc in
theorem fields?_blank_offset {offset : Int} (h : offset.natAbs < 1440) (f : Fields)
    (rest : List Char) (p : Pattern) :
    fields? (.blank :: .offset :: p) f (' ' :: (offsetText [] offset ++ rest)) =
      fields? p { f with offset := some (offset * 60) } rest := by
  simp only [fields?, Directive.read?, Text.trimStart_blank, Text.trimStart_trimStart,
    takeOffset_trimStart h, Option.map_some, Option.bind_some]

/-- The year stands at the end of a text. -/
theorem fields?_blank_year (f : Fields) :
    fields? [.blank, .year] f (' ' :: c.date.yearText) =
      some ({ f with year := some c.date.year }, []) := by
  have hyear := takeYear_digits hc.digits_year isDigit_head?_nil
  rw [List.append_nil, Int.toNat_of_nonneg hc.year_nonneg] at hyear
  simp only [fields?, Directive.read?, Text.trimStart_blank, Text.trimStart_trimStart, hyear,
    Option.map_some, Option.bind_some]

omit hc in
theorem read?_eq_instant? {p : Pattern} {cs : List Char} {f : Fields}
    (h : fields? p {} cs = some (f, [])) : p.read? cs = f.instant? := by
  rw [read?, h]

theorem instant?_fieldsOf (hwhole : c.nanos = 0) :
    (fieldsOf c).instant? = some (c.instant 0) :=
  Fields.instant?_eq ⟨rfl, rfl, rfl, rfl, rfl, rfl, Or.inl ⟨rfl, hwhole.symm⟩⟩ hc.toIsValid
    hc.firstYear_lt hc.lt_lastYear (Nat.zero_lt_succ _)

theorem instant?_fieldsOf_offset (hwhole : c.nanos = 0) {offset : Int} (h : offset.natAbs < 1440) :
    Fields.instant? { fieldsOf c with offset := some (offset * 60) } =
      some (c.instant (offset * 60)) := by
  have hday : (offset * 60).natAbs < 86400 := by omega
  exact Fields.instant?_eq ⟨rfl, rfl, rfl, rfl, rfl, rfl, Or.inl ⟨rfl, hwhole.symm⟩⟩ hc.toIsValid
    hc.firstYear_lt hc.lt_lastYear hday

theorem read?_yearLast (hwhole : c.nanos = 0) {day : List Char} (hday : IsShort c.date.day day) :
    yearLast.read? (c.stampText day ++ ' ' :: c.date.yearText) = some (c.instant 0) := by
  have hstamp := fields?_stamp hc hday (isDigit_head?_cons (c := ' ') rfl c.date.yearText)
  have hread : fields? yearLast {} (c.stampText day ++ ' ' :: c.date.yearText) =
      some (fieldsOf c, []) :=
    (fields?_append hstamp _).trans (fields?_blank_year hc _)
  rw [read?_eq_instant? hread, instant?_fieldsOf hc hwhole]

theorem read?_offsetYearLast (hwhole : c.nanos = 0) {offset : Int} (h : offset.natAbs < 1440) :
    offsetYearLast.read? (c.rubyText offset) = some (c.instant (offset * 60)) := by
  have hstamp := fields?_stamp hc (isShort_of_pair hc.digits_day)
    (isDigit_head?_cons (c := ' ') rfl (offsetText [] offset ++ ' ' :: c.date.yearText))
  have hread : fields? offsetYearLast {} (c.rubyText offset) =
      some ({ fieldsOf c with offset := some (offset * 60) }, []) := by
    rw [Civil.rubyText, List.append_assoc]
    exact (fields?_append hstamp _).trans
      ((fields?_blank_offset h _ _ _).trans (fields?_blank_year hc _))
  rw [read?_eq_instant? hread, instant?_fieldsOf_offset hc hwhole h]

/-- The pattern takes the offset for the year, and stops before the year. -/
theorem read?_yearLast_rubyText {offset : Int} (h : offset.natAbs < 1440) :
    yearLast.read? (c.rubyText offset) = none := by
  obtain ⟨sign, digits, htext, hsign, hne, hdigits⟩ := exists_offsetText h
  have hstamp := fields?_stamp hc (isShort_of_pair hc.digits_day)
    (isDigit_head?_cons (c := ' ') rfl (sign :: digits ++ ' ' :: c.date.yearText))
  obtain ⟨n, hyear⟩ := takeYear_signed hsign hne hdigits
    (isDigit_head?_cons (c := ' ') rfl c.date.yearText)
  have htrim : Text.trimStart (sign :: digits ++ ' ' :: c.date.yearText) =
      sign :: digits ++ ' ' :: c.date.yearText := by
    rcases hsign with rfl | rfl <;> exact Text.trimStart_cons rfl
  have hread : fields? yearLast {} (c.rubyText offset) =
      some ({ fieldsOf c with year := some n }, ' ' :: c.date.yearText) := by
    rw [Civil.rubyText, htext, List.append_assoc]
    refine (fields?_append hstamp _).trans ?_
    simp only [fields?, Directive.read?, Text.trimStart_blank, htrim, hyear, Option.map_some,
      Option.bind_some]
  rw [read?, hread]

theorem read?_rfc1123Offset (hwhole : c.nanos = 0) {offset : Int} (h : offset.natAbs < 1440) :
    rfc1123Offset.read? (c.rfc1123Text (offsetText [] offset)) =
      some (c.instant (offset * 60)) := by
  have hstem := fields?_rfc1123 hc (isDigit_head?_cons (c := ' ') rfl (offsetText [] offset ++ []))
  have hread : fields? rfc1123Offset {} (c.rfc1123Text (offsetText [] offset)) =
      some ({ fieldsOf c with offset := some (offset * 60) }, []) := by
    rw [Civil.rfc1123Text, ← List.append_nil (offsetText [] offset)]
    exact (fields?_append hstem _).trans (fields?_blank_offset h _ _ _)
  rw [read?_eq_instant? hread, instant?_fieldsOf_offset hc hwhole h]

/-- A name is no offset. -/
theorem read?_rfc1123Offset_eq_none {d : Char} (hd : d.isAlpha = true) (zone : List Char) :
    rfc1123Offset.read? (c.rfc1123Text (d :: zone)) = none := by
  have hstem := fields?_rfc1123 hc (isDigit_head?_cons (c := ' ') rfl (d :: zone))
  have hread : fields? rfc1123Offset {} (c.rfc1123Text (d :: zone)) = none := by
    refine (fields?_append hstem _).trans ?_
    simp only [fields?, Directive.read?, Text.trimStart_blank,
      Text.trimStart_cons (Text.isBlank_eq_false_of_isAlpha hd), takeOffset_eq_none hd,
      Option.map_none, Option.bind_none, Option.bind_some]
  rw [read?, hread]

theorem read?_rfc1123 (hwhole : c.nanos = 0) :
    rfc1123.read? c.rfc1123Stem = some (c.instant 0) := by
  have hread := fields?_rfc1123 hc isDigit_head?_nil
  rw [List.append_nil] at hread
  rw [read?_eq_instant? hread, instant?_fieldsOf hc hwhole]

end

end Timestamp.Pattern

end SeriesGateway
