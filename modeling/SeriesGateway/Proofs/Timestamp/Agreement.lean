import SeriesGateway.Proofs.Query.Times
import SeriesGateway.Proofs.Timestamp.Integer

namespace SeriesGateway

open Numeral

/-- A valid date and minute in second 60. -/
structure Civil.IsSixty (c : Civil) : Prop where
  date : c.date.isValid = true
  hour : c.hour < 24
  minute : c.minute < 60
  second : c.second = 60

/-- Second 60 is the leap second behind second 59. -/
def Civil.inLeapSecond (c : Civil) : Civil where
  date := c.date
  hour := c.hour
  minute := c.minute
  second := 59
  nanos := 1_000_000_000 + c.nanos

theorem Civil.IsSixty.inLeapSecond {c : Civil} (h : c.IsSixty) : c.inLeapSecond.IsValid :=
  ⟨h.date, h.hour, h.minute, Nat.lt_add_one 59⟩

namespace Timestamp.Fields

variable {f : Fields} {c : Civil}

theorem isValid_of_date? {date : Date} (hyear : f.year = some c.date.year)
    (hmonth : f.month = some c.date.month) (hday : f.day = some c.date.day)
    (h : f.date? = some date) : c.date.isValid = true := by
  rw [date?, hyear, hmonth, hday] at h
  simp only [Option.bind_eq_bind, Option.bind_some] at h
  obtain ⟨read, hread, -⟩ := Option.bind_eq_some_iff.1 h
  obtain ⟨rfl, hvalid⟩ := Date.of?_eq_some_iff.1 hread
  exact hvalid

/-- Fields that are those of no time and of no leap second make up no instant. -/
theorem instant?_eq_none (hyear : f.year = some c.date.year)
    (hmonth : f.month = some c.date.month) (hday : f.day = some c.date.day)
    (hhour : f.hour = some c.hour) (hminute : f.minute = some c.minute)
    (hsecond : f.second = some c.second) (hvalid : ¬c.IsValid) (hsixty : ¬c.IsSixty) :
    f.instant? = none := by
  have hcivil : f.civil? = none := by
    cases hdate : f.date? with
    | none =>
      rw [civil?, hdate]
      rfl
    | some date =>
      have hisValid := isValid_of_date? hyear hmonth hday hdate
      have hbeyond : 24 ≤ c.hour ∨ 60 ≤ c.minute ∨ 61 ≤ c.second := by
        by_contra! hwithin
        obtain ⟨hh, hm, hs⟩ := hwithin
        rcases Nat.lt_succ_iff_lt_or_eq.1 hs with hlt | heq
        · exact hvalid ⟨hisValid, hh, hm, hlt⟩
        · exact hsixty ⟨hisValid, hh, hm, heq⟩
      rw [civil?, hdate]
      simp only [Option.bind_eq_bind, Option.bind_some, hhour, hminute, hsecond, Option.getD_some]
      rw [if_pos hbeyond]
  rw [instant?, hcivil]
  rfl

end Timestamp.Fields

namespace Timestamp.Canonical

/-- So many characters, all of them digits. -/
def AreDigits (width : Nat) (cs : List Char) : Prop :=
  cs.length = width ∧ ∀ c ∈ cs, c.isDigit = true

/-- A final `Z`, behind a point and one to nine digits if there is a point. -/
def IsTail (cs : List Char) : Prop :=
  cs = ['Z'] ∨ ∃ width digits, 0 < width ∧ width ≤ 9 ∧ AreDigits width digits ∧
    cs = '.' :: digits ++ ['Z']

/-- Groups of digits with their marks. -/
structure Parts.IsShaped (p : Parts) : Prop where
  year : AreDigits 4 p.year
  month : AreDigits 2 p.month
  day : AreDigits 2 p.day
  hour : AreDigits 2 p.hour
  minute : AreDigits 2 p.minute
  second : AreDigits 2 p.second
  tail : IsTail p.tail

/-- The nanoseconds that such a tail denotes. -/
inductive ExactFraction : Nat → List Char → Prop
  | whole : ExactFraction 0 ['Z']
  | pointed {width n : Nat} {digits : List Char} (hpos : 0 < width) (hwidth : width ≤ 9)
    (hdigits : Digits width n digits) :
    ExactFraction (n * Nat.pow 10 (9 - width)) ('.' :: digits ++ ['Z'])

/-- A text of the canonical shape, digits in groups of four and two and a fraction or none, and the
numbers that its digits denote. They need not be those of a time. -/
def Shows (cs : List Char) (c : Civil) : Prop :=
  ∃ p : Parts, cs = p.text ∧ p.Spells Digits ExactFraction c

theorem areDigits_iff {width : Nat} {cs : List Char} :
    AreDigits width cs ↔ ∃ n, Digits width n cs :=
  ⟨fun h => ⟨_, h.1, h.2, rfl⟩, fun ⟨_, h⟩ => ⟨h.length_eq, h.isDigit⟩⟩

theorem isTail_iff {cs : List Char} : IsTail cs ↔ ∃ nanos, ExactFraction nanos cs := by
  constructor
  · rintro (rfl | ⟨width, digits, hpos, hwidth, hdigits, rfl⟩)
    · exact ⟨0, .whole⟩
    · obtain ⟨n, hn⟩ := areDigits_iff.1 hdigits
      exact ⟨_, .pointed hpos hwidth hn⟩
  · rintro ⟨nanos, h⟩
    cases h with
    | whole => exact Or.inl rfl
    | pointed hpos hwidth hdigits =>
      exact Or.inr ⟨_, _, hpos, hwidth, areDigits_iff.2 ⟨_, hdigits⟩, rfl⟩

/-- The digits of every text of the shape denote some numbers. -/
theorem exists_shows_iff {cs : List Char} :
    (∃ c, Shows cs c) ↔ ∃ p : Parts, cs = p.text ∧ p.IsShaped := by
  constructor
  · rintro ⟨c, p, hcs, hp⟩
    exact ⟨p, hcs, areDigits_iff.2 ⟨_, hp.year⟩, areDigits_iff.2 ⟨_, hp.month⟩,
      areDigits_iff.2 ⟨_, hp.day⟩, areDigits_iff.2 ⟨_, hp.hour⟩, areDigits_iff.2 ⟨_, hp.minute⟩,
      areDigits_iff.2 ⟨_, hp.second⟩, isTail_iff.2 ⟨_, hp.tail⟩⟩
  · rintro ⟨p, hcs, hp⟩
    obtain ⟨year, hyear⟩ := areDigits_iff.1 hp.year
    obtain ⟨month, hmonth⟩ := areDigits_iff.1 hp.month
    obtain ⟨day, hday⟩ := areDigits_iff.1 hp.day
    obtain ⟨hour, hhour⟩ := areDigits_iff.1 hp.hour
    obtain ⟨minute, hminute⟩ := areDigits_iff.1 hp.minute
    obtain ⟨second, hsecond⟩ := areDigits_iff.1 hp.second
    obtain ⟨nanos, htail⟩ := isTail_iff.1 hp.tail
    exact ⟨⟨⟨year, month, day⟩, hour, minute, second, nanos⟩, p, hcs, Int.natCast_nonneg _, hyear,
      hmonth, hday, hhour, hminute, hsecond, htail⟩

theorem ExactFraction.fraction {n : Nat} {z : List Char} (h : ExactFraction n z) :
    Fraction n z := by
  cases h with
  | whole => exact .whole
  | pointed _ hwidth hdigits => exact .pointed hwidth hdigits

theorem ExactFraction.takeFraction {n : Nat} {z : List Char} (h : ExactFraction n z) :
    ∃ read, Rfc3339.takeFraction z = some (read, ['Z']) ∧ read.getD 0 = n := by
  cases h with
  | whole => exact ⟨none, rfl, rfl⟩
  | pointed hpos hwidth hdigits =>
    exact ⟨_, Rfc3339.takeFraction_digits hpos hwidth hdigits (isDigit_head?_cons rfl _), rfl⟩

/-- A tail has two characters to ten more than that, or one. -/
theorem ExactFraction.length {n : Nat} {z : List Char} (h : ExactFraction n z) :
    z.length = 1 ∨ 3 ≤ z.length ∧ z.length ≤ 11 := by
  cases h with
  | whole => exact Or.inl rfl
  | pointed hpos hwidth hdigits =>
    have hlength := hdigits.length_eq
    simp only [List.cons_append, List.length_cons, List.length_append, List.length_nil]
    omega

/-- What may stand in a text of the shape. -/
def IsLetter (d : Char) : Prop :=
  d.isDigit = true ∨ d ∈ ['-', 'T', ':', '.', 'Z']

instance (d : Char) : Decidable (IsLetter d) :=
  inferInstanceAs (Decidable (_ ∨ _))

theorem IsLetter.utf8Size {d : Char} (h : IsLetter d) : d.utf8Size = 1 := by
  rcases h with hdigit | hmark
  · exact utf8Size_of_isDigit hdigit
  · simp only [List.mem_cons, List.not_mem_nil, or_false] at hmark
    rcases hmark with rfl | rfl | rfl | rfl | rfl <;> rfl

theorem ExactFraction.isLetter {n : Nat} {z : List Char} (h : ExactFraction n z) :
    ∀ d ∈ z, IsLetter d := by
  cases h with
  | whole => simp [IsLetter]
  | pointed hpos hwidth hdigits =>
    simp only [List.cons_append, List.forall_mem_cons, List.forall_mem_append]
    exact ⟨Or.inr (by simp), fun d hd => Or.inl (hdigits.isDigit d hd), by simp [IsLetter]⟩

section

variable {p : Parts} {c : Civil} (hp : p.Spells Digits ExactFraction c)

include hp

theorem Parts.Spells.closed : p.Spells Digits Fraction c :=
  { hp with tail := hp.tail.fraction }

theorem year_lt : c.date.year < 10000 := by
  have hvalue := value_lt hp.year.isDigit
  rw [hp.year.value_eq, hp.year.length_eq] at hvalue
  omega

theorem isLetter_of_mem_text : ∀ d ∈ p.text, IsLetter d := by
  have hdigits {width n : Nat} {cs : List Char} (h : Digits width n cs) : ∀ d ∈ cs, IsLetter d :=
    fun d hd => Or.inl (h.isDigit d hd)
  have hmark {d : Char} (hd : d ∈ ['-', 'T', ':', '.', 'Z']) : IsLetter d := Or.inr hd
  simp only [Parts.text, List.forall_mem_append, List.forall_mem_cons]
  exact ⟨⟨⟨⟨⟨⟨hdigits hp.year, hmark (by decide), hdigits hp.month⟩, hmark (by decide),
    hdigits hp.day⟩, hmark (by decide), hdigits hp.hour⟩, hmark (by decide), hdigits hp.minute⟩,
    hmark (by decide), hdigits hp.second⟩, hp.tail.isLetter⟩

theorem size_text : Utf8.size p.text = 19 + p.tail.length := by
  rw [size_of_narrow fun d hd => (isLetter_of_mem_text hp d hd).utf8Size]
  simp only [Parts.text, List.length_append, List.length_cons, hp.year.length_eq,
    hp.month.length_eq, hp.day.length_eq, hp.hour.length_eq, hp.minute.length_eq,
    hp.second.length_eq]

theorem rfc3339?_of_isValid (hc : c.IsValid) : Rfc3339.read? p.text = some (c.instant 0) := by
  obtain ⟨nanos, htake, hnanos⟩ := hp.tail.takeFraction
  rw [Rfc3339.read?_text hp htake Rfc3339.takeZone_zulu]
  have hyear := year_lt hp
  have hnonneg := hp.year_nonneg
  exact Fields.instant?_eq ⟨rfl, rfl, rfl, rfl, rfl, rfl, Or.inl ⟨rfl, hnanos⟩⟩ hc
    (by simp only [Calendar.firstYear]; omega) (by simp only [Calendar.lastYear]; omega)
    (Nat.zero_lt_succ _)

theorem rfc3339?_of_isSixty (hc : c.IsSixty) :
    Rfc3339.read? p.text = some (c.inLeapSecond.instant 0) := by
  obtain ⟨nanos, htake, hnanos⟩ := hp.tail.takeFraction
  rw [Rfc3339.read?_text hp htake Rfc3339.takeZone_zulu, hc.second]
  have hyear := year_lt hp
  have hnonneg := hp.year_nonneg
  exact Fields.instant?_eq ⟨rfl, rfl, rfl, rfl, rfl, rfl,
    Or.inr ⟨rfl, rfl, congrArg (1_000_000_000 + ·) hnanos⟩⟩ hc.inLeapSecond
    (by simp only [Calendar.firstYear, Civil.inLeapSecond]; omega)
    (by simp only [Calendar.lastYear, Civil.inLeapSecond]; omega) (Nat.zero_lt_succ _)

theorem rfc3339?_eq_none (hvalid : ¬c.IsValid) (hsixty : ¬c.IsSixty) :
    Rfc3339.read? p.text = none := by
  obtain ⟨nanos, htake, -⟩ := hp.tail.takeFraction
  rw [Rfc3339.read?_text hp htake Rfc3339.takeZone_zulu]
  exact Fields.instant?_eq_none rfl rfl rfl rfl rfl rfl hvalid hsixty

/-- Such a text is longer than a date that is cut off. -/
theorem truncated?_text_eq_none : truncated? p.text = none := by
  have hlength := hp.tail.length
  rw [truncated?, size_text hp]
  split <;> first | omega | rfl

theorem blank_not_mem_text : ' ' ∉ p.text := by
  intro hmem
  have hletter := isLetter_of_mem_text hp _ hmem
  revert hletter
  decide

/-- None of the forms that are tried behind RFC 3339 picks up such a text. -/
theorem ofTrimmed?_eq_none (hvalid : ¬c.IsValid) (hsixty : ¬c.IsSixty) :
    ofTrimmed? p.text = none := by
  have hcanonical := canonical?_text_eq_none hp.closed.unsigned hvalid
  have hrfc := rfc3339?_eq_none hp hvalid hsixty
  have hinteger := integer?_text_eq_none p
  have htruncated := truncated?_text_eq_none hp
  have hblank := blank_not_mem_text hp
  obtain ⟨d, ds, hyear⟩ := List.exists_cons_of_ne_nil (hp.year.ne_nil (by decide))
  have hdigit : d.isDigit = true := hp.year.isDigit d (by rw [hyear]; exact List.mem_cons_self)
  have hletter := isAlpha_eq_false_of_isDigit hdigit
  obtain ⟨rest, htext⟩ : ∃ rest, p.text = d :: rest := by
    simp only [Parts.text, hyear, List.cons_append, List.append_assoc]
    exact ⟨_, rfl⟩
  rw [htext] at hcanonical hrfc hinteger htruncated hblank ⊢
  simp only [ofTrimmed?, forms, List.findSome?_cons, List.findSome?_nil, hinteger, hcanonical,
    hrfc, rfc1123?_eq_none hletter hblank, zoneYearLast?_eq_none hblank, Pattern.yearLast,
    Pattern.offsetYearLast, List.cons_append, read?_weekdayName_eq_none hletter, htruncated]

theorem trim_of_spells : Text.trim p.text = p.text :=
  trim_text hp hp.tail.fraction.ne_nil fun _ hd =>
    Rfc3339.isBlank_eq_false_of_mem_fraction hp.tail.fraction hd

end

end Timestamp.Canonical

open Timestamp Canonical

/-- Where a text of the canonical shape shows a time of the calendar, all readers give the instant
of it, to the nanosecond. Where it shows second 60 of such a minute, the readers of more than the
canonical form give the leap second. Any other text of the shape is refused. -/
theorem readers_agree (input : String) :
    ((∃ c, Shows input.toList c) ↔ ∃ p : Parts, input.toList = p.text ∧ p.IsShaped) ∧
    ∀ c, Shows input.toList c →
      ((∃ t, readCanonical input = .ok t) ↔ c.IsValid) ∧
      (c.IsValid → readCanonical input = .ok (c.instant 0) ∧
        Rfc3339.read? input.toList = some (c.instant 0) ∧
        readInstant input = .ok (c.instant 0)) ∧
      (c.IsSixty → Rfc3339.read? input.toList = some (c.inLeapSecond.instant 0) ∧
        readInstant input = .ok (c.inLeapSecond.instant 0)) ∧
      (¬c.IsValid → ¬c.IsSixty → Rfc3339.read? input.toList = none ∧
        readInstant input = .error (.timestamp input)) := by
  refine ⟨exists_shows_iff, ?_⟩
  rintro c ⟨p, htext, hp⟩
  have htrim := trim_of_spells hp
  have hcanonical {t : Instant} := read_text_eq_ok_iff hp.closed.unsigned (t := t)
  have hread {t : Instant} (h : ofTrimmed? p.text = some t) : readInstant input = .ok t := by
    rw [← String.ofList_toList (s := input), htext]
    exact readInstant_ofList htrim h
  refine ⟨⟨?_, ?_⟩, ?_, ?_, ?_⟩
  · rintro ⟨t, ht⟩
    rw [readCanonical, htext, mapError_eq_ok_iff] at ht
    exact (hcanonical.1 ht).1
  · intro hvalid
    refine ⟨c.instant 0, ?_⟩
    rw [readCanonical, htext, mapError_eq_ok_iff]
    exact hcanonical.2 ⟨hvalid, rfl⟩
  · intro hvalid
    have hok := hcanonical.2 ⟨hvalid, rfl⟩
    refine ⟨?_, ?_, hread (ofTrimmed?_of_canonical hok)⟩
    · rw [readCanonical, htext, mapError_eq_ok_iff]
      exact hok
    · rw [htext]
      exact rfc3339?_of_isValid hp hvalid
  · intro hsixty
    have hnone := canonical?_text_eq_none hp.closed.unsigned fun hvalid =>
      absurd hsixty.second hvalid.second.ne
    have hrfc := rfc3339?_of_isSixty hp hsixty
    rw [htext]
    exact ⟨hrfc, hread (ofTrimmed?_of_rfc3339 hnone hrfc)⟩
  · intro hvalid hsixty
    have hinput : String.ofList p.text = input := by rw [← htext, String.ofList_toList]
    rw [htext, readInstant, Timestamp.read, htext, htrim, ofTrimmed?_eq_none hp hvalid hsixty]
    exact ⟨rfc3339?_eq_none hp hvalid hsixty, by rw [hinput]; rfl⟩

end SeriesGateway
