import SeriesGateway.Proofs.Timestamp.FullForms
import SeriesGateway.Query

namespace SeriesGateway

open Numeral

/-- An instant with a year of four digits. Part of it beyond a second is a leap second, which only
the last second of a minute has behind it. -/
structure Instant.IsCommon (t : Instant) : Prop where
  year_nonneg : 0 ≤ t.civil.date.year
  year_le : t.civil.date.year ≤ 9999
  nanos_lt : t.nanos < 2_000_000_000
  leap : 1_000_000_000 ≤ t.nanos → t.civil.second = 59

theorem Instant.IsCommon.civil {t : Instant} (h : t.IsCommon) : t.civil.IsCommon where
  toIsValid :=
    Instant.civil_isValid (h.year_nonneg.trans' (by decide)) (h.year_le.trans (by decide))
  year_nonneg := h.year_nonneg
  year_le := h.year_le

namespace Timestamp.Rfc3339

/-- A fraction has a point and enough digits for the nanoseconds, or there are none. -/
theorem fractionText_spec {nanos : Nat} (h : nanos < 1_000_000_000) :
    fractionText nanos = [] ∧ nanos = 0 ∨
      ∃ width n digits, fractionText nanos = '.' :: digits ∧ 0 < width ∧ width ≤ 9 ∧
        Digits width n digits ∧ n * Nat.pow 10 (9 - width) = nanos := by
  unfold fractionText
  split_ifs with hzero hmillis hmicros
  · exact Or.inl ⟨rfl, hzero⟩
  · exact Or.inr ⟨3, _, _, rfl, by decide, by decide, digits_padded (by decide) (by omega),
      Nat.div_mul_cancel (Nat.dvd_of_mod_eq_zero hmillis)⟩
  · exact Or.inr ⟨6, _, _, rfl, by decide, by decide, digits_padded (by decide) (by omega),
      Nat.div_mul_cancel (Nat.dvd_of_mod_eq_zero hmicros)⟩
  · exact Or.inr ⟨9, _, _, rfl, by decide, by decide, digits_padded (by decide) h, Nat.mul_one _⟩

theorem fraction_fractionText {nanos : Nat} (h : nanos < 1_000_000_000) :
    Canonical.Fraction nanos (fractionText nanos ++ ['Z']) := by
  rcases fractionText_spec h with ⟨htext, rfl⟩ | ⟨width, n, digits, htext, -, hle, hdigits, rfl⟩
  · rw [htext]
    exact .whole
  · rw [htext]
    exact .pointed hle hdigits

theorem takeFraction_fractionText {nanos : Nat} (h : nanos < 1_000_000_000) :
    ∃ read, takeFraction (fractionText nanos ++ ['Z']) = some (read, ['Z']) ∧
      read.getD 0 = nanos := by
  rcases fractionText_spec h with ⟨htext, rfl⟩ | ⟨width, n, digits, htext, hpos, hle, hdigits, rfl⟩
  · rw [htext]
    exact ⟨none, rfl, rfl⟩
  · rw [htext]
    exact ⟨_, takeFraction_digits hpos hle hdigits (isDigit_head?_cons rfl _), rfl⟩

/-- What is written of a civil time: the leap second has the number 60. -/
def written (c : Civil) : Civil where
  date := c.date
  hour := c.hour
  minute := c.minute
  second := if 1_000_000_000 ≤ c.nanos then c.second + 1 else c.second
  nanos := if 1_000_000_000 ≤ c.nanos then c.nanos - 1_000_000_000 else c.nanos

/-- The parts of the written text. -/
def writtenParts (c : Civil) : Canonical.Parts :=
  (written c).parts (fractionText (written c).nanos ++ ['Z'])

theorem isBlank_eq_false_of_mem_fraction {nanos : Nat} {tail : List Char}
    (h : Canonical.Fraction nanos tail) {d : Char} (hd : d ∈ tail) : Text.isBlank d = false := by
  cases h with
  | whole =>
    rw [List.mem_singleton.1 hd]
    rfl
  | pointed hwidth hdigits =>
    rcases List.mem_append.1 hd with hfront | hlast
    · rcases List.mem_cons.1 hfront with rfl | hdigit
      · rfl
      · exact Text.isBlank_eq_false_of_isDigit (hdigits.isDigit d hdigit)
    · rw [List.mem_singleton.1 hlast]
      rfl

section

variable {c : Civil} (h : c.IsCommon) (hnanos : c.nanos < 2_000_000_000)

include hnanos in
theorem written_nanos_lt : (written c).nanos < 1_000_000_000 := by
  simp only [written]
  split_ifs <;> omega

include h

theorem civilText_eq_text : civilText c = (writtenParts c).text := by
  have hyear : yearText c.date.year = c.date.yearText := by
    have hnat : c.date.year.natAbs = c.date.year.toNat := by
      have hnonneg := h.year_nonneg
      omega
    rw [yearText, if_pos ⟨h.year_nonneg, h.year_le⟩, Date.yearText, hnat]
  simp only [civilText, hyear, Canonical.Parts.text, writtenParts, Civil.parts, written,
    List.append_assoc]

include hnanos

theorem spells_writtenParts :
    (writtenParts c).Spells Digits Canonical.Fraction (written c) := by
  have hsecond : (written c).second < 100 := by
    have hlt := h.second
    simp only [written]
    split_ifs <;> omega
  exact h.spells_parts hsecond (fraction_fractionText (written_nanos_lt hnanos))

theorem trim_civilText : Text.trim (civilText c) = civilText c := by
  have hspells := spells_writtenParts h hnanos
  rw [civilText_eq_text h]
  exact trim_text hspells (by simp [writtenParts, Civil.parts]) fun d hd =>
    isBlank_eq_false_of_mem_fraction hspells.tail hd

omit hnanos in
/-- A second of the clock is in the canonical form. -/
theorem ofTrimmed?_civilText_of_clock (hclock : c.nanos < 1_000_000_000) :
    ofTrimmed? (civilText c) = some (c.instant 0) := by
  have hspells := spells_writtenParts h (hclock.trans (by decide))
  have hsame : written c = c := by
    rw [written, if_neg (not_le.2 hclock), if_neg (not_le.2 hclock)]
  rw [hsame] at hspells
  rw [civilText_eq_text h]
  exact ofTrimmed?_of_canonical
    ((Canonical.read_text_eq_ok_iff hspells.unsigned).2 ⟨h.toIsValid, rfl⟩)

/-- The canonical form has no second 60. -/
theorem ofTrimmed?_civilText_of_leap (hleap : 1_000_000_000 ≤ c.nanos) (hlast : c.second = 59) :
    ofTrimmed? (civilText c) = some (c.instant 0) := by
  have hspells := spells_writtenParts h hnanos
  have hsecond : (written c).second = 60 := by
    rw [written, if_pos hleap, hlast]
  have hcanonical : canonical? (writtenParts c).text = none :=
    canonical?_text_eq_none hspells.unsigned fun hvalid => by
      have hlt := hvalid.second
      omega
  obtain ⟨nanos, htake, hread⟩ := takeFraction_fractionText (written_nanos_lt hnanos)
  have hbeyond : 1_000_000_000 + nanos.getD 0 = c.nanos := by
    simp only [hread, written, if_pos hleap]
    omega
  rw [civilText_eq_text h]
  refine ofTrimmed?_of_rfc3339 hcanonical ?_
  rw [read?_text hspells htake takeZone_zulu, hsecond]
  exact Fields.instant?_eq ⟨rfl, rfl, rfl, rfl, rfl, rfl, Or.inr ⟨rfl, hlast, hbeyond⟩⟩ h.toIsValid
    h.firstYear_lt h.lt_lastYear (Nat.zero_lt_succ _)

end

end Timestamp.Rfc3339

/-- Writing an instant and reading the text gives it back. -/
theorem readInstant_text {t : Instant} (h : t.IsCommon) :
    readInstant (Timestamp.Rfc3339.text t) = .ok t := by
  have hnanos : t.civil.nanos < 2_000_000_000 := h.nanos_lt
  have hread : Timestamp.ofTrimmed? (Timestamp.Rfc3339.civilText t.civil) =
      some (t.civil.instant 0) := by
    rcases Nat.lt_or_ge t.civil.nanos 1_000_000_000 with hclock | hleap
    · exact Timestamp.Rfc3339.ofTrimmed?_civilText_of_clock h.civil hclock
    · exact Timestamp.Rfc3339.ofTrimmed?_civilText_of_leap h.civil hnanos hleap (h.leap hleap)
  rw [Instant.instant_civil] at hread
  exact Timestamp.readInstant_ofList (Timestamp.Rfc3339.trim_civilText h.civil hnanos) hread

namespace Query

theorem mem_timePair_iff {name other text : String} {t : Option Instant} :
    (other, text) ∈ timePair name t ↔
      other = name ∧ ∃ i, t = some i ∧ text = Timestamp.Rfc3339.text i := by
  cases t <;> simp [timePair]

theorem mem_pairs_from_iff {q : Query} {text : String} :
    ("from", text) ∈ q.pairs ↔ ∃ t, q.earliest = some t ∧ text = Timestamp.Rfc3339.text t := by
  simp [pairs, mem_timePair_iff, fieldPairs, filterPairs]

theorem mem_pairs_to_iff {q : Query} {text : String} :
    ("to", text) ∈ q.pairs ↔ ∃ t, q.latest = some t ∧ text = Timestamp.Rfc3339.text t := by
  simp [pairs, mem_timePair_iff, fieldPairs, filterPairs]

/-- A query has one text for either end of its range, and the text is read back as that end. -/
theorem times_read_back {q : Query} {t : Instant} (h : t.IsCommon) :
    (q.earliest = some t →
      ∃ text, (∀ other, ("from", other) ∈ q.pairs ↔ other = text) ∧ readInstant text = .ok t) ∧
    (q.latest = some t →
      ∃ text, (∀ other, ("to", other) ∈ q.pairs ↔ other = text) ∧ readInstant text = .ok t) := by
  constructor
  · intro hearliest
    refine ⟨Timestamp.Rfc3339.text t, fun other => ?_, readInstant_text h⟩
    simp [mem_pairs_from_iff, hearliest]
  · intro hlatest
    refine ⟨Timestamp.Rfc3339.text t, fun other => ?_, readInstant_text h⟩
    simp [mem_pairs_to_iff, hlatest]

/-- A query up to half a microsecond into the leap second of June 2012. -/
theorem times_read_back_of_leap_second :
    let t : Instant := ⟨1341100799, 1000000500⟩
    let q : Query := { group := ⟨60, 0⟩, latest := some t }
    t.IsCommon ∧ q.pairs = [("group", "60000"), ("to", "2012-06-30T23:59:60.000000500Z")] ∧
      readInstant "2012-06-30T23:59:60.000000500Z" = .ok t := by
  intro t q
  have ht : t.IsCommon := ⟨by decide, by decide, by decide, by decide⟩
  have hpairs : q.pairs = [("group", "60000"), ("to", "2012-06-30T23:59:60.000000500Z")] := by
    decide +kernel
  obtain ⟨text, hmem, hread⟩ := (times_read_back (q := q) ht).2 rfl
  have htext : "2012-06-30T23:59:60.000000500Z" = text := by
    rw [← hmem, hpairs]
    simp
  exact ⟨ht, hpairs, htext ▸ hread⟩

end Query

end SeriesGateway
