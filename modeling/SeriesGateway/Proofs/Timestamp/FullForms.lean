import SeriesGateway.Proofs.Failure
import SeriesGateway.Proofs.Timestamp.Pattern

namespace SeriesGateway.Timestamp

open Numeral

/-- Forms that fit a text in no way. -/
def Refuse (others : List (List Char → Option Instant)) (cs : List Char) : Prop :=
  ∀ other ∈ others, other cs = none

theorem Refuse.snoc {others : List (List Char → Option Instant)} {cs : List Char}
    (h : Refuse others cs) {form : List Char → Option Instant} (hform : form cs = none) :
    Refuse (others ++ [form]) cs := by
  intro other hother
  rcases List.mem_append.1 hother with hmem | hmem
  · exact h other hmem
  · rw [List.mem_singleton.1 hmem]
    exact hform

/-- The first form that fits a text gives the instant. -/
theorem ofTrimmed?_of_form {before after : List (List Char → Option Instant)}
    {form : List Char → Option Instant} (hforms : forms = before ++ form :: after)
    {cs : List Char} (hbefore : Refuse before cs) {t : Instant} (h : form cs = some t) :
    ofTrimmed? cs = some t := by
  have hnone : before.findSome? (fun other => other cs) = none :=
    List.findSome?_eq_none_iff.2 hbefore
  rw [ofTrimmed?, hforms, List.findSome?_append, hnone, Option.none_or, List.findSome?_cons, h]

theorem integer?_eq_none {cs : List Char} {c : Char} (hc : c.isDigit = false)
    (hsign : c ≠ '+' ∧ c ≠ '-') (h : c ∈ cs) : integer? cs = none := by
  rw [integer?, int64?, signed?_eq_none hc hsign h]
  rfl

theorem integer?_eq_none_of_isAlpha {c : Char} (hc : c.isAlpha = true) (rest : List Char) :
    integer? (c :: rest) = none := by
  refine integer?_eq_none (isDigit_eq_false_of_isAlpha hc) ⟨?_, ?_⟩ List.mem_cons_self
  · rintro rfl
    cases hc
  · rintro rfl
    cases hc

theorem canonical?_eq_none_of_isAlpha {c : Char} (hc : c.isAlpha = true) (rest : List Char) :
    canonical? (c :: rest) = none := by
  cases hread : Canonical.read (c :: rest) with
  | error fault =>
    rw [canonical?, hread]
    rfl
  | ok t =>
    obtain ⟨p, d, htext, hp, -⟩ := Canonical.exists_spells_of_read hread
    obtain ⟨digits, hyear, hne, hdigits, -⟩ := hp.year.spelled
    obtain ⟨e, es, rfl⟩ := List.exists_cons_of_ne_nil hne
    rw [Canonical.Parts.text] at htext
    rcases hyear with hyear | hyear
    · rw [hyear] at htext
      obtain ⟨rfl, -⟩ := List.cons.inj htext
      have hdigit := hdigits c List.mem_cons_self
      rw [isDigit_eq_false_of_isAlpha hc] at hdigit
      cases hdigit
    · rw [hyear] at htext
      obtain ⟨rfl, -⟩ := List.cons.inj htext
      cases hc

theorem rfc3339?_eq_none_of_isAlpha {c : Char} (hc : c.isAlpha = true) (rest : List Char) :
    Rfc3339.read? (c :: rest) = none := by
  rw [Rfc3339.read?, takeExactly_eq_none (isDigit_eq_false_of_isAlpha hc)]
  rfl

theorem integer?_text_eq_none (p : Canonical.Parts) : integer? p.text = none :=
  integer?_eq_none (c := 'T') rfl (by decide) (by simp [Canonical.Parts.text])

theorem splitLast_append {last : List Char} (h : ' ' ∉ last) (front : List Char) :
    splitLast (front ++ ' ' :: last) = some (front, last) := by
  have hinside : ∀ c ∈ last.reverse, (c != ' ') = true := by
    intro c hc
    rw [bne_iff_ne]
    rintro rfl
    exact h (List.mem_reverse.1 hc)
  have htail : (front ++ ' ' :: last).reverse.takeWhile (· != ' ') = last.reverse := by
    rw [List.reverse_append, List.reverse_cons, List.append_assoc,
      List.takeWhile_append_of_pos hinside]
    exact List.append_nil _
  have hcut : (front ++ ' ' :: last).length - last.length - 1 = front.length := by
    rw [List.length_append, List.length_cons]
    omega
  rw [splitLast]
  simp only [htail, List.length_reverse, hcut, List.take_left, List.reverse_reverse]
  rw [if_neg]
  rw [List.length_append, List.length_cons]
  omega

theorem dropZoneName_append {zone : List Char} (hne : zone ≠ [])
    (h : ∀ c ∈ zone, c.isAlpha = true) (front : List Char) :
    dropZoneName (front ++ ' ' :: zone) = some front := by
  have hblank : ' ' ∉ zone := fun hmem => Bool.false_ne_true (h ' ' hmem)
  rw [dropZoneName, splitLast_append hblank]
  simpa [hne] using h

/-- What is no name is not dropped. -/
theorem dropZoneName_eq_none_of_mem {last : List Char} (h : ' ' ∉ last) {c : Char}
    (hc : c.isAlpha = false) (hmem : c ∈ last) (front : List Char) :
    dropZoneName (front ++ ' ' :: last) = none := by
  rw [dropZoneName, splitLast_append h]
  simpa using fun _ => ⟨c, hmem, hc⟩

theorem zoneYearLast?_append {year : List Char} (h : ' ' ∉ year) (front : List Char) :
    zoneYearLast? (front ++ ' ' :: year) =
      (dropZoneName front).bind fun stem => Pattern.yearLast.read? (stem ++ ' ' :: year) := by
  rw [zoneYearLast?, splitLast_append h]
  rfl

/-- The name of a day is no integer and no year. -/
theorem refuse_of_weekdayText {d : Date} {cs : List Char} (h : d.weekdayText <+: cs) :
    Refuse [integer?, canonical?, Rfc3339.read?] cs := by
  obtain ⟨rest, rfl⟩ := h
  obtain ⟨hlength, halpha, -⟩ := d.weekdayText_spec
  obtain ⟨c, cs, hname⟩ := List.exists_cons_of_length_eq_add_one hlength
  rw [hname] at halpha ⊢
  have hc := halpha c List.mem_cons_self
  simp [Refuse, integer?_eq_none_of_isAlpha hc, canonical?_eq_none_of_isAlpha hc,
    rfc3339?_eq_none_of_isAlpha hc]

theorem trim_of_weekdayText {d : Date} {cs back : List Char} (h : d.weekdayText <+: cs)
    (hback : back <:+ cs) (hne : back ≠ []) (hblank : ∀ c ∈ back, Text.isBlank c = false) :
    Text.trim cs = cs := by
  obtain ⟨hlength, halpha, -⟩ := d.weekdayText_spec
  exact Text.trim_of_ends h hback ⟨List.ne_nil_of_length_eq_add_one hlength, hne⟩
    ⟨fun c hc => Text.isBlank_eq_false_of_isAlpha (halpha c hc), hblank⟩

theorem weekdayText_prefix_rfc1123Text (c : Civil) (zone : List Char) :
    c.date.weekdayText <+: c.rfc1123Text zone := by
  simp only [Civil.rfc1123Text, Civil.rfc1123Stem, List.append_assoc]
  exact List.prefix_append _ _

theorem weekdayText_prefix_stampText (c : Civil) (day behind : List Char) :
    c.date.weekdayText <+: c.stampText day ++ behind ++ ' ' :: c.date.yearText := by
  simp only [Civil.stampText, List.append_assoc]
  exact List.prefix_append _ _

theorem trim_rfc1123Text (c : Civil) {zone : List Char} (hne : zone ≠ [])
    (hblank : ∀ d ∈ zone, Text.isBlank d = false) :
    Text.trim (c.rfc1123Text zone) = c.rfc1123Text zone := by
  have hzone : zone <:+ c.rfc1123Text zone := by
    rw [Civil.rfc1123Text, List.append_cons]
    exact List.suffix_append _ _
  exact trim_of_weekdayText (weekdayText_prefix_rfc1123Text c zone) hzone hne hblank

section

variable {c : Civil} (hc : c.IsCommon)

include hc

theorem not_mem_yearText : ' ' ∉ c.date.yearText :=
  hc.digits_year.not_mem rfl

theorem not_mem_clockText : ' ' ∉ c.clockText := by
  simp [Civil.clockText, hc.digits_hour.not_mem, hc.digits_minute.not_mem, hc.digits_second.not_mem]

theorem rfc1123?_eq_none_of_stamp (day behind : List Char) :
    rfc1123? (c.stampText day ++ behind ++ ' ' :: c.date.yearText) = none := by
  obtain ⟨d, ds, hyear⟩ := List.exists_cons_of_ne_nil (hc.digits_year.ne_nil (by decide))
  have hmem : d ∈ c.date.yearText := by
    rw [hyear]
    exact List.mem_cons_self
  have hd := isAlpha_eq_false_of_isDigit (hc.digits_year.isDigit d hmem)
  have hcomma : Pattern.rfc1123Offset.read?
      (c.stampText day ++ behind ++ ' ' :: c.date.yearText) = none := by
    rw [Civil.stampText]
    simp only [List.append_assoc, List.cons_append]
    exact Pattern.read?_comma_eq_none c.date _ _
  rw [rfc1123?, hcomma, dropZoneName_eq_none_of_mem (not_mem_yearText hc) hd hmem]
  rfl

theorem trim_stampText (day behind : List Char) :
    Text.trim (c.stampText day ++ behind ++ ' ' :: c.date.yearText) =
      c.stampText day ++ behind ++ ' ' :: c.date.yearText := by
  have hyear : c.date.yearText <:+ c.stampText day ++ behind ++ ' ' :: c.date.yearText := by
    rw [List.append_cons]
    exact List.suffix_append _ _
  exact trim_of_weekdayText (weekdayText_prefix_stampText c day behind) hyear
    (hc.digits_year.ne_nil (by decide))
    fun d hd => Text.isBlank_eq_false_of_isDigit (hc.digits_year.isDigit d hd)

/-- `Tue, 28 Aug 2012 21:24:35 +0200` -/
theorem ofTrimmed?_rfc1123Text (hwhole : c.nanos = 0) {offset : Int} (h : offset.natAbs < 1440) :
    ofTrimmed? (c.rfc1123Text (offsetText [] offset)) = some (c.instant (offset * 60)) := by
  have hforms : forms = [integer?, canonical?, Rfc3339.read?] ++ rfc1123? :: forms.drop 4 := rfl
  refine ofTrimmed?_of_form hforms (refuse_of_weekdayText (weekdayText_prefix_rfc1123Text c _)) ?_
  rw [rfc1123?, Pattern.read?_rfc1123Offset hc hwhole h]
  rfl

/-- `Tue, 28 Aug 2012 21:24:35 UTC` -/
theorem ofTrimmed?_rfc1123Text_name (hwhole : c.nanos = 0) {zone : List Char} (hne : zone ≠ [])
    (hzone : ∀ d ∈ zone, d.isAlpha = true) :
    ofTrimmed? (c.rfc1123Text zone) = some (c.instant 0) := by
  have hforms : forms = [integer?, canonical?, Rfc3339.read?] ++ rfc1123? :: forms.drop 4 := rfl
  have hoffset : Pattern.rfc1123Offset.read? (c.rfc1123Text zone) = none := by
    obtain ⟨d, ds, rfl⟩ := List.exists_cons_of_ne_nil hne
    exact Pattern.read?_rfc1123Offset_eq_none hc (hzone d List.mem_cons_self) ds
  refine ofTrimmed?_of_form hforms (refuse_of_weekdayText (weekdayText_prefix_rfc1123Text c _)) ?_
  rw [rfc1123?, hoffset, Civil.rfc1123Text, dropZoneName_append hne hzone, Option.bind_some,
    Pattern.read?_rfc1123 hc hwhole]
  rfl

theorem refuse_stampText (day behind : List Char) :
    Refuse [integer?, canonical?, Rfc3339.read?, rfc1123?]
      (c.stampText day ++ behind ++ ' ' :: c.date.yearText) :=
  (refuse_of_weekdayText (weekdayText_prefix_stampText c day behind)).snoc
    (rfc1123?_eq_none_of_stamp hc day behind)

/-- `Tue Aug  7 21:24:35 UTC 2012` -/
theorem ofTrimmed?_unixText (hwhole : c.nanos = 0) :
    ofTrimmed? c.unixText = some (c.instant 0) := by
  have hforms : forms = [integer?, canonical?, Rfc3339.read?, rfc1123?] ++
      zoneYearLast? :: forms.drop 5 := rfl
  have hbefore : Refuse _ c.unixText := refuse_stampText hc _ _
  refine ofTrimmed?_of_form hforms hbefore ?_
  rw [Civil.unixText, zoneYearLast?_append (not_mem_yearText hc),
    dropZoneName_append (List.cons_ne_nil _ _) (by simp), Option.bind_some,
    Pattern.read?_yearLast hc hwhole (Pattern.isShort_spacedDay hc.date)]

/-- `Tue Aug  7 21:24:35 2012` -/
theorem ofTrimmed?_ansicText (hwhole : c.nanos = 0) :
    ofTrimmed? c.ansicText = some (c.instant 0) := by
  have hforms : forms = [integer?, canonical?, Rfc3339.read?, rfc1123?, zoneYearLast?] ++
      Pattern.yearLast.read? :: forms.drop 6 := rfl
  have hclock : dropZoneName (c.stampText c.date.spacedDay) = none :=
    dropZoneName_eq_none_of_mem (c := ':') (not_mem_clockText hc) rfl (by simp [Civil.clockText]) _
  have hzone : zoneYearLast? c.ansicText = none := by
    rw [Civil.ansicText, zoneYearLast?_append (not_mem_yearText hc), hclock]
    rfl
  have hbefore : Refuse [integer?, canonical?, Rfc3339.read?, rfc1123?, zoneYearLast?]
      c.ansicText := by
    have hstamp := refuse_stampText hc c.date.spacedDay []
    rw [List.append_nil] at hstamp
    exact hstamp.snoc hzone
  exact ofTrimmed?_of_form hforms hbefore
    (Pattern.read?_yearLast hc hwhole (Pattern.isShort_spacedDay hc.date))

/-- `Tue Aug 28 21:24:35 +0200 2012` -/
theorem ofTrimmed?_rubyText (hwhole : c.nanos = 0) {offset : Int} (h : offset.natAbs < 1440) :
    ofTrimmed? (c.rubyText offset) = some (c.instant (offset * 60)) := by
  have hforms : forms = [integer?, canonical?, Rfc3339.read?, rfc1123?, zoneYearLast?,
      Pattern.yearLast.read?] ++ Pattern.offsetYearLast.read? :: forms.drop 7 := rfl
  have hoffset : dropZoneName (c.stampText (twoDigits c.date.day) ++ ' ' :: offsetText [] offset) =
      none := by
    obtain ⟨sign, digits, htext, hsign, -⟩ := Pattern.exists_offsetText h
    have hmem : sign ∈ offsetText [] offset := by
      rw [htext]
      exact List.mem_cons_self
    have hblank : ' ' ∉ offsetText [] offset := by
      intro hblank
      rcases mem_offsetText h hblank with hd | hd | hd | hd <;> cases hd
    have halpha : sign.isAlpha = false := by
      rcases hsign with rfl | rfl <;> rfl
    exact dropZoneName_eq_none_of_mem hblank halpha hmem _
  have hzone : zoneYearLast? (c.rubyText offset) = none := by
    rw [Civil.rubyText, zoneYearLast?_append (not_mem_yearText hc), hoffset]
    rfl
  have hstamp : Refuse _ (c.rubyText offset) := refuse_stampText hc _ _
  exact ofTrimmed?_of_form hforms
    ((hstamp.snoc hzone).snoc (Pattern.read?_yearLast_rubyText hc h))
    (Pattern.read?_offsetYearLast hc hwhole h)

end

theorem trim_text {p : Canonical.Parts} {c : Civil} {behind : Nat → List Char → Prop}
    (hp : p.Spells Digits behind c) (hne : p.tail ≠ [])
    (hblank : ∀ d ∈ p.tail, Text.isBlank d = false) : Text.trim p.text = p.text := by
  have hyear : p.year <+: p.text := by
    simp only [Canonical.Parts.text, List.append_assoc]
    exact List.prefix_append _ _
  exact Text.trim_of_ends hyear (List.suffix_append _ _) ⟨hp.year.ne_nil (by decide), hne⟩
    ⟨fun d hd => Text.isBlank_eq_false_of_isDigit (hp.year.isDigit d hd), hblank⟩

/-- What is no time of the calendar is not canonical, whatever it spells. -/
theorem canonical?_text_eq_none {p : Canonical.Parts} {c : Civil}
    (hp : p.Spells Unsigned Canonical.OpenFraction c) (hc : ¬c.IsValid) :
    canonical? p.text = none := by
  cases hread : Canonical.read p.text with
  | error fault =>
    rw [canonical?, hread]
    rfl
  | ok t => exact absurd ((Canonical.read_text_eq_ok_iff hp).1 hread).1 hc

theorem ofTrimmed?_of_canonical {p : Canonical.Parts} {t : Instant}
    (h : Canonical.read p.text = .ok t) : ofTrimmed? p.text = some t := by
  have hforms : forms = [integer?] ++ canonical? :: forms.drop 2 := rfl
  have hbefore : Refuse [integer?] p.text := by
    simp [Refuse, integer?_text_eq_none]
  refine ofTrimmed?_of_form hforms hbefore ?_
  rw [canonical?, h]
  rfl

theorem ofTrimmed?_of_rfc3339 {p : Canonical.Parts} (hcanonical : canonical? p.text = none)
    {t : Instant} (h : Rfc3339.read? p.text = some t) : ofTrimmed? p.text = some t := by
  have hforms : forms = [integer?, canonical?] ++ Rfc3339.read? :: forms.drop 3 := rfl
  have hbefore : Refuse [integer?, canonical?] p.text := by
    simp [Refuse, integer?_text_eq_none, hcanonical]
  exact ofTrimmed?_of_form hforms hbefore h

theorem readInstant_ofList {cs : List Char} (htrim : Text.trim cs = cs) {t : Instant}
    (h : ofTrimmed? cs = some t) : readInstant (.ofList cs) = .ok t := by
  rw [readInstant_eq_ok_iff, read, String.toList_ofList, htrim, h]

/-- `2012-08-28T21:24:35Z` -/
theorem readInstant_canonicalText {c : Civil} (hc : c.IsCommon) (hwhole : c.nanos = 0) :
    readInstant (.ofList c.canonicalText) = .ok (c.instant 0) := by
  have htail : Canonical.Fraction c.nanos ['Z'] := by
    rw [hwhole]
    exact .whole
  have hspells : (c.parts ['Z']).Spells Digits Canonical.Fraction c :=
    hc.spells_parts hc.second_lt htail
  have hread : Canonical.read c.canonicalText = .ok (c.instant 0) :=
    (Canonical.read_text_eq_ok_iff hspells.unsigned).2 ⟨hc.toIsValid, rfl⟩
  have htrim : Text.trim c.canonicalText = c.canonicalText :=
    trim_text hspells (List.cons_ne_nil _ _) (by simp [Civil.parts, Text.isBlank, Text.blankRanges])
  exact readInstant_ofList htrim (ofTrimmed?_of_canonical hread)

/-- `2012-08-28T21:24:35+02:00` -/
theorem readInstant_rfc3339Text {c : Civil} (hc : c.IsCommon) (hwhole : c.nanos = 0)
    {offset : Int} (h : offset.natAbs < 1440) :
    readInstant (.ofList (c.rfc3339Text offset)) = .ok (c.instant (offset * 60)) := by
  have hspells : (c.parts (offsetText [':'] offset)).Spells Digits (fun _ _ => True) c :=
    hc.spells_parts hc.second_lt trivial
  have hcanonical : canonical? (c.rfc3339Text offset) = none := by
    refine canonical?_eq_none fun hmem => ?_
    have hzulu := mem_offsetText h
      ((Canonical.Parts.mem_text_iff hspells rfl (by decide)).1 hmem)
    revert hzulu
    decide
  have htrim : Text.trim (c.rfc3339Text offset) = c.rfc3339Text offset := by
    have hcolon : ∀ d ∈ [':'], Text.isBlank d = false := by simp [Text.isBlank, Text.blankRanges]
    exact trim_text hspells (List.cons_ne_nil _ _) fun d hd =>
      isBlank_eq_false_of_mem_offsetText h hcolon hd
  exact readInstant_ofList htrim
    (ofTrimmed?_of_rfc3339 hcanonical (Rfc3339.read?_rfc3339Text hc hwhole h))

/-- All full forms of a civil time give one instant: the civil time less its offset, and the civil
time itself in the forms without offset. -/
theorem readInstant_full_forms {c : Civil} (hc : c.IsCommon) (hwhole : c.nanos = 0) :
    (∀ offset : Int, offset.natAbs < 1440 →
      ∀ text ∈ [c.rfc3339Text offset, c.rfc1123Text (offsetText [] offset), c.rubyText offset],
        readInstant (.ofList text) = .ok (c.instant (offset * 60))) ∧
    ∀ text ∈ [c.canonicalText, c.rfc1123Text ['U', 'T', 'C'], c.rfc1123Text ['G', 'M', 'T'],
        c.unixText, c.ansicText],
      readInstant (.ofList text) = .ok (c.instant 0) := by
  simp only [List.forall_mem_cons, List.not_mem_nil, false_imp_iff, implies_true, and_true]
  constructor
  · intro offset h
    have hblank : ∀ d ∈ offsetText [] offset, Text.isBlank d = false := fun d hd =>
      isBlank_eq_false_of_mem_offsetText h (fun _ hmem => absurd hmem List.not_mem_nil) hd
    exact ⟨readInstant_rfc3339Text hc hwhole h,
      readInstant_ofList (trim_rfc1123Text c (List.cons_ne_nil _ _) hblank)
        (ofTrimmed?_rfc1123Text hc hwhole h),
      readInstant_ofList (trim_stampText hc _ _) (ofTrimmed?_rubyText hc hwhole h)⟩
  · have hansic : Text.trim c.ansicText = c.ansicText := by
      have hstamp := trim_stampText hc c.date.spacedDay []
      rw [List.append_nil] at hstamp
      exact hstamp
    have hname {zone : List Char} (hne : zone ≠ []) (halpha : ∀ d ∈ zone, d.isAlpha = true) :
        readInstant (.ofList (c.rfc1123Text zone)) = .ok (c.instant 0) :=
      readInstant_ofList
        (trim_rfc1123Text c hne fun d hd => Text.isBlank_eq_false_of_isAlpha (halpha d hd))
        (ofTrimmed?_rfc1123Text_name hc hwhole hne halpha)
    exact ⟨readInstant_canonicalText hc hwhole, hname (List.cons_ne_nil _ _) (by simp),
      hname (List.cons_ne_nil _ _) (by simp),
      readInstant_ofList (trim_stampText hc _ _) (ofTrimmed?_unixText hc hwhole),
      readInstant_ofList hansic (ofTrimmed?_ansicText hc hwhole)⟩

/-- The seventh of a month, in a zone two hours and a half behind, and without zone. -/
theorem readInstant_full_forms_of_seventh :
    ∃ c : Civil, c.IsCommon ∧ c.nanos = 0 ∧
      .ofList (c.rubyText (-150)) = "Tue Aug 07 21:24:35 -0230 2012" ∧
      readInstant "Tue Aug 07 21:24:35 -0230 2012" = .ok ⟨1344383675, 0⟩ ∧
      .ofList c.ansicText = "Tue Aug  7 21:24:35 2012" ∧
      readInstant "Tue Aug  7 21:24:35 2012" = .ok ⟨1344374675, 0⟩ := by
  have hc : Civil.IsCommon ⟨⟨2012, 8, 7⟩, 21, 24, 35, 0⟩ := ⟨by decide, by decide, by decide⟩
  obtain ⟨hoffset, hzulu⟩ := readInstant_full_forms hc rfl
  have hruby : String.ofList (Civil.rubyText ⟨⟨2012, 8, 7⟩, 21, 24, 35, 0⟩ (-150)) =
      "Tue Aug 07 21:24:35 -0230 2012" := by decide +kernel
  have hansic : String.ofList (Civil.ansicText ⟨⟨2012, 8, 7⟩, 21, 24, 35, 0⟩) =
      "Tue Aug  7 21:24:35 2012" := by decide +kernel
  refine ⟨_, hc, rfl, hruby, ?_, hansic, ?_⟩
  · rw [← hruby, hoffset (-150) (by decide) _ (by simp)]
    rfl
  · rw [← hansic, hzulu _ (by simp)]
    rfl

end SeriesGateway.Timestamp
