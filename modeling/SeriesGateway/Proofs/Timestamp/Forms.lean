import Mathlib
import SeriesGateway.Proofs.Text.Blank
import SeriesGateway.Timestamp.Reader

namespace SeriesGateway.Timestamp

theorem isDigit_head?_nil : ∀ d ∈ ([] : List Char).head?, d.isDigit = false := by
  simp

theorem isDigit_head?_cons {c : Char} (h : c.isDigit = false) (rest : List Char) :
    ∀ d ∈ (c :: rest).head?, d.isDigit = false := by
  intro d hd
  cases hd
  exact h

/-- Digits go as far as what is no digit. -/
theorem takeWhile_take_append {width : Nat} {digits rest : List Char}
    (hdigits : ∀ c ∈ digits, c.isDigit = true) (hwidth : digits.length ≤ width)
    (hrest : ∀ c ∈ rest.head?, c.isDigit = false) :
    ((digits ++ rest).take width).takeWhile Char.isDigit = digits := by
  have hend : (rest.take (width - digits.length)).takeWhile Char.isDigit = [] := by
    cases rest with
    | nil => rw [List.take_nil, List.takeWhile_nil]
    | cons c rest =>
      cases width - digits.length with
      | zero => rfl
      | succ k =>
        rw [List.take_succ_cons, List.takeWhile_cons_of_neg]
        rw [hrest c rfl]
        exact Bool.false_ne_true
  rw [List.take_append, List.take_of_length_le hwidth, List.takeWhile_append_of_pos hdigits, hend,
    List.append_nil]

/-- A number stands before anything that is no digit. -/
theorem takeNumber_append {width : Nat} {digits rest : List Char} (hne : digits ≠ [])
    (hdigits : ∀ c ∈ digits, c.isDigit = true) (hwidth : digits.length ≤ width)
    (hrest : ∀ c ∈ rest.head?, c.isDigit = false) :
    takeNumber width (digits ++ rest) = some (Numeral.value digits, rest) := by
  rw [takeNumber]
  simp only [takeWhile_take_append hdigits hwidth hrest, List.drop_left]
  rw [if_neg (by simpa using hne)]

theorem takeName_weekdayNames_eq_none {c : Char} (h : c.isAlpha = false) (rest : List Char) :
    Pattern.takeName Pattern.weekdayNames (c :: rest) = none := by
  have hlower : c.toLower.isAlpha = false := by
    rw [Char.isAlpha_toLower_eq_isAlpha, h]
  have hletters : ∀ name ∈ Pattern.weekdayNames, ∀ d ∈ name.toList.head?, d.isAlpha = true := by
    simp [Pattern.weekdayNames]
  rw [Pattern.takeName, Option.map_eq_none_iff, List.findIdx?_eq_none_iff]
  intro name hname
  rw [beq_eq_false_iff_ne]
  intro heq
  have halpha := hletters name hname c.toLower (by rw [heq]; rfl)
  rw [hlower] at halpha
  cases halpha

/-- A pattern that begins with the name of a day fits no text that begins otherwise. -/
theorem read?_weekdayName_eq_none {c : Char} (h : c.isAlpha = false) (p : Pattern)
    (rest : List Char) : Pattern.read? (.weekdayName :: p) (c :: rest) = none := by
  rw [Pattern.read?, Pattern.fields?, Directive.read?, takeName_weekdayNames_eq_none h]
  rfl

theorem splitLast_eq_none {cs : List Char} (h : ' ' ∉ cs) : splitLast cs = none := by
  have htail : cs.reverse.takeWhile (· != ' ') = cs.reverse := by
    refine List.takeWhile_eq_self_iff.2 ?_
    intro c hc
    rw [bne_iff_ne]
    rintro rfl
    exact h (List.mem_reverse.1 hc)
  rw [splitLast]
  simp only [htail, List.length_reverse, if_true]

theorem dropZoneName_eq_none {cs : List Char} (h : ' ' ∉ cs) : dropZoneName cs = none := by
  rw [dropZoneName, splitLast_eq_none h]
  rfl

theorem rfc1123?_eq_none {c : Char} {rest : List Char} (h : c.isAlpha = false)
    (hblank : ' ' ∉ c :: rest) : rfc1123? (c :: rest) = none := by
  rw [rfc1123?, dropZoneName_eq_none hblank]
  exact (Option.orElse_eq_none _ _).2 ⟨read?_weekdayName_eq_none h _ rest, rfl⟩

theorem zoneYearLast?_eq_none {cs : List Char} (h : ' ' ∉ cs) : zoneYearLast? cs = none := by
  rw [zoneYearLast?, splitLast_eq_none h]
  rfl

theorem canonical?_eq_none {cs : List Char} (h : 'Z' ∉ cs) : canonical? cs = none := by
  have hlast : (Canonical.columns cs).getLast? ≠ some (some 'Z') := by
    intro hz
    obtain ⟨c, hc, hcol⟩ := List.mem_flatMap.1 (List.mem_of_getLast? hz)
    rcases List.mem_cons.1 hcol with heq | hmem
    · exact h (Option.some.inj heq ▸ hc)
    · exact Option.some_ne_none _ (List.eq_of_mem_replicate hmem)
  have hfault : Canonical.read cs = .error .notZulu := by
    rw [Canonical.read, Canonical.readColumns]
    rw [if_pos (by simp [hlast])]
    rfl
  rw [canonical?, hfault]
  rfl

theorem eq_drop_of_takeExactly {width n : Nat} {cs rest : List Char}
    (h : takeExactly width cs = some (n, rest)) : rest = cs.drop width := by
  unfold takeExactly at h
  dsimp only at h
  split at h
  · cases h
    rfl
  · cases h

/-- The dash behind the year has its place. -/
theorem Rfc3339.read?_eq_none {cs : List Char} (h : '-' ∉ cs.drop 4) : Rfc3339.read? cs = none := by
  have hdash : takeChar '-' (cs.drop 4) = none := by
    cases hcs : cs.drop 4 with
    | nil => rfl
    | cons d rest =>
      rw [takeChar, if_neg]
      rintro rfl
      exact h (hcs ▸ List.mem_cons_self)
  rw [Rfc3339.read?, Option.bind_eq_bind, Option.bind_eq_none_iff]
  rintro ⟨year, rest⟩ hyear
  obtain rfl := eq_drop_of_takeExactly hyear
  dsimp only
  rw [hdash]
  rfl

/-- A text of digits and a sign before them is an integer or a date that is cut off, if it is any
timestamp. -/
theorem ofTrimmed?_eq_or {cs : List Char} (hne : cs ≠ [])
    (hchars : ∀ c ∈ cs, c.isDigit = true ∨ c = '-') (hdash : '-' ∉ cs.drop 4) :
    ofTrimmed? cs = (integer? cs).or (truncated? cs) := by
  obtain ⟨c, rest, rfl⟩ := List.exists_cons_of_ne_nil hne
  have hletter : c.isAlpha = false := by
    rcases hchars c List.mem_cons_self with hc | rfl
    · simp only [Char.isDigit, Bool.and_eq_true, decide_eq_true_eq] at hc
      simp only [Char.isAlpha, Char.isUpper, Char.isLower]
      grind
    · rfl
  have hblank : ' ' ∉ c :: rest := by
    intro h
    rcases hchars _ h with h | h <;> cases h
  have hzulu : 'Z' ∉ c :: rest := by
    intro h
    rcases hchars _ h with h | h <;> cases h
  simp only [ofTrimmed?, forms, List.findSome?_cons, List.findSome?_nil, canonical?_eq_none hzulu,
    Rfc3339.read?_eq_none hdash, rfc1123?_eq_none hletter hblank, zoneYearLast?_eq_none hblank,
    Pattern.yearLast, Pattern.offsetYearLast, List.cons_append,
    read?_weekdayName_eq_none hletter]
  cases integer? (c :: rest) <;> cases truncated? (c :: rest) <;> rfl

end SeriesGateway.Timestamp
