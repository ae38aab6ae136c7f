import SeriesGateway.Proofs.Query.Times

namespace SeriesGateway

/-- A time of a clock, to the nanosecond. What goes beyond a second is a leap second, which only the
last second of a minute has behind it. -/
structure Instant.IsClockTime (t : Instant) : Prop where
  nanos_lt : t.nanos < 2_000_000_000
  leap : 1_000_000_000 ≤ t.nanos → t.civil.second = 59

namespace Timestamp.Rfc3339

open Numeral

/-- What stands before the digits of a year. -/
def yearSign (year : Int) : List Char :=
  if 0 ≤ year ∧ year ≤ 9999 then [] else [if year < 0 then '-' else '+']

theorem yearText_eq_append (year : Int) :
    yearText year = yearSign year ++ padded 4 year.natAbs := by
  unfold yearText yearSign
  split_ifs <;> rfl

theorem isDigit_eq_false_of_mem_yearSign {year : Int} {c : Char} (h : c ∈ yearSign year) :
    c.isDigit = false := by
  unfold yearSign at h
  split_ifs at h
  · cases h
  · rw [List.mem_singleton.1 h]
    rfl
  · rw [List.mem_singleton.1 h]
    rfl

/-- The sign of a year ends where its digits begin. -/
theorem takeWhile_yearText_append (year : Int) (rest : List Char) :
    (yearText year ++ rest).takeWhile (fun c => !c.isDigit) = yearSign year := by
  have hsign : ∀ c ∈ yearSign year, (!c.isDigit) = true := fun c hc => by
    rw [isDigit_eq_false_of_mem_yearSign hc, Bool.not_false]
  rw [yearText_eq_append, List.append_assoc, List.takeWhile_append_of_pos hsign]
  cases hdigits : padded 4 year.natAbs with
  | nil => exact absurd hdigits (List.append_ne_nil_of_right_ne_nil _ (text_ne_nil _))
  | cons c cs =>
    have hc : c.isDigit = true := isDigit_of_mem_padded (hdigits ▸ List.mem_cons_self)
    rw [List.cons_append, List.takeWhile_cons_of_neg (by simp [hc]), List.append_nil]

theorem eq_of_yearSign {y z : Int} (hsign : yearSign y = yearSign z)
    (habs : y.natAbs = z.natAbs) : y = z := by
  unfold yearSign at hsign
  split_ifs at hsign <;> simp at hsign <;> omega

theorem yearText_append_inj {y z : Int} {rest left : List Char}
    (h : yearText y ++ '-' :: rest = yearText z ++ '-' :: left) : y = z ∧ rest = left := by
  have hsign : yearSign y = yearSign z := by
    rw [← takeWhile_yearText_append y ('-' :: rest), h, takeWhile_yearText_append]
  rw [yearText_eq_append, yearText_eq_append, hsign, List.append_assoc, List.append_assoc] at h
  obtain ⟨habs, -, hbehind⟩ := (digits_padded_length 4 _).append_cons_inj
    (digits_padded_length 4 _) rfl rfl (List.append_cancel_left h)
  exact ⟨eq_of_yearSign hsign habs, hbehind⟩

theorem fractionText_inj {m n : Nat} (hm : m < 1_000_000_000) (hn : n < 1_000_000_000)
    (h : fractionText m = fractionText n) : m = n := by
  rcases fractionText_spec hm with ⟨hnone, rfl⟩ | ⟨width, k, ds, hds, -, -, hdigits, rfl⟩
  · rcases fractionText_spec hn with ⟨-, rfl⟩ | ⟨-, -, es, hes, -⟩
    · rfl
    · rw [hnone, hes] at h
      cases h
  · rcases fractionText_spec hn with ⟨hnone, -⟩ | ⟨length, l, es, hes, -, -, hother, rfl⟩
    · rw [hnone, hds] at h
      cases h
    · rw [hds, hes] at h
      obtain rfl : ds = es := (List.cons.inj h).2
      rw [← hdigits.length_eq, ← hother.length_eq, ← hdigits.value_eq, hother.value_eq]

/-- Digits of a second end where a fraction or the zone begins. -/
theorem exists_fractionText_eq_cons (nanos : Nat) :
    ∃ c cs, fractionText nanos ++ ['Z'] = c :: cs ∧ c.isDigit = false := by
  unfold fractionText
  split_ifs
  · exact ⟨'Z', _, rfl, rfl⟩
  · exact ⟨'.', _, rfl, rfl⟩
  · exact ⟨'.', _, rfl, rfl⟩
  · exact ⟨'.', _, rfl, rfl⟩

/-- What is written of a civil time can be told from the text. -/
theorem written_inj_of_civilText {c d : Civil} (hc : c.nanos < 2_000_000_000)
    (hd : d.nanos < 2_000_000_000) (h : civilText c = civilText d) : written c = written d := by
  simp only [civilText, List.append_assoc, List.cons_append] at h
  obtain ⟨hyear, h⟩ := yearText_append_inj h
  obtain ⟨hmonth, -, h⟩ := (digits_twoDigits_length _).append_cons_inj
    (digits_twoDigits_length _) rfl rfl h
  obtain ⟨hday, -, h⟩ := (digits_twoDigits_length _).append_cons_inj
    (digits_twoDigits_length _) rfl rfl h
  obtain ⟨hhour, -, h⟩ := (digits_twoDigits_length _).append_cons_inj
    (digits_twoDigits_length _) rfl rfl h
  obtain ⟨hminute, -, h⟩ := (digits_twoDigits_length _).append_cons_inj
    (digits_twoDigits_length _) rfl rfl h
  obtain ⟨x, cs, hcs, hx⟩ := exists_fractionText_eq_cons (written c).nanos
  obtain ⟨y, ds, hds, hy⟩ := exists_fractionText_eq_cons (written d).nanos
  have hclock : twoDigits (written c).second ++ x :: cs = twoDigits (written d).second ++ y :: ds := by
    rw [← hcs, ← hds]
    exact h
  obtain ⟨hsecond, rfl, rfl⟩ := (digits_twoDigits_length _).append_cons_inj
    (digits_twoDigits_length _) hx hy hclock
  have hnanos : (written c).nanos = (written d).nanos :=
    fractionText_inj (written_nanos_lt hc) (written_nanos_lt hd)
      (List.append_cancel_right (hcs.trans hds.symm))
  obtain ⟨⟨year, month, day⟩, hour, minute, second, nanos⟩ := c
  obtain ⟨⟨year', month', day'⟩, hour', minute', second', nanos'⟩ := d
  simp only [written, Civil.mk.injEq, Date.mk.injEq]
  exact ⟨⟨hyear, hmonth, hday⟩, hhour, hminute, hsecond, hnanos⟩

/-- Only a leap second is written with the number 60. -/
theorem eq_of_written {c d : Civil} (hc : 1_000_000_000 ≤ c.nanos → c.second = 59)
    (hd : 1_000_000_000 ≤ d.nanos → d.second = 59) (hsecond : c.second < 60 ∧ d.second < 60)
    (h : written c = written d) : c = d := by
  obtain ⟨date, hour, minute, second, nanos⟩ := c
  obtain ⟨date', hour', minute', second', nanos'⟩ := d
  simp only [written, Civil.mk.injEq] at h hc hd hsecond ⊢
  obtain ⟨hdate, hhour, hminute, hshown, hnanos⟩ := h
  refine ⟨hdate, hhour, hminute, ?_⟩
  split_ifs at hshown hnanos <;> omega

/-- No two times of the clock are written alike, in whatever years they are. -/
theorem text_inj {s t : Instant} (hs : s.IsClockTime) (ht : t.IsClockTime) (h : text s = text t) :
    s = t := by
  have hcivil : s.civil = t.civil :=
    eq_of_written hs.leap ht.leap ⟨s.second_civil_lt, t.second_civil_lt⟩
      (written_inj_of_civilText hs.nanos_lt ht.nanos_lt (String.ofList_injective h))
  rw [← s.instant_civil, ← t.instant_civil, hcivil]

end Timestamp.Rfc3339

end SeriesGateway
