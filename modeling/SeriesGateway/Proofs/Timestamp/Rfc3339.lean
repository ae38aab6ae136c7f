import SeriesGateway.Proofs.Timestamp.Fields
import SeriesGateway.Proofs.Timestamp.Written

namespace SeriesGateway.Timestamp

open Numeral

theorem natAbs_div_lt {offset : Int} (h : offset.natAbs < 1440) : offset.natAbs / 60 < 100 := by
  omega

theorem mem_offsetText {colon : List Char} {offset : Int} (h : offset.natAbs < 1440) {c : Char}
    (hc : c ∈ offsetText colon offset) :
    c.isDigit = true ∨ c = '+' ∨ c = '-' ∨ c ∈ colon := by
  have hhours := (digits_twoDigits (natAbs_div_lt h)).isDigit c
  have hminutes := (digits_twoDigits (n := offset.natAbs % 60) (by omega)).isDigit c
  simp only [offsetText, List.mem_append, List.mem_cons] at hc
  split_ifs at hc <;> tauto

theorem isBlank_eq_false_of_mem_offsetText {colon : List Char} {offset : Int}
    (h : offset.natAbs < 1440) (hcolon : ∀ c ∈ colon, Text.isBlank c = false) {c : Char}
    (hc : c ∈ offsetText colon offset) : Text.isBlank c = false := by
  rcases mem_offsetText h hc with hdigit | rfl | rfl | hmem
  · exact Text.isBlank_eq_false_of_isDigit hdigit
  · rfl
  · rfl
  · exact hcolon c hmem

/-- An offset is read as so many seconds, if what parts its hours from its minutes is skipped. -/
theorem takeOffset_offsetText {between : List Char → Option (List Char)} {colon : List Char}
    {offset : Int} (h : offset.natAbs < 1440) (rest : List Char)
    (hbetween : ∀ m < 60, between (colon ++ twoDigits m ++ rest) = some (twoDigits m ++ rest)) :
    takeOffset between (offsetText colon offset ++ rest) = some (offset * 60, rest) := by
  have hminutes : offset.natAbs % 60 < 60 := Nat.mod_lt _ (by decide)
  have hhours := takeExactly_digits (digits_twoDigits (natAbs_div_lt h))
    (colon ++ twoDigits (offset.natAbs % 60) ++ rest)
  have hlast := takeExactly_digits (digits_twoDigits (hminutes.trans (by decide))) rest
  have hskip := hbetween _ hminutes
  have hahead : ((offset.natAbs / 60 : Nat) * 60 + (offset.natAbs % 60 : Nat) : Int) * 60 =
      offset.natAbs * 60 := by omega
  simp only [List.append_assoc] at hhours hskip
  unfold offsetText takeOffset
  split_ifs with hneg
  · simp only [List.cons_append, List.append_assoc, Option.bind_eq_bind, Option.bind_some, hhours,
      hskip, hlast, hminutes, if_true, hahead]
    congr 2
    omega
  · simp only [List.cons_append, List.append_assoc, Option.bind_eq_bind, Option.bind_some, hhours,
      hskip, hlast, hminutes, if_true, hahead, Bool.false_eq_true, if_false]
    congr 2
    omega

namespace Rfc3339

theorem takeTimeMark_cons (rest : List Char) : takeTimeMark ('T' :: rest) = some rest :=
  rfl

theorem takeFraction_of_ne {cs : List Char} (h : '.' ∉ cs.head?) :
    takeFraction cs = some (none, cs) := by
  unfold takeFraction
  split
  · exact absurd rfl h
  · rfl

/-- Up to nine digits behind a point are nanoseconds. -/
theorem takeFraction_digits {width n : Nat} {digits : List Char} (hpos : 0 < width)
    (hwidth : width ≤ 9) (h : Digits width n digits) {rest : List Char}
    (hrest : ∀ c ∈ rest.head?, c.isDigit = false) :
    takeFraction ('.' :: digits ++ rest) = some (some (n * Nat.pow 10 (9 - width)), rest) := by
  have htake := takeWhile_take_append h.isDigit (h.length_eq.trans_le hwidth) hrest
  have hdrop : (digits ++ rest).dropWhile Char.isDigit = rest := by
    rw [List.dropWhile_append_of_pos h.isDigit]
    cases rest with
    | nil => rfl
    | cons c rest =>
      rw [List.dropWhile_cons_of_neg]
      rw [hrest c rfl]
      exact Bool.false_ne_true
  rw [List.cons_append, takeFraction]
  simp only [htake, hdrop, h.length_eq, h.value_eq]
  rw [if_neg (by simpa using h.ne_nil hpos)]

theorem takeZone_zulu : takeZone ['Z'] = some (0, []) :=
  rfl

theorem takeZone_offsetText {offset : Int} (h : offset.natAbs < 1440) :
    takeZone (offsetText [':'] offset) = some (offset * 60, []) := by
  have hcolon : ∀ m < 60, takeChar ':' ([':'] ++ twoDigits m ++ []) = some (twoDigits m ++ []) := by
    intro m _
    rw [List.append_assoc, List.singleton_append, takeChar_self]
  have hoffset := takeOffset_offsetText h [] hcolon
  rw [List.append_nil] at hoffset
  rw [← hoffset]
  unfold takeZone offsetText
  split_ifs <;> rfl

theorem bind_of_eq_some {α β : Type} {o : Option α} {a : α} (h : o = some a) (f : α → Option β) :
    o >>= f = f a := by
  rw [h]
  rfl

/-- Parts are read as the fields that they spell, with the fraction and the zone of the tail. -/
theorem read?_text {p : Canonical.Parts} {c : Civil} {behind : Nat → List Char → Prop}
    (hp : p.Spells Digits behind c) {nanos : Option Nat} {zone : List Char} {offset : Int}
    (hfraction : takeFraction p.tail = some (nanos, zone))
    (hzone : takeZone zone = some (offset, [])) :
    read? p.text =
      Fields.instant?
        { year := some c.date.year
          month := some c.date.month
          day := some c.date.day
          hour := some c.hour
          minute := some c.minute
          second := some c.second
          nanos := nanos
          offset := some offset } := by
  have hyear : (c.date.year.toNat : Int) = c.date.year := Int.toNat_of_nonneg hp.year_nonneg
  rw [read?, Canonical.Parts.text]
  simp only [List.append_assoc, List.cons_append]
  -- One step of the reader at a time: the rest of it is large, and stays as it is.
  refine (bind_of_eq_some (takeExactly_digits hp.year _) _).trans ?_
  refine (bind_of_eq_some (takeChar_self _ _) _).trans ?_
  refine (bind_of_eq_some (takeExactly_digits hp.month _) _).trans ?_
  refine (bind_of_eq_some (takeChar_self _ _) _).trans ?_
  refine (bind_of_eq_some (takeExactly_digits hp.day _) _).trans ?_
  refine (bind_of_eq_some (takeTimeMark_cons _) _).trans ?_
  refine (bind_of_eq_some (takeExactly_digits hp.hour _) _).trans ?_
  refine (bind_of_eq_some (takeChar_self _ _) _).trans ?_
  refine (bind_of_eq_some (takeExactly_digits hp.minute _) _).trans ?_
  refine (bind_of_eq_some (takeChar_self _ _) _).trans ?_
  refine (bind_of_eq_some (takeExactly_digits hp.second _) _).trans ?_
  refine (bind_of_eq_some hfraction _).trans ?_
  refine (bind_of_eq_some hzone _).trans ?_
  rw [← hyear]
  rfl

/-- A time with an offset of less than a day is the instant so much earlier. -/
theorem read?_rfc3339Text {c : Civil} (hc : c.IsCommon) (hwhole : c.nanos = 0) {offset : Int}
    (h : offset.natAbs < 1440) : read? (c.rfc3339Text offset) = some (c.instant (offset * 60)) := by
  have hdot : '.' ∉ (offsetText [':'] offset).head? := by
    unfold offsetText
    split_ifs <;> simp
  have hspells : (c.parts (offsetText [':'] offset)).Spells Digits (fun _ _ => True) c :=
    hc.spells_parts hc.second_lt trivial
  rw [Civil.rfc3339Text, read?_text hspells (takeFraction_of_ne hdot) (takeZone_offsetText h)]
  exact Fields.instant?_eq
    ⟨rfl, rfl, rfl, rfl, rfl, rfl, Or.inl ⟨rfl, hwhole.symm⟩⟩ hc.toIsValid hc.firstYear_lt
    hc.lt_lastYear (by simp only [Option.getD_some]; omega)

end Rfc3339

end SeriesGateway.Timestamp
