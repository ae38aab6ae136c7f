import SeriesGateway.Proofs.Failure
import SeriesGateway.Proofs.Instant
import SeriesGateway.Proofs.Text.Digits

namespace SeriesGateway.Timestamp.Canonical

open Numeral

theorem columns_cons (c : Char) (cs : List Char) :
    columns (c :: cs) = some c :: (List.replicate (c.utf8Size - 1) none ++ columns cs) := by
  simp [columns]

theorem columns_append (front cs : List Char) :
    columns (front ++ cs) = columns front ++ columns cs := by
  simp [columns]

theorem columns_cons_of_narrow {c : Char} (h : c.utf8Size = 1) (cs : List Char) :
    columns (c :: cs) = some c :: columns cs := by
  rw [columns_cons, h]
  rfl

/-- Characters of one byte fill one column each. -/
theorem columns_of_narrow {cs : List Char} (h : ∀ c ∈ cs, c.utf8Size = 1) :
    columns cs = cs.map some := by
  induction cs with
  | nil => rfl
  | cons c cs ih =>
    rw [columns_cons_of_narrow (h c List.mem_cons_self),
      ih fun d hd => h d (List.mem_cons_of_mem c hd), List.map_cons]

/-- Columns that hold characters, up to where a character begins, are text. -/
theorem eq_append_of_columns {cs front : List Char} {back : List (Option Char)}
    (h : columns cs = front.map some ++ back) (hback : back.head? ≠ some none) :
    ∃ rest, cs = front ++ rest ∧ columns rest = back := by
  induction front generalizing cs with
  | nil => exact ⟨cs, rfl, h⟩
  | cons c front ih =>
    cases cs with
    | nil => cases h
    | cons d ds =>
      rw [columns_cons, List.map_cons, List.cons_append, List.cons.injEq] at h
      obtain ⟨hd, h⟩ := h
      obtain rfl := Option.some.inj hd
      -- A second column of the character would be empty, and no column behind it is.
      have hnarrow : d.utf8Size - 1 = 0 := by
        cases hwide : d.utf8Size - 1 with
        | zero => rfl
        | succ k =>
          rw [hwide, List.replicate_succ, List.cons_append] at h
          cases front with
          | nil => exact absurd (congrArg List.head? h).symm hback
          | cons e front => cases h
      rw [hnarrow] at h
      obtain ⟨rest, rfl, hrest⟩ := ih h
      exact ⟨rest, rfl, hrest⟩

theorem mapM_id_eq_some_iff {cols : List (Option Char)} {cs : List Char} :
    cols.mapM id = some cs ↔ cols = cs.map some := by
  induction cols generalizing cs with
  | nil => cases cs <;> simp
  | cons col cols ih =>
    cases col with
    | none => cases cs <;> simp
    | some c => cases cs <;> simp [Option.bind_eq_some_iff, ih, and_comm]

theorem eq_nil_of_columns {cs : List Char} (h : columns cs = []) : cs = [] := by
  cases cs with
  | nil => rfl
  | cons c cs =>
    rw [columns_cons] at h
    cases h

theorem exists_concat_of_columns {cs : List Char} {c : Char}
    (h : (columns cs).getLast? = some (some c)) : ∃ front, cs = front ++ [c] := by
  rcases List.eq_nil_or_concat cs with rfl | ⟨front, d, rfl⟩
  · cases h
  · rw [List.concat_eq_append] at h ⊢
    have hlast : (columns [d]).getLast? = some (some c) := by
      rw [columns_append, List.getLast?_append] at h
      simpa [columns_cons] using h
    rw [columns_cons, show columns [] = [] from rfl, List.append_nil] at hlast
    cases hwide : d.utf8Size - 1 with
    | zero =>
      rw [hwide] at hlast
      cases hlast
      exact ⟨front, rfl⟩
    | succ k =>
      rw [hwide, List.replicate_succ', List.getLast?_cons, List.getLast?_concat] at hlast
      cases hlast

/-- A part of so many columns and the mark behind it. -/
theorem exists_part {cs digits : List Char} {cols : List (Option Char)} {m : Char} {k n : Nat}
    (hcs : columns cs = cols.drop k) (hdigits : (cols.drop k).take n = digits.map some)
    (hmark : hasMark cols (k + n, m) = true) (hnarrow : m.utf8Size = 1) :
    ∃ rest, cs = digits ++ m :: rest ∧ columns rest = cols.drop (k + n + 1) := by
  have hm : cols[k + n]? = some (some m) := by
    simpa [hasMark] using hmark
  obtain ⟨hlt, hget⟩ := List.getElem?_eq_some_iff.1 hm
  have hcut : columns cs = digits.map some ++ some m :: cols.drop (k + n + 1) := by
    rw [hcs, ← hdigits, ← hget, ← List.drop_eq_getElem_cons hlt, ← List.drop_drop,
      List.take_append_drop]
  obtain ⟨rest, rfl, hrest⟩ := eq_append_of_columns hcut (by simp)
  cases rest with
  | nil => cases hrest
  | cons d rest =>
    rw [columns_cons, List.cons.injEq] at hrest
    obtain ⟨hd, hrest⟩ := hrest
    obtain rfl := Option.some.inj hd
    rw [hnarrow] at hrest
    exact ⟨rest, rfl, hrest⟩

theorem field_eq_ok_iff {name : String} {cols : List (Option Char)} {n : Nat} :
    field name cols = .ok n ↔
      ∃ cs, cols = cs.map some ∧ Numeral.below? 0x100000000 cs = some n := by
  unfold field
  cases hcols : cols.mapM id with
  | none =>
    simp only [Option.bind_none, reduceCtorEq, false_iff]
    rintro ⟨cs, hcs, -⟩
    rw [mapM_id_eq_some_iff.2 hcs] at hcols
    cases hcols
  | some cs =>
    have hcs := mapM_id_eq_some_iff.1 hcols
    have hunique : ∀ ds, cols = ds.map some ↔ ds = cs := by
      intro ds
      rw [hcs, List.map_inj_right (fun _ _ => Option.some.inj), eq_comm]
    simp only [Option.bind_some, hunique, exists_eq_left]
    cases Numeral.below? 0x100000000 cs <;> simp

/-- A number in few enough columns is never too great. -/
theorem field_eq_ok_iff_unsigned {name : String} {cols : List (Option Char)} {n : Nat}
    (h : cols.length ≤ 9) :
    field name cols = .ok n ↔ ∃ cs, cols = cs.map some ∧ Unsigned cols.length n cs := by
  rw [field_eq_ok_iff]
  refine exists_congr fun cs => and_congr_right fun hcs => ?_
  have hlength : cols.length = cs.length := by
    rw [hcs, List.length_map]
  rw [hlength] at h ⊢
  exact below?_eq_some_iff_unsigned
    ((Nat.pow_le_pow_right (by decide) h).trans (by decide))

theorem civil?_eq_some_iff {year : Int} {month day hour minute second nanos : Nat} {c : Civil} :
    civil? year month day hour minute second nanos = some c ↔
      c = ⟨⟨year, month, day⟩, hour, minute, second, nanos⟩ ∧ c.IsValid := by
  unfold civil?
  split_ifs with htime
  · rw [Option.map_eq_some_iff]
    constructor
    · rintro ⟨date, hdate, rfl⟩
      obtain ⟨rfl, hvalid⟩ := Date.of?_eq_some_iff.1 hdate
      exact ⟨rfl, hvalid, htime.1, htime.2.1, htime.2.2⟩
    · rintro ⟨rfl, hvalid⟩
      exact ⟨_, Date.of?_self hvalid.date, rfl⟩
  · rw [false_iff]
    rintro ⟨rfl, hvalid⟩
    exact htime ⟨hvalid.hour, hvalid.minute, hvalid.second⟩

/-- The columns of the tail are a fraction if a point opens it, and count for nothing if not. -/
def tailNanos (cols : List (Option Char)) : Except Fault Nat :=
  if hasMark cols (19, '.') then fraction (cols.drop 20).dropLast else .ok 0

theorem readColumns_eq_ok_iff {cols : List (Option Char)} {t : Instant} :
    readColumns cols = .ok t ↔
      (20 ≤ cols.length ∧ cols.getLast? = some (some 'Z')) ∧
      ((∀ mark ∈ marks, hasMark cols mark = true) ∧
        (hasMark cols (19, '.') = true ∨ hasMark cols (19, 'Z') = true)) ∧
      ∃ c : Civil, c.IsValid ∧ 0 ≤ c.date.year ∧
        field "year" (cols.take 4) = .ok c.date.year.toNat ∧
        field "month" ((cols.drop 5).take 2) = .ok c.date.month ∧
        field "day" ((cols.drop 8).take 2) = .ok c.date.day ∧
        field "hour" ((cols.drop 11).take 2) = .ok c.hour ∧
        field "minute" ((cols.drop 14).take 2) = .ok c.minute ∧
        field "second" ((cols.drop 17).take 2) = .ok c.second ∧
        tailNanos cols = .ok c.nanos ∧ c.instant 0 = t := by
  have hjoin {β : Type} (next : Nat → Except Fault β) :
      (if hasMark cols (19, '.') = true then fraction (cols.drop 20).dropLast >>= next
        else pure 0 >>= next) = tailNanos cols >>= next := by
    unfold tailNanos
    split <;> rfl
  constructor
  · intro h
    unfold readColumns at h
    dsimp only at h
    split at h
    · cases h
    · rename_i hframe
      split at h
      · rename_i hmarks
        simp only [hjoin, bind_eq_ok_iff] at h
        obtain ⟨year, hyear, month, hmonth, day, hday, hour, hhour, minute, hminute, second,
          hsecond, nanos, hnanos, h⟩ := h
        split at h
        · rename_i c hc
          obtain ⟨rfl, hvalid⟩ := civil?_eq_some_iff.1 hc
          simp only [Bool.or_eq_true, decide_eq_true_eq, bne_iff_ne, not_or, not_not, not_lt]
            at hframe
          simp only [Bool.and_eq_true, Bool.or_eq_true, List.all_eq_true] at hmarks
          exact ⟨hframe, hmarks, _, hvalid, Int.natCast_nonneg year, hyear, hmonth, hday, hhour,
            hminute, hsecond, hnanos, Except.ok.inj h⟩
        · cases h
      · cases h
  · rintro ⟨⟨hlength, hlast⟩, hmarks, c, hvalid, hnonneg, hyear, hmonth, hday, hhour, hminute,
      hsecond, hnanos, rfl⟩
    have hc : civil? c.date.year.toNat c.date.month c.date.day c.hour c.minute c.second c.nanos =
        some c := by
      rw [civil?_eq_some_iff, Int.toNat_of_nonneg hnonneg]
      exact ⟨rfl, hvalid⟩
    unfold readColumns
    dsimp only
    rw [if_neg, if_pos]
    · simp only [hjoin, bind_eq_ok_iff]
      refine ⟨_, hyear, _, hmonth, _, hday, _, hhour, _, hminute, _, hsecond, _, hnanos, ?_⟩
      rw [hc]
      rfl
    · simpa only [Bool.and_eq_true, Bool.or_eq_true, List.all_eq_true] using hmarks
    · simp only [Bool.or_eq_true, decide_eq_true_eq, bne_iff_ne, not_or, not_not, not_lt]
      exact ⟨hlength, hlast⟩

end SeriesGateway.Timestamp.Canonical
