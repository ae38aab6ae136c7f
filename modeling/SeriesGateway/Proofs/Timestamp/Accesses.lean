import SeriesGateway.Proofs.Timestamp.Bytes

namespace SeriesGateway.Timestamp.Canonical

/-- A place between characters: where one begins, or behind the last. -/
def IsBoundary (bytes : List UInt8) (i : ℕ) : Prop :=
  i ≤ bytes.length ∧ ∀ b ∈ bytes[i]?, b.IsUTF8FirstByte

instance (bytes : List UInt8) (i : ℕ) : Decidable (IsBoundary bytes i) :=
  inferInstanceAs (Decidable (_ ∧ _))

/-- What the reader takes for granted: a byte, a slice of the text, and that a number of so many
digits behind the point is less than a second in nanoseconds, for which 32 bits are enough. -/
inductive Access where
  | byte (index : ℕ)
  | slice (start stop : ℕ)
  | nanoseconds (number digits : ℕ)
  deriving DecidableEq, Repr

def Access.IsSafe (bytes : List UInt8) : Access → Prop
  | .byte index => index < bytes.length
  | .slice start stop => start ≤ stop ∧ IsBoundary bytes start ∧ IsBoundary bytes stop
  | .nanoseconds number digits => digits ≤ 9 ∧ number * 10 ^ (9 - digits) < 10 ^ 9

instance (bytes : List UInt8) : (access : Access) → Decidable (access.IsSafe bytes)
  | .byte index => inferInstanceAs (Decidable (index < bytes.length))
  | .slice _ _ => inferInstanceAs (Decidable (_ ∧ _ ∧ _))
  | .nanoseconds _ _ => inferInstanceAs (Decidable (_ ∧ _))

/-- How the reader ends without an instant: it refuses the text, or it crashes. -/
inductive Stop where
  | refusal (fault : Fault)
  | crash (access : Access)
  deriving DecidableEq, Repr

def attempt (bytes : List UInt8) (access : Access) : Except Stop Unit :=
  if access.IsSafe bytes then .ok () else .error (.crash access)

def byteAt (bytes : List UInt8) (i : ℕ) : Except Stop Char := do
  attempt bytes (.byte i)
  return .ofUInt8 (bytes.getD i 0)

def isMarked (bytes : List UInt8) (mark : ℕ × Char) : Except Stop Bool := do
  return (← byteAt bytes mark.1) == mark.2

/-- The bytes from one place to another, if the text has them. -/
def slice? (bytes : List UInt8) (start stop : ℕ) : Option (List UInt8) :=
  if (Access.slice start stop).IsSafe bytes then some ((bytes.drop start).take (stop - start))
  else none

/-- A number between two places. A slice that the text does not have is no number. -/
def numberAt (bytes : List UInt8) (name : String) (start stop : ℕ) : Except Stop ℕ :=
  match (slice? bytes start stop).bind fun part =>
      Numeral.below? 0x100000000 (part.map Char.ofUInt8) with
  | some n => .ok n
  | none => .error (.refusal (.field name))

/-- Nanoseconds of the digits between the point and the last byte. -/
def nanosecondsAt (bytes : List UInt8) : Except Stop ℕ := do
  let stop := bytes.length - 1
  attempt bytes (.slice 20 stop)
  let digits := stop - 20
  if 9 < digits then throw (.refusal .longFraction)
  if digits = 0 then return 0
  let number ← numberAt bytes "nanoseconds" 20 stop
  attempt bytes (.nanoseconds number digits)
  return number * 10 ^ (9 - digits)

/-- Looks for the marks, and says whether there is a point. -/
def checkMarks (bytes : List UInt8) : Except Stop Bool := do
  if bytes.length < 20 then throw (.refusal .notZulu)
  unless ← isMarked bytes (bytes.length - 1, 'Z') do throw (.refusal .notZulu)
  unless ← marks.allM (isMarked bytes) do throw (.refusal .misplaced)
  let pointed ← isMarked bytes (19, '.')
  unless pointed || (← isMarked bytes (19, 'Z')) do throw (.refusal .misplaced)
  return pointed

def readParts (bytes : List UInt8) (pointed : Bool) : Except Stop Instant := do
  let year ← numberAt bytes "year" 0 4
  let month ← numberAt bytes "month" 5 7
  let day ← numberAt bytes "day" 8 10
  let hour ← numberAt bytes "hour" 11 13
  let minute ← numberAt bytes "minute" 14 16
  let second ← numberAt bytes "second" 17 19
  let nanos ← if pointed then nanosecondsAt bytes else pure 0
  match civil? year month day hour minute second nanos with
  | some civil => return civil.instant 0
  | none => throw (.refusal .outOfRange)

def readBytes (bytes : List UInt8) : Except Stop Instant := do
  readParts bytes (← checkMarks bytes)

variable {c : Char} {i start stop : ℕ} {cols : List (Option Char)} {bytes : List UInt8}

theorem attempt_of_isSafe {access : Access} (h : access.IsSafe bytes) :
    attempt bytes access = .ok () :=
  if_pos h

theorem mapM_id_eq_none (hlt : start < stop) (hcol : cols[start]? = some none) :
    ((cols.drop start).take (stop - start)).mapM id = none := by
  rw [Option.eq_none_iff_forall_ne_some]
  intro cs hcs
  have hfirst := congrArg (·[0]?) (mapM_id_eq_some_iff.1 hcs)
  simp [Nat.sub_pos_of_lt hlt, hcol] at hfirst

/-- With each further digit a number can be ten times as great, and is worth a tenth. -/
theorem isSafe_nanoseconds {part : List (Option Char)} {number : ℕ} (hdigits : part.length ≤ 9)
    (hnumber : field "nanoseconds" part = .ok number) :
    (Access.nanoseconds number part.length).IsSafe bytes := by
  obtain ⟨_, -, hunsigned⟩ := (field_eq_ok_iff_unsigned hdigits).1 hnumber
  refine ⟨hdigits, ?_⟩
  calc number * 10 ^ (9 - part.length)
      < 10 ^ part.length * 10 ^ (9 - part.length) :=
        Nat.mul_lt_mul_of_pos_right hunsigned.lt (Nat.pow_pos (by decide))
    _ = 10 ^ 9 := by rw [← pow_add, Nat.add_sub_cancel' hdigits]

section

variable (h : List.Forall₂ Stands cols bytes)

include h

theorem isBoundary_iff : IsBoundary bytes i ↔ i ≤ bytes.length ∧ cols[i]? ≠ some none := by
  refine and_congr_right fun hi => ?_
  rcases hi.eq_or_lt with rfl | hlt
  · have hcols : cols[bytes.length]? = none := List.getElem?_eq_none h.length_eq.le
    simp [hcols]
  · obtain ⟨col, hcol, hstands⟩ := exists_stands h (List.getElem?_eq_getElem hlt)
    simp [hcol, List.getElem?_eq_getElem hlt, hstands.isUTF8FirstByte_iff]

theorem isMarked_eq (hi : i < bytes.length) (hc : c.utf8Size = 1) :
    isMarked bytes (i, c) = .ok (hasMark cols (i, c)) := by
  obtain ⟨col, hcol, hstands⟩ := exists_stands h (List.getElem?_eq_getElem hi)
  have hmark : (Char.ofUInt8 (bytes.getD i 0) == c) = hasMark cols (i, c) := by
    rw [List.getD_eq_getElem _ _ hi, hasMark, hcol, Bool.eq_iff_iff, beq_iff_eq, beq_iff_eq,
      Option.some_inj]
    exact (hstands.eq_some_iff hc).symm
  have hsafe : (Access.byte i).IsSafe bytes := hi
  rw [isMarked, byteAt, attempt_of_isSafe hsafe, ← hmark]
  rfl

theorem isBoundary_of_hasMark (hmark : hasMark cols (i, c) = true) : IsBoundary bytes i := by
  have hcol : cols[i]? = some (some c) := by simpa [hasMark] using hmark
  rw [isBoundary_iff h, ← h.length_eq, hcol]
  exact ⟨(List.getElem?_eq_some_iff.1 hcol).1.le, by simp⟩

theorem allM_isMarked {ms : List (ℕ × Char)}
    (hms : ∀ m ∈ ms, m.1 < bytes.length ∧ m.2.utf8Size = 1) :
    ms.allM (isMarked bytes) = .ok (ms.all (hasMark cols)) := by
  induction ms with
  | nil => rfl
  | cons m rest ih =>
    obtain ⟨⟨hi, hm⟩, hrest⟩ := List.forall_mem_cons.1 hms
    rw [List.allM, isMarked_eq h hi hm, List.all_cons]
    cases hasMark cols m with
    | false => rfl
    | true => exact ih hrest

/-- A number that ends at a boundary is the one in the columns. If it does not begin at one, there
is none in the columns either. -/
theorem numberAt_eq {name : String} (hlt : start < stop) (hstop : IsBoundary bytes stop) :
    numberAt bytes name start stop =
      (field name ((cols.drop start).take (stop - start))).mapError .refusal := by
  have hread : (slice? bytes start stop).bind (fun part =>
      Numeral.below? 0x100000000 (part.map Char.ofUInt8)) =
        (((cols.drop start).take (stop - start)).mapM id).bind (Numeral.below? 0x100000000) := by
    rw [slice?]
    split_ifs with hsafe
    · exact below?_bytes (List.forall₂_take _ (List.forall₂_drop start h)) _
    · -- Only at its start can the slice be cut amid a character.
      have hcol : cols[start]? = some none := by
        by_contra hcol
        exact hsafe ⟨hlt.le, (isBoundary_iff h).2 ⟨hlt.le.trans hstop.1, hcol⟩, hstop⟩
      rw [mapM_id_eq_none hlt hcol]
      rfl
  rw [numberAt, field, hread]
  cases (((cols.drop start).take (stop - start)).mapM id).bind (Numeral.below? 0x100000000) <;> rfl

/-- The point cannot be the last byte, which is a `Z`, and the digits begin behind it. -/
theorem nanosecondsAt_eq (hlength : 20 ≤ bytes.length) (hpoint : hasMark cols (19, '.') = true)
    (hbehind : cols[20]? ≠ some none) (hlast : hasMark cols (bytes.length - 1, 'Z') = true) :
    nanosecondsAt bytes = (fraction (cols.drop 20).dropLast).mapError .refusal := by
  have hlt : 20 < bytes.length := by
    refine hlength.lt_of_ne fun hend => ?_
    rw [← hend] at hlast
    simp only [hasMark, beq_iff_eq] at hpoint hlast
    simp [hpoint] at hlast
  have hstop := isBoundary_of_hasMark h hlast
  have hslice : (Access.slice 20 (bytes.length - 1)).IsSafe bytes :=
    ⟨Nat.le_sub_one_of_lt hlt, (isBoundary_iff h).2 ⟨hlength, hbehind⟩, hstop⟩
  obtain ⟨width, hwidth⟩ : ∃ width, bytes.length - 1 - 20 = width := ⟨_, rfl⟩
  have hpart : (cols.drop 20).dropLast = (cols.drop 20).take width := by
    rw [List.dropLast_eq_take, List.length_drop, h.length_eq, Nat.sub_right_comm, hwidth]
  have hcount : ((cols.drop 20).take width).length = width := by
    rw [List.length_take, List.length_drop, h.length_eq]
    omega
  have hempty : ((cols.drop 20).take width).isEmpty = decide (width = 0) := by
    rw [Bool.eq_iff_iff, List.isEmpty_iff, decide_eq_true_eq, ← List.length_eq_zero_iff, hcount]
  rw [nanosecondsAt, hpart, attempt_of_isSafe hslice, fraction, hempty, hcount]
  simp only [ok_bind, hwidth, decide_eq_true_eq]
  by_cases hlong : 9 < width
  · have hsome : width ≠ 0 := by omega
    simp only [if_pos hlong, if_neg hsome]
    rfl
  · rw [if_neg hlong, if_neg hlong]
    by_cases hnone : width = 0
    · rw [if_pos hnone, if_pos hnone]
      rfl
    · rw [if_neg hnone, if_neg hnone, numberAt_eq h (by omega) hstop, hwidth]
      cases hnumber : field "nanoseconds" ((cols.drop 20).take width) with
      | error fault => rfl
      | ok number =>
        have hsafe : (Access.nanoseconds number width).IsSafe bytes :=
          hcount ▸ isSafe_nanoseconds (by omega) hnumber
        simp only [Except.mapError, ok_bind, attempt_of_isSafe hsafe]
        rfl

/-- Each byte that is looked at is there. -/
theorem checkMarks_eq : checkMarks bytes =
    if 20 ≤ bytes.length ∧ hasMark cols (bytes.length - 1, 'Z') = true then
      if marks.all (hasMark cols) && (hasMark cols (19, '.') || hasMark cols (19, 'Z')) then
        .ok (hasMark cols (19, '.'))
      else .error (.refusal .misplaced)
    else .error (.refusal .notZulu) := by
  unfold checkMarks
  by_cases hlength : bytes.length < 20
  · rw [if_pos hlength, if_neg (by omega)]
    rfl
  · have hms : ∀ m ∈ marks, m.1 < bytes.length ∧ m.2.utf8Size = 1 := by
      have hbefore : ∀ m ∈ marks, m.1 < 20 ∧ m.2.utf8Size = 1 := by decide
      exact fun m hm => ⟨(hbefore m hm).1.trans_le (not_lt.1 hlength), (hbefore m hm).2⟩
    rw [if_neg hlength, isMarked_eq h (by omega) rfl, allM_isMarked h hms,
      isMarked_eq h (by omega) rfl, isMarked_eq h (by omega) rfl]
    simp only [ok_bind, not_lt.1 hlength, true_and]
    cases hasMark cols (bytes.length - 1, 'Z') <;> cases marks.all (hasMark cols) <;>
      cases hasMark cols (19, '.') <;> cases hasMark cols (19, 'Z') <;> rfl

theorem isRefused_iff :
    (decide (cols.length < 20) || cols.getLast? != some (some 'Z')) = true ↔
      ¬(20 ≤ bytes.length ∧ hasMark cols (bytes.length - 1, 'Z') = true) := by
  rw [List.getLast?_eq_getElem?, h.length_eq]
  simp [hasMark, imp_iff_not_or]

/-- Where the marks stand, every number ends at a boundary. -/
theorem readParts_eq (hframe : 20 ≤ bytes.length ∧ hasMark cols (bytes.length - 1, 'Z') = true)
    (hmarks : (marks.all (hasMark cols) &&
      (hasMark cols (19, '.') || hasMark cols (19, 'Z'))) = true)
    (hbehind : hasMark cols (19, '.') = true → cols[20]? ≠ some none) :
    readParts bytes (hasMark cols (19, '.')) = (readColumns cols).mapError .refusal := by
  unfold readColumns
  dsimp only
  rw [if_neg ((isRefused_iff h).not_left.2 hframe), if_pos hmarks]
  rw [Bool.and_eq_true, Bool.or_eq_true, List.all_eq_true] at hmarks
  have hmark {i : ℕ} {c : Char} (hm : (i, c) ∈ marks) : IsBoundary bytes i :=
    isBoundary_of_hasMark h (hmarks.1 _ hm)
  have htail : IsBoundary bytes 19 :=
    hmarks.2.elim (isBoundary_of_hasMark h) (isBoundary_of_hasMark h)
  rw [readParts, numberAt_eq h (by decide) (hmark (c := '-') (by decide)),
    numberAt_eq h (by decide) (hmark (c := '-') (by decide)),
    numberAt_eq h (by decide) (hmark (c := 'T') (by decide)),
    numberAt_eq h (by decide) (hmark (c := ':') (by decide)),
    numberAt_eq h (by decide) (hmark (c := ':') (by decide)),
    numberAt_eq h (by decide) htail]
  simp only [mapError_bind]
  refine bind_congr fun year => bind_congr fun month => bind_congr fun day =>
    bind_congr fun hour => bind_congr fun minute => bind_congr fun second => ?_
  split_ifs with hpoint
  · rw [nanosecondsAt_eq h hframe.1 hpoint (hbehind hpoint) hframe.2, mapError_bind]
    refine bind_congr fun nanos => ?_
    cases civil? year month day hour minute second nanos <;> rfl
  · rw [pure_bind, pure_bind]
    cases civil? year month day hour minute second 0 <;> rfl

end

theorem readBytes_encode (cs : List Char) :
    readBytes (Utf8.encode cs) = (read cs).mapError .refusal := by
  have h := stands_encode cs
  rw [readBytes, checkMarks_eq h]
  by_cases hframe : 20 ≤ (Utf8.encode cs).length ∧
      hasMark (columns cs) ((Utf8.encode cs).length - 1, 'Z') = true
  · rw [if_pos hframe]
    by_cases hmarks : (marks.all (hasMark (columns cs)) &&
        (hasMark (columns cs) (19, '.') || hasMark (columns cs) (19, 'Z'))) = true
    · rw [if_pos hmarks, ok_bind]
      exact readParts_eq h hframe hmarks fun hpoint =>
        getElem?_columns_succ (c := '.') rfl (beq_iff_eq.1 hpoint)
    · unfold read readColumns
      dsimp only
      rw [if_neg hmarks, if_neg ((isRefused_iff h).not_left.2 hframe), if_neg hmarks]
      rfl
  · unfold read readColumns
    dsimp only
    rw [if_neg hframe, if_pos ((isRefused_iff h).2 hframe)]
    rfl

/-- Whatever characters a text has, and wherever they stand, the reader ends with an instant or
refuses the text. -/
theorem readBytes_never_crashes (input : String) :
    (∀ access, readBytes (Utf8.encode input.toList) ≠ .error (.crash access)) ∧
      readBytes (Utf8.encode input.toList) = (read input.toList).mapError .refusal := by
  refine ⟨fun access hcrash => ?_, readBytes_encode input.toList⟩
  rw [readBytes_encode] at hcrash
  cases hread : read input.toList with
  | error fault =>
    rw [hread] at hcrash
    cases hcrash
  | ok t =>
    rw [hread] at hcrash
    cases hcrash

-- A character of two bytes behind the point is no digit.
example : readBytes (Utf8.encode "2012-08-28T21:24:35.é7Z".toList) =
    .error (.refusal (.field "nanoseconds")) := by decide +kernel

-- Bytes that are no text can end a slice amid a character.
example : readBytes (Utf8.encode "2012-08-28T21:24:35.".toList ++ [0x80, 0x5A]) =
    .error (.crash (.slice 20 21)) := by decide +kernel

end SeriesGateway.Timestamp.Canonical
