import SeriesGateway.Proofs.Report.ArchiveName

namespace SeriesGateway.Report

namespace ArchiveName

/-- The scan of a pattern ends right behind a percent sign that no other character goes with. -/
inductive EndsOpen : List Char → Prop
  | here : EndsOpen ['%']
  | behindDirective (d : Char) {rest : List Char} (h : EndsOpen rest) : EndsOpen ('%' :: d :: rest)
  | behindLetter {d : Char} (hd : d ≠ '%') {rest : List Char} (h : EndsOpen rest) :
    EndsOpen (d :: rest)

variable {d : Char} {pattern rest : List Char}

theorem endsOpen_directive_iff : EndsOpen ('%' :: d :: rest) ↔ EndsOpen rest := by
  constructor
  · intro h
    cases h with
    | behindDirective _ h => exact h
    | behindLetter hd _ => exact absurd rfl hd
  · exact .behindDirective d

theorem endsOpen_letter_iff (hd : d ≠ '%') : EndsOpen (d :: rest) ↔ EndsOpen rest := by
  constructor
  · intro h
    cases h with
    | here => exact absurd rfl hd
    | behindDirective _ _ => exact absurd rfl hd
    | behindLetter _ h => exact h
  · exact .behindLetter hd

theorem expand_append (h : ¬EndsOpen pattern) (name : List Char) (c : Civil) (rest : List Char) :
    expand name c (pattern ++ rest) = expand name c pattern ++ expand name c rest := by
  induction pattern using scan_induction with
  | nil => rfl
  | lone => exact absurd .here h
  | directive d before ih =>
    rw [endsOpen_directive_iff] at h
    rw [List.cons_append, List.cons_append, expand_directive, expand_directive, ih h,
      List.append_assoc]
  | letter d before hd ih =>
    rw [endsOpen_letter_iff hd] at h
    rw [List.cons_append, expand_letter hd, expand_letter hd, ih h, List.cons_append]

/-- A percent sign behind one that is left open is the second of a pair. -/
theorem EndsOpen.expand_append_percent (h : EndsOpen pattern) (name : List Char) (c : Civil) :
    expand name c (pattern ++ ['%']) = expand name c pattern ++ ['%'] := by
  induction h with
  | here => rfl
  | behindDirective d _ ih =>
    rw [List.cons_append, List.cons_append, expand_directive, expand_directive, ih,
      List.append_assoc]
  | behindLetter hd _ ih =>
    rw [List.cons_append, expand_letter hd, expand_letter hd, ih, List.cons_append]

def percentsAtEnd (pattern : List Char) : ℕ :=
  (pattern.reverse.takeWhile (· = '%')).length

theorem percentsAtEnd_letter (hd : d ≠ '%') (rest : List Char) :
    percentsAtEnd (d :: rest) = percentsAtEnd rest := by
  have hnone : [d].takeWhile (· = '%') = [] := by simp [hd]
  rw [percentsAtEnd, percentsAtEnd, List.reverse_cons, List.takeWhile_append, hnone,
    List.append_nil]
  split_ifs with hall
  · rw [hall]
  · rfl

theorem percentsAtEnd_le (pattern : List Char) : percentsAtEnd pattern ≤ pattern.length := by
  rw [← pattern.length_reverse]
  exact (List.takeWhile_sublist _).length_le

/-- A percent sign in front counts if there is nothing else in between. -/
theorem percentsAtEnd_percent (rest : List Char) :
    percentsAtEnd ('%' :: rest) =
      if percentsAtEnd rest = rest.length then rest.length + 1 else percentsAtEnd rest := by
  have hone : ['%'].takeWhile (· = '%') = ['%'] := by simp
  have hrest : (rest.reverse.takeWhile (· = '%')).length = percentsAtEnd rest := rfl
  rw [percentsAtEnd, List.reverse_cons, List.takeWhile_append, hone, List.length_reverse, hrest]
  split_ifs
  · rw [List.length_append, List.length_reverse, List.length_singleton]
  · rfl

theorem odd_percentsAtEnd_directive (d : Char) (rest : List Char) :
    Odd (percentsAtEnd ('%' :: d :: rest)) ↔ Odd (percentsAtEnd rest) := by
  by_cases hd : d = '%'
  · subst hd
    rw [percentsAtEnd_percent, percentsAtEnd_percent, List.length_cons]
    by_cases hall : percentsAtEnd rest = rest.length
    · rw [if_pos hall, if_pos rfl, hall, Nat.odd_add_one, Nat.odd_add_one, not_not]
    · have hle := percentsAtEnd_le rest
      rw [if_neg hall, if_neg (by omega)]
  · have hle := percentsAtEnd_le rest
    rw [percentsAtEnd_percent, percentsAtEnd_letter hd, List.length_cons, if_neg (by omega)]

/-- The scan takes a run of percent signs in pairs, whatever stands before it. -/
theorem endsOpen_iff_odd (pattern : List Char) :
    EndsOpen pattern ↔ Odd (percentsAtEnd pattern) := by
  induction pattern using scan_induction with
  | nil => exact ⟨nofun, nofun⟩
  | lone => exact ⟨fun _ => odd_one, fun _ => .here⟩
  | directive d rest ih => rw [endsOpen_directive_iff, ih, odd_percentsAtEnd_directive]
  | letter d rest hd ih => rw [endsOpen_letter_iff hd, ih, percentsAtEnd_letter hd]

/-- A text as a pattern for itself: each percent sign twice. -/
def doubled (text : List Char) : List Char :=
  text.flatMap fun c => if c = '%' then ['%', '%'] else [c]

theorem expand_doubled (name : List Char) (c : Civil) (text : List Char) :
    expand name c (doubled text) = text := by
  induction text with
  | nil => rfl
  | cons d rest ih =>
    rw [doubled, List.flatMap_cons, ← doubled]
    by_cases hd : d = '%'
    · rw [if_pos hd, hd, List.cons_append, List.singleton_append, expand_directive, ih]
      rfl
    · rw [if_neg hd, List.singleton_append, expand_letter hd, ih]

end ArchiveName

open ArchiveName in
/-- The name made by two patterns in a row is what the first makes and then what the second makes,
for every second pattern exactly if the scan of the first does not end behind an open percent sign;
and it ends so exactly if an odd number of percent signs stands at the end. The pattern with all
percent signs of a text doubled makes that text. -/
theorem archiveName_append_iff (pattern name : String) (t : Instant) :
    ((∀ rest, archiveName (pattern ++ rest) name t =
        archiveName pattern name t ++ archiveName rest name t) ↔ ¬EndsOpen pattern.toList) ∧
    (EndsOpen pattern.toList ↔ Odd (percentsAtEnd pattern.toList)) ∧
    ∀ text : String, archiveName (.ofList (doubled text.toList)) name t = text := by
  refine ⟨⟨fun happend hopen => ?_, fun h rest => ?_⟩, endsOpen_iff_odd _, fun text => ?_⟩
  · have htwice := congrArg String.toList (happend "%")
    simp only [archiveName, String.toList_append, String.toList_ofList] at htwice
    have hpair := hopen.expand_append_percent name.toList t.civil
    have hlone : expand name.toList t.civil "%".toList = [] := rfl
    rw [hlone, List.append_nil] at htwice
    exact absurd (hpair.symm.trans htwice) (by simp)
  · rw [archiveName, String.toList_append, expand_append h, String.ofList_append]
    rfl
  · rw [archiveName, String.toList_ofList, expand_doubled, String.ofList_toList]

/-- Of three percent signs the last is open, and takes the letter behind it for a directive. -/
example : archiveName ("%%%" ++ "n") "logs" ⟨0, 0⟩ = "%logs" ∧
    archiveName "%%%" "logs" ⟨0, 0⟩ ++ archiveName "n" "logs" ⟨0, 0⟩ = "%n" := by decide +kernel

end SeriesGateway.Report
