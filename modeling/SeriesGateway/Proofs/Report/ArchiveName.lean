import Mathlib
import SeriesGateway.Report.ArchiveName

namespace SeriesGateway.Report

namespace ArchiveName

/-- The scan of a pattern meets a directive for the name of the database. A directive is a percent
sign with the character behind it, be that another percent sign. -/
inductive NamesDatabase : List Char → Prop
  | here (rest : List Char) : NamesDatabase ('%' :: 'n' :: rest)
  | behindDirective (d : Char) {rest : List Char} (h : NamesDatabase rest) :
    NamesDatabase ('%' :: d :: rest)
  | behindLetter {d : Char} (hd : d ≠ '%') {rest : List Char} (h : NamesDatabase rest) :
    NamesDatabase (d :: rest)

/-- A pattern by what its scan meets: the end, a percent sign right before it, a directive, or a
letter that stands for itself. -/
theorem scan_induction {motive : List Char → Prop} (nil : motive []) (lone : motive ['%'])
    (directive : ∀ d rest, motive rest → motive ('%' :: d :: rest))
    (letter : ∀ d rest, d ≠ '%' → motive rest → motive (d :: rest)) (pattern : List Char) :
    motive pattern := by
  induction pattern using expand.induct with
  | case1 => exact nil
  | case2 => exact lone
  | case3 d rest ih => exact directive d rest ih
  | case4 d rest hlone hdirective ih =>
    refine letter d rest ?_ ih
    rintro rfl
    cases rest with
    | nil => exact hlone rfl rfl
    | cons e rest => exact hdirective e rest rfl rfl

variable {a b : List Char} {c : Civil} {d : Char} {pattern : List Char}

theorem expand_directive (name : List Char) (c : Civil) (d : Char) (rest : List Char) :
    expand name c ('%' :: d :: rest) = directive name c d ++ expand name c rest := by
  rw [expand]

theorem expand_letter (hd : d ≠ '%') (name : List Char) (c : Civil) (rest : List Char) :
    expand name c (d :: rest) = d :: expand name c rest := by
  rw [expand]
  · exact fun h _ => hd h
  · exact fun _ _ h _ => hd h

/-- No other directive shows the name. -/
theorem directive_congr (hd : d ≠ 'n') (a b : List Char) (c : Civil) :
    directive a c d = directive b c d := by
  unfold directive
  split <;> first | rfl | exact absurd rfl hd

theorem length_directive_le (h : a.length ≤ b.length) (c : Civil) (d : Char) :
    (directive a c d).length ≤ (directive b c d).length := by
  by_cases hd : d = 'n'
  · subst hd
    exact h
  · rw [directive_congr hd a b]

theorem length_expand_le (h : a.length ≤ b.length) (c : Civil) (pattern : List Char) :
    (expand a c pattern).length ≤ (expand b c pattern).length := by
  induction pattern using scan_induction with
  | nil => exact le_rfl
  | lone => exact le_rfl
  | directive d rest ih =>
    rw [expand_directive, expand_directive, List.length_append, List.length_append]
    exact Nat.add_le_add (length_directive_le h c d) ih
  | letter d rest hd ih =>
    rw [expand_letter hd, expand_letter hd]
    exact Nat.succ_le_succ ih

/-- A longer name makes a longer name of the archive. -/
theorem NamesDatabase.length_expand_lt (hnames : NamesDatabase pattern)
    (h : a.length < b.length) (c : Civil) :
    (expand a c pattern).length < (expand b c pattern).length := by
  induction hnames with
  | here rest =>
    rw [expand_directive, expand_directive, List.length_append, List.length_append]
    exact Nat.add_lt_add_of_lt_of_le h (length_expand_le h.le c rest)
  | behindDirective d _ ih =>
    rw [expand_directive, expand_directive, List.length_append, List.length_append]
    exact Nat.add_lt_add_of_le_of_lt (length_directive_le h.le c d) ih
  | behindLetter hd _ ih =>
    rw [expand_letter hd, expand_letter hd]
    exact Nat.succ_lt_succ ih

/-- Names of one length are read off at the first directive that shows them. -/
theorem NamesDatabase.eq_of_length_eq (hnames : NamesDatabase pattern)
    (hlength : a.length = b.length) (h : expand a c pattern = expand b c pattern) : a = b := by
  induction hnames with
  | here rest =>
    rw [expand_directive, expand_directive] at h
    exact List.append_inj_left h hlength
  | behindDirective d _ ih =>
    rw [expand_directive, expand_directive] at h
    have hd : (directive a c d).length = (directive b c d).length :=
      le_antisymm (length_directive_le hlength.le c d) (length_directive_le hlength.ge c d)
    exact ih (List.append_inj_right h hd)
  | behindLetter hd _ ih =>
    rw [expand_letter hd, expand_letter hd] at h
    exact ih (List.cons.inj h).2

theorem NamesDatabase.expand_inj (hnames : NamesDatabase pattern)
    (h : expand a c pattern = expand b c pattern) : a = b := by
  have hlength := congrArg List.length h
  rcases lt_trichotomy a.length b.length with hlt | heq | hgt
  · exact absurd hlength (hnames.length_expand_lt hlt c).ne
  · exact hnames.eq_of_length_eq heq h
  · exact absurd hlength (hnames.length_expand_lt hgt c).ne'

/-- A pattern that does not name the database makes one name for all of them. -/
theorem expand_congr (hnames : ¬NamesDatabase pattern) (a b : List Char) (c : Civil) :
    expand a c pattern = expand b c pattern := by
  induction pattern using scan_induction with
  | nil => rfl
  | lone => rfl
  | directive d rest ih =>
    have hd : d ≠ 'n' := by
      rintro rfl
      exact hnames (.here rest)
    rw [expand_directive, expand_directive, directive_congr hd a b,
      ih fun h => hnames (.behindDirective d h)]
  | letter d rest hd ih =>
    rw [expand_letter hd, expand_letter hd, ih fun h => hnames (.behindLetter hd h)]

/-- An odd number of percent signs stands right in front of an `n`. -/
def HasOddRun (pattern : List Char) : Prop :=
  ∃ before k after, pattern = before ++ (List.replicate (2 * k + 1) '%' ++ 'n' :: after) ∧
    before.getLast? ≠ some '%'

theorem getLast?_letter {before : List Char} (hd : d ≠ '%') (h : before.getLast? ≠ some '%') :
    (d :: before).getLast? ≠ some '%' := by
  cases before with
  | nil => simpa using hd
  | cons e before => rwa [List.getLast?_cons_cons]

theorem HasOddRun.letter (hd : d ≠ '%') (h : HasOddRun pattern) : HasOddRun (d :: pattern) := by
  obtain ⟨before, k, after, rfl, hlast⟩ := h
  exact ⟨d :: before, k, after, rfl, getLast?_letter hd hlast⟩

/-- Two percent signs go on a run that starts behind them, and leave it odd. -/
theorem HasOddRun.directive (d : Char) (h : HasOddRun pattern) :
    HasOddRun ('%' :: d :: pattern) := by
  obtain ⟨before, k, after, rfl, hlast⟩ := h
  by_cases hd : d = '%'
  · subst hd
    cases before with
    | nil => exact ⟨[], k + 1, after, rfl, nofun⟩
    | cons e before =>
      refine ⟨'%' :: '%' :: e :: before, k, after, rfl, ?_⟩
      rwa [List.getLast?_cons_cons, List.getLast?_cons_cons]
  · refine ⟨'%' :: d :: before, k, after, rfl, ?_⟩
    rw [List.getLast?_cons_cons]
    exact getLast?_letter hd hlast

theorem NamesDatabase.hasOddRun (h : NamesDatabase pattern) : HasOddRun pattern := by
  induction h with
  | here rest => exact ⟨[], 0, rest, rfl, nofun⟩
  | behindDirective d _ ih => exact ih.directive d
  | behindLetter hd _ ih => exact ih.letter hd

theorem namesDatabase_of_run (k : ℕ) (after : List Char) :
    NamesDatabase (List.replicate (2 * k + 1) '%' ++ 'n' :: after) := by
  induction k with
  | zero => exact .here after
  | succ k ih => exact .behindDirective '%' ih

theorem HasOddRun.namesDatabase (h : HasOddRun pattern) : NamesDatabase pattern := by
  obtain ⟨before, k, after, rfl, hlast⟩ := h
  induction before using scan_induction with
  | nil => exact namesDatabase_of_run k after
  | lone => exact absurd rfl hlast
  | directive d rest ih =>
    refine .behindDirective d (ih fun hrest => hlast ?_)
    cases rest with
    | nil => cases hrest
    | cons e rest => rwa [List.getLast?_cons_cons, List.getLast?_cons_cons]
  | letter d rest hd ih =>
    refine .behindLetter hd (ih fun hrest => hlast ?_)
    cases rest with
    | nil => cases hrest
    | cons e rest => rwa [List.getLast?_cons_cons]

end ArchiveName

open ArchiveName in
/-- The names of archives tell databases apart exactly if the scan of the pattern meets a directive
for the name, which is so exactly if an odd number of percent signs stands before some `n`. -/
theorem archiveName_injective_iff (pattern : String) (t : Instant) :
    ((Function.Injective fun name => archiveName pattern name t) ↔
      NamesDatabase pattern.toList) ∧
    (NamesDatabase pattern.toList ↔ HasOddRun pattern.toList) := by
  refine ⟨⟨fun hinjective => ?_, fun hnames a b h => ?_⟩, NamesDatabase.hasOddRun,
    HasOddRun.namesDatabase⟩
  · by_contra hnames
    have hsame : archiveName pattern "a" t = archiveName pattern "b" t :=
      congrArg String.ofList (expand_congr hnames _ _ _)
    exact absurd (hinjective hsame) (by decide)
  · exact String.toList_inj.1 (hnames.expand_inj (String.ofList_inj.1 h))

/-- The second of two percent signs starts no directive, and a name with percent signs is shown as
it is. -/
example : archiveName "%%n of %n" "%n%%" ⟨0, 0⟩ = "%n of %n%%" := by decide +kernel

end SeriesGateway.Report
