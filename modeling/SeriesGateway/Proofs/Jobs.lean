import Mathlib
import SeriesGateway.Scene

namespace SeriesGateway

namespace Schedule

variable {α β : Type} {width : Nat} {jobs order : List α}

/-- The orders in which jobs can complete. The first `width` of those that are left are in flight,
and any of them may be the next. -/
inductive Completes (width : Nat) : List α → List α → Prop
  | nil : Completes width [] []
  | next {before after later : List α} {job : α} (inFlight : before.length < width)
      (rest : Completes width (before ++ after) later) :
      Completes width (before ++ job :: after) (job :: later)

/-- One at a time the jobs complete as they stand. -/
theorem Completes.eq_of_one (h : Completes 1 jobs order) : order = jobs := by
  induction h with
  | nil => rfl
  | next inFlight rest ih =>
    have hfirst := List.length_eq_zero_iff.1 (Nat.lt_one_iff.1 inFlight)
    rw [hfirst] at ih ⊢
    rw [ih]
    rfl

theorem completions_perm (width : Nat) (choices : List Nat) (jobs : List α) :
    (completions width choices jobs).Perm jobs := by
  fun_induction completions width choices jobs with
  | case1 choices jobs place h ih =>
    exact (ih.cons jobs[place]).trans (List.getElem_cons_eraseIdx_perm h)
  | case2 choices jobs place h =>
    have hplace : place < max 1 (min width jobs.length) := Nat.mod_lt _ (by omega)
    have hjobs : jobs = [] := List.length_eq_zero_iff.1 (by omega)
    rw [hjobs]

theorem completions_map (f : α → β) (choices : List Nat) (jobs : List α) :
    completions width choices (jobs.map f) = (completions width choices jobs).map f := by
  fun_induction completions width choices jobs with
  | case1 choices jobs place h ih =>
    rw [completions]
    simp only [List.length_map]
    rw [dif_pos h, List.map_cons, List.eraseIdx_map, ih, List.getElem_map]
  | case2 choices jobs place h =>
    rw [completions]
    simp only [List.length_map]
    rw [dif_neg h, List.map_nil]

theorem completes_completions (hwidth : 0 < width) (choices : List Nat) (jobs : List α) :
    Completes width jobs (completions width choices jobs) := by
  fun_induction completions width choices jobs with
  | case1 choices jobs place h ih =>
    have hplace : place < max 1 (min width jobs.length) := Nat.mod_lt _ (by omega)
    have hjobs : jobs = jobs.take place ++ jobs[place] :: jobs.drop (place + 1) := by
      rw [List.cons_getElem_drop_succ, List.take_append_drop]
    have hlength : (jobs.take place).length < width := by
      rw [List.length_take]
      omega
    rw [List.eraseIdx_eq_take_drop_succ] at ih ⊢
    have hnext : Completes width (jobs.take place ++ jobs[place] :: jobs.drop (place + 1))
        (jobs[place] :: _) := .next hlength ih
    rwa [← hjobs] at hnext
  | case2 choices jobs place h =>
    have hplace : place < max 1 (min width jobs.length) := Nat.mod_lt _ (by omega)
    have hjobs : jobs = [] := List.length_eq_zero_iff.1 (by omega)
    subst hjobs
    exact .nil

/-- Every order in which jobs can complete comes of some choices. -/
theorem Completes.exists_choices (h : Completes width jobs order) :
    ∃ choices, completions width choices jobs = order := by
  induction h with
  | nil => exact ⟨[], by rw [completions]; rfl⟩
  | next inFlight rest ih =>
    rename_i before after later job
    obtain ⟨choices, hrest⟩ := ih
    refine ⟨before.length :: choices, ?_⟩
    have hlength : (before ++ job :: after).length = before.length + after.length + 1 := by
      rw [List.length_append, List.length_cons, Nat.add_assoc]
    have hplace : (before.length :: choices).headD 0 %
        max 1 (min width (before ++ job :: after).length) = before.length := by
      change before.length % _ = _
      apply Nat.mod_eq_of_lt
      omega
    have herase : (before ++ job :: after).eraseIdx before.length = before ++ after := by
      rw [List.eraseIdx_append_of_length_le le_rfl, Nat.sub_self, List.eraseIdx_cons_zero]
    rw [completions]
    simp only [hplace]
    rw [dif_pos (by omega), herase, List.tail_cons, hrest]
    simp

theorem Completes.perm (h : Completes width jobs order) : order.Perm jobs := by
  obtain ⟨choices, rfl⟩ := h.exists_choices
  exact completions_perm width choices jobs

/-- Numbered outcomes come into the order of their numbers. -/
theorem inPlace_of_perm {outcomes : List (Nat × α)} {as : List α}
    (h : outcomes.Perm (as.zipIdx.map Prod.swap)) : inPlace outcomes = as := by
  have hperm := (outcomes.mergeSort_perm (fun a b => a.1 ≤ b.1)).trans h
  have hsorted : (outcomes.mergeSort (fun a b => a.1 ≤ b.1)).Pairwise
      (fun a b => decide (a.1 ≤ b.1) = true) := by
    apply List.pairwise_mergeSort
    · intro a b c hab hbc
      rw [decide_eq_true_eq] at hab hbc ⊢
      exact hab.trans hbc
    · intro a b
      rw [Bool.or_eq_true, decide_eq_true_eq, decide_eq_true_eq]
      exact Nat.le_total a.1 b.1
  have hnumbered : (as.zipIdx.map Prod.swap).Pairwise
      (fun a b => decide (a.1 ≤ b.1) = true) := by
    rw [List.pairwise_iff_getElem]
    intro i j hi hj hij
    simpa using hij.le
  have hplaces : outcomes.mergeSort (fun a b => a.1 ≤ b.1) = as.zipIdx.map Prod.swap := by
    refine List.Perm.eq_of_pairwise ?_ hsorted hnumbered hperm
    intro a b ha hb hab hba
    have hnumber : a.1 = b.1 := by
      rw [decide_eq_true_eq] at hab hba
      omega
    obtain ⟨x, hx, rfl⟩ := List.mem_map.1 (hperm.mem_iff.1 ha)
    obtain ⟨y, hy, rfl⟩ := List.mem_map.1 hb
    rw [List.mem_zipIdx_iff_getElem?] at hx hy
    simp only [Prod.fst_swap] at hnumber
    rw [← hnumber, hx] at hy
    exact congrArg Prod.swap (Prod.ext (Option.some.inj hy) hnumber)
  rw [inPlace, hplaces, List.map_map]
  exact List.zipIdx_map_fst 0 as

end Schedule

namespace Scene

variable {α β : Type} {job : α → Act β} {width : Nat} {s : Scene}

theorem mapM_cons (job : α → Act β) (a : α) (rest : List α) (s : Scene) :
    (a :: rest).mapM job s =
      ((job a s).1 :: (rest.mapM job (job a s).2).1, (rest.mapM job (job a s).2).2) := by
  rw [List.mapM_cons]
  rfl

/-- What every job keeps true of the jobs that are done and of their outcomes is true of a whole
row of them. -/
theorem mapM_holds (Holds : List α → List β → Scene → Prop)
    (step : ∀ a done outcomes s, Holds done outcomes s →
      Holds (done ++ [a]) (outcomes ++ [(job a s).1]) (job a s).2)
    (as : List α) (h : Holds [] [] s) : Holds as (as.mapM job s).1 (as.mapM job s).2 := by
  have hrun : ∀ rest done outcomes s, Holds done outcomes s →
      Holds (done ++ rest) (outcomes ++ (rest.mapM job s).1) (rest.mapM job s).2 := by
    intro rest
    induction rest with
    | nil =>
      intro done outcomes s h
      rw [List.append_nil]
      change Holds done (outcomes ++ []) s
      rwa [List.append_nil]
    | cons a rest ih =>
      intro done outcomes s h
      have hrest := ih _ _ _ (step a done outcomes s h)
      rw [mapM_cons]
      rwa [List.append_assoc, List.append_assoc, List.singleton_append,
        List.singleton_append] at hrest
  exact hrun as [] [] s h

theorem completions_eq (job : α → Act β) (width : Nat) (as : List α) (s : Scene) :
    SideBySide.completions width (as.map job) s =
      (Schedule.completions width s.choices as).mapM job
        { s with choices := s.choices.drop as.length } := by
  change ((Schedule.completions width s.choices (as.map job)).mapM id)
    { s with choices := s.choices.drop (as.map job).length } = _
  rw [Schedule.completions_map, List.mapM_map, List.length_map]
  rfl

/-- Jobs side by side are done in an order in which they can complete, and keep what each of them
keeps. -/
theorem completions_holds (Holds : List α → List β → Scene → Prop)
    (step : ∀ a done outcomes s, Holds done outcomes s →
      Holds (done ++ [a]) (outcomes ++ [(job a s).1]) (job a s).2)
    (hwidth : 0 < width) (as : List α)
    (h : Holds [] [] { s with choices := s.choices.drop as.length }) :
    Schedule.Completes width as (Schedule.completions width s.choices as) ∧
      Holds (Schedule.completions width s.choices as)
        (SideBySide.completions width (as.map job) s).1
        (SideBySide.completions width (as.map job) s).2 := by
  refine ⟨Schedule.completes_completions hwidth s.choices as, ?_⟩
  rw [completions_eq]
  exact mapM_holds Holds step _ h

/-- A job that gives its number with its outcome. -/
def numbered (job : α → Act β) (entry : α × Nat) : Act (Nat × β) := do
  return (entry.2, ← job entry.1)

theorem all_eq (job : α → Act β) (as : List α) (s : Scene) :
    SideBySide.all (as.map job) s =
      (Schedule.inPlace (SideBySide.completions as.length (as.zipIdx.map (numbered job)) s).1,
        (SideBySide.completions as.length (as.zipIdx.map (numbered job)) s).2) := by
  have hjobs : (as.map job).zipIdx.map (fun (job, i) => do return (i, ← job)) =
      as.zipIdx.map (numbered job) := by
    rw [List.zipIdx_map, List.map_map]
    rfl
  rw [SideBySide.all, hjobs, List.length_map]
  rfl

/-- If nothing that is kept makes a difference to what a job gives, then all jobs at once give what
each of them gives alone, in the order in which they stand. -/
theorem all_holds {f : α → β} {Holds : Scene → Prop}
    (step : ∀ a s, Holds s → (job a s).1 = f a ∧ Holds (job a s).2) (as : List α)
    (h : Holds { s with choices := s.choices.drop as.length }) :
    (SideBySide.all (as.map job) s).1 = as.map f ∧ Holds (SideBySide.all (as.map job) s).2 := by
  have hstep (entry : α × Nat) (done : List (α × Nat)) (outcomes : List (Nat × β)) (u : Scene)
      (hu : outcomes = done.map (fun e => (e.2, f e.1)) ∧ Holds u) :
      outcomes ++ [(numbered job entry u).1] = (done ++ [entry]).map (fun e => (e.2, f e.1)) ∧
        Holds (numbered job entry u).2 := by
    obtain ⟨hvalue, hkept⟩ := step entry.1 u hu.2
    have hnumbered : (numbered job entry u).1 = (entry.2, f entry.1) :=
      congrArg (entry.2, ·) hvalue
    refine ⟨?_, hkept⟩
    rw [hu.1, hnumbered, List.map_append]
    rfl
  rw [all_eq, completions_eq, List.length_zipIdx]
  obtain ⟨houtcomes, hkept⟩ := mapM_holds
    (fun done outcomes u => outcomes = done.map (fun e => (e.2, f e.1)) ∧ Holds u)
    hstep (Schedule.completions as.length s.choices as.zipIdx) ⟨rfl, h⟩
  refine ⟨Schedule.inPlace_of_perm ?_, hkept⟩
  have hperm := Schedule.completions_perm as.length s.choices as.zipIdx
  have hswap : as.zipIdx.map (fun e => (e.2, f e.1)) = (as.map f).zipIdx.map Prod.swap := by
    rw [List.zipIdx_map, List.map_map]
    rfl
  rw [← hswap]
  exact (List.Perm.of_eq houtcomes).trans (hperm.map _)

end Scene

end SeriesGateway
