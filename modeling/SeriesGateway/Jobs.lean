namespace SeriesGateway

namespace Schedule

/-- The jobs in the order of their completion. At most `width` are in flight, taken up in order, and
`choices` says which of those completes next; where it ends, the eldest does. -/
def completions {α : Type} (width : Nat) (choices : List Nat) (jobs : List α) : List α :=
  let place := choices.headD 0 % max 1 (min width jobs.length)
  if h : place < jobs.length then
    jobs[place] :: completions width choices.tail (jobs.eraseIdx place)
  else []
termination_by jobs.length
decreasing_by
  rw [List.length_eraseIdx_of_lt h]
  omega

/-- Outcomes that completed in any order, in the order of their places. -/
def inPlace {α : Type} (outcomes : List (Nat × α)) : List α :=
  (outcomes.mergeSort fun a b => a.1 ≤ b.1).map Prod.snd

end Schedule

/-- A place where jobs run side by side. -/
class SideBySide (m : Type → Type) where
  /-- Runs all jobs, at most `width` of them at a time, and gives their outcomes as they
  complete. -/
  completions : {α : Type} → (width : Nat) → List (m α) → m (List α)

namespace SideBySide

variable {m : Type → Type} [Monad m] [SideBySide m] {α : Type}

/-- Runs all jobs at once, and gives their outcomes in the order of the jobs. -/
def all (jobs : List (m α)) : m (List α) := do
  let numbered := jobs.zipIdx.map fun (job, i) => do return (i, ← job)
  return Schedule.inPlace (← completions jobs.length numbered)

end SideBySide

end SeriesGateway
