import SeriesGateway.Proofs.Jobs
import SeriesGateway.Proofs.Store.Calls

namespace SeriesGateway

theorem Schedule.inPlace_perm {α : Type} (outcomes : List (Nat × α)) :
    (inPlace outcomes).Perm (outcomes.map Prod.snd) :=
  (List.mergeSort_perm outcomes _).map Prod.snd

namespace Scene

/-- What has been counted between two scenes, where requests were sent and series were returned. -/
structure Grown (s after : Scene) (sent : List (Operation × Request)) (returned : List Series) :
    Prop where
  attempts : after.attempts = s.attempts ++ sent
  network : after.network = s.network.afterAll (sent.map Prod.snd)
  requests : ∀ op, after.counters.requests op = s.counters.requests op + sent.countP (·.1 = op)
  timed : ∀ op, after.counters.timed op = s.counters.timed op + sent.countP (·.1 = op)
  failures : ∀ op, s.counters.failures op ≤ after.counters.failures op ∧
    after.counters.failures op ≤ s.counters.failures op + sent.countP (·.1 = op)
  missing : after.counters.missing =
    s.counters.missing + returned.flatten.countP Binary64.isNan

namespace Grown

variable {s t u : Scene} {sent others : List (Operation × Request)} {returned more : List Series}

/-- Nothing is counted where nothing is sent. -/
theorem quiet (hattempts : t.attempts = s.attempts) (hnetwork : t.network = s.network)
    (hcounters : t.counters = s.counters) : s.Grown t [] [] where
  attempts := by rw [hattempts, List.append_nil]
  network := hnetwork
  requests op := by rw [hcounters, List.countP_nil, Nat.add_zero]
  timed op := by rw [hcounters, List.countP_nil, Nat.add_zero]
  failures op := by simp [hcounters]
  missing := by rw [hcounters, List.flatten_nil, List.countP_nil, Nat.add_zero]

theorem refl (s : Scene) : s.Grown s [] [] :=
  quiet rfl rfl rfl

theorem trans (h : s.Grown t sent returned) (hnext : t.Grown u others more) :
    s.Grown u (sent ++ others) (returned ++ more) where
  attempts := by rw [hnext.attempts, h.attempts, List.append_assoc]
  network := by
    rw [hnext.network, h.network, List.map_append, Network.afterAll, Network.afterAll,
      Network.afterAll, List.foldl_append]
  requests op := by rw [hnext.requests, h.requests, List.countP_append, Nat.add_assoc]
  timed op := by rw [hnext.timed, h.timed, List.countP_append, Nat.add_assoc]
  failures op := by
    obtain ⟨hleast, hmost⟩ := h.failures op
    obtain ⟨hnextLeast, hnextMost⟩ := hnext.failures op
    rw [List.countP_append]
    omega
  missing := by
    rw [hnext.missing, h.missing, List.flatten_append, List.countP_append, Nat.add_assoc]

/-- A scene that goes on as it was is no different to what follows. -/
theorem after_quiet (h : t.Grown u sent returned) (hattempts : t.attempts = s.attempts)
    (hnetwork : t.network = s.network) (hcounters : t.counters = s.counters) :
    s.Grown u sent returned :=
  (quiet hattempts hnetwork hcounters).trans h

theorem before_quiet (h : s.Grown t sent returned) (hattempts : u.attempts = t.attempts)
    (hnetwork : u.network = t.network) (hcounters : u.counters = t.counters) :
    s.Grown u sent returned := by
  have hboth := h.trans (quiet hattempts hnetwork hcounters)
  rwa [List.append_nil, List.append_nil] at hboth

/-- Series are counted whichever is returned first. -/
theorem of_perm (h : s.Grown t sent returned) (hperm : returned.Perm more) :
    s.Grown t sent more :=
  { h with missing := by rw [h.missing, hperm.flatten.countP_eq] }

end Grown

/-- One operation of the store counts its request, if it has one. -/
theorem grown_call (call : StoreCall) (s : Scene) :
    s.Grown (call.run s).2 call.attempts (call.series? (call.run s).1).toList where
  attempts := (call.leaves_run s).attempts
  network := (call.leaves_run s).network
  requests := (call.leaves_run s).requests
  timed := (call.leaves_run s).timed
  failures op := by
    rw [(call.leaves_run s).failures]
    split_ifs <;> omega
  missing := by
    rw [(call.leaves_run s).missing]
    cases call.series? (call.run s).1 <;> simp

section Jobs

variable {α β : Type} (job : α → Act β) (series : β → List Series)
  (Sent : List α → List (Operation × Request) → Prop) (hnil : Sent [] [])
  (step : ∀ a done before (u : Scene), Sent done before →
    ∃ part, Sent (done ++ [a]) (before ++ part) ∧ u.Grown (job a u).2 part (series (job a u).1))
include hnil step

/-- What is sent for jobs one after the other adds up. -/
theorem grown_mapM (as : List α) (s : Scene) :
    ∃ sent, Sent as sent ∧ s.Grown (as.mapM job s).2 sent ((as.mapM job s).1.flatMap series) := by
  refine mapM_holds (fun done outcomes u => ∃ sent, Sent done sent ∧
    s.Grown u sent (outcomes.flatMap series)) ?_ as ⟨[], hnil, .refl s⟩
  rintro a done outcomes u ⟨before, hbefore, hgrown⟩
  obtain ⟨part, hpart, hstep⟩ := step a done before u hbefore
  refine ⟨before ++ part, hpart, ?_⟩
  rw [List.flatMap_append, List.flatMap_singleton]
  exact hgrown.trans hstep

/-- So does what is sent for jobs side by side, in an order of the jobs. -/
theorem grown_completions (width : Nat) (as : List α) (s : Scene) :
    ∃ order sent, order.Perm as ∧ Sent order sent ∧
      s.Grown (SideBySide.completions width (as.map job) s).2 sent
        ((SideBySide.completions width (as.map job) s).1.flatMap series) := by
  obtain ⟨sent, hsent, hgrown⟩ := grown_mapM job series Sent hnil step
    (Schedule.completions width s.choices as) { s with choices := s.choices.drop as.length }
  rw [completions_eq]
  exact ⟨_, sent, Schedule.completions_perm width s.choices as, hsent,
    hgrown.after_quiet rfl rfl rfl⟩

end Jobs

end Scene

end SeriesGateway
