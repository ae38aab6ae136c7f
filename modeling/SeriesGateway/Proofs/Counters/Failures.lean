import SeriesGateway.Proofs.Store.Calls
import SeriesGateway.Proofs.Store.Naming

namespace SeriesGateway

theorem Operation.notices_iff {op : Operation} {f : Failure} :
    op.notices f = true ↔ ¬(op = .series ∧ f.isOfBody = true) := by
  simp [notices, imp_iff_not_or]

/-- A call without a request counts nothing. With a request, a success counts no failure, and a
failure counts as one of its operation and of no other; but a series whose body carries no data, or
cannot be read, is a failure that is not counted. -/
theorem failures_of_call (call : StoreCall) (s : Scene) :
    (∀ f, call.ask = .error f → call.run s = (.error f, s)) ∧
    ∀ request, call.ask = .ok request → ∃ r after, call.run s = (r, after) ∧
      after.attempts = s.attempts ++ [(call.operation, request.request)] ∧
      (∀ given, r = .ok given → after.counters.failures = s.counters.failures) ∧
      ∀ f, r = .error f →
        (¬(call.operation = .series ∧ f.isOfBody = true) → ∀ op,
          after.counters.failures op =
            s.counters.failures op + if op = call.operation then 1 else 0) ∧
        (call.operation = .series ∧ f.isOfBody = true →
          after.counters.failures = s.counters.failures) := by
  refine ⟨fun f h => StoreCall.run_of_failure h s, fun request h => ?_⟩
  have hleaves := call.leaves_run s
  have hone := StoreCall.attempts_of_ask h
  rcases hrun : call.run s with ⟨r, after⟩
  rw [hrun] at hleaves
  obtain ⟨hattempts, -, -, -, hfailures, -⟩ := hleaves
  refine ⟨r, after, rfl, hone ▸ hattempts, ?_, ?_⟩
  · rintro given rfl
    funext op
    exact hfailures op
  · rintro f rfl
    have hfailed (op : Operation) : after.counters.failures op = s.counters.failures op +
        if call.operation.notices f = true then call.attempts.countP (·.1 = op) else 0 :=
      hfailures op
    refine ⟨fun hcounted op => ?_, fun hmissed => funext fun op => ?_⟩
    · rw [hfailed, if_pos (Operation.notices_iff.2 hcounted), hone]
      simp [eq_comm]
    · rw [hfailed, if_neg fun hnotices => Operation.notices_iff.1 hnotices hmissed, Nat.add_zero]

/-- A list that cannot be read is a failure that is counted. -/
theorem failures_of_unreadable_list :
    let call : StoreCall := .list .atLocalStore
    ∃ detail after, call.run (.answering "not json") = (.error (.unreadable detail), after) ∧
      after.attempts = [(.list, ⟨.get, Client.atLocalStore.listUrl⟩)] ∧
      after.counters.failures .list = 1 ∧ after.counters.failures .series = 0 := by
  intro call
  obtain ⟨r, after, hrun, hattempts, -, hfailed⟩ :=
    (failures_of_call call (.answering "not json")).2 _ rfl
  have hread : readJson "list of names" readNames?
      (.answered 200 ⟨["not json".toUTF8], true⟩) =
        .error (.unreadable "the answer is no list of names") := by
    cbv
  have hr : r = .error (.unreadable "the answer is no list of names") :=
    (congrArg Prod.fst hrun).symm.trans hread
  have hlist : call.operation ≠ .series := by decide
  have hcounted := (hfailed _ hr).1 fun hseries => hlist hseries.1
  exact ⟨_, after, hr ▸ hrun, hattempts, hcounted .list, hcounted .series⟩

/-- A series that cannot be read is a failure that is not counted. -/
theorem unreadable_series_is_not_counted :
    let call : StoreCall := .series .sample ⟨0, 3, 1, by decide⟩
    ∃ request detail after, call.ask = .ok request ∧
      call.run (.answering "not json") = (.error (.unreadable detail), after) ∧
      after.attempts = [(.series, request.request)] ∧
      after.counters.requests .series = 1 ∧ after.counters.failures .series = 0 := by
  intro call
  obtain ⟨u, hu⟩ := Metric.exists_url_sample ⟨0, 3, 1, by decide⟩
  obtain ⟨request, hseries, -, -, houtcome⟩ := Ask.exists_series_of_url hu
  have hask : call.ask = .ok request := hseries
  have htext : textOfBytes (Body.bytes ⟨["not json".toUTF8], true⟩) = "not json".toList := by
    decide +kernel
  have hbrings : Arrival.Brings (.answered 200 ⟨["not json".toUTF8], true⟩) "not json".toList :=
    htext ▸ .whole rfl
  have hblank : ¬Text.IsBlank "not json".toList :=
    mt Text.isEmpty_trim_iff.2 (by decide +kernel)
  obtain ⟨detail, hdetail⟩ := (houtcome _).unreadable.2 ⟨_, hbrings, hblank, by cbv⟩
  have hanswer : ((Scene.answering "not json").perform request).1 =
      .error (.unreadable detail) := hdetail
  have hleaves := StoreCall.leaves_run_of_ask hask (.answering "not json")
  rw [hanswer] at hleaves
  have hone := StoreCall.attempts_of_ask hask
  refine ⟨request, detail, _, hask, (StoreCall.run_of_ask hask _).trans (Prod.ext hanswer rfl),
    ?_, ?_, ?_⟩
  · rw [hleaves.attempts, hone]
    rfl
  · rw [hleaves.requests, hone]
    rfl
  · rw [hleaves.failures]
    rfl

end SeriesGateway
