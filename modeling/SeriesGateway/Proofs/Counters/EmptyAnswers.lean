import SeriesGateway.Proofs.Jobs
import SeriesGateway.Proofs.Store.Calls
import SeriesGateway.Proofs.Store.Naming

namespace SeriesGateway

theorem any_isNoData_iff {α : Type} {r : Except Failure α} :
    (failure? r).any Failure.isNoData = true ↔ ∃ url, r = .error (.noData url) := by
  cases r with
  | ok given => simp [failure?]
  | error f => cases f <;> simp [failure?, Failure.isNoData]

namespace StoreCall

/-- Runs a call, and says of which operation it was and how it failed, if it did. -/
def outcome (call : StoreCall) : Act (Operation × Option Failure) := do
  return (call.operation, failure? (← call.run))

/-- Outcomes for which there was no data. -/
def lacksData (outcome : Operation × Option Failure) : Bool :=
  outcome.2.any Failure.isNoData

/-- Outcomes that are counted as without data. -/
def countsAsEmpty (outcome : Operation × Option Failure) : Bool :=
  lacksData outcome && outcome.1 == .series

theorem operation_outcome (call : StoreCall) (s : Scene) :
    (call.outcome s).1.1 = call.operation :=
  rfl

theorem empty_outcome (call : StoreCall) (s : Scene) :
    (call.outcome s).2.counters.empty =
      s.counters.empty + if countsAsEmpty (call.outcome s).1 then 1 else 0 := by
  have hempty : (call.outcome s).2.counters.empty = s.counters.empty +
      if call.operation = .series ∧ lacksData (call.outcome s).1 = true then 1 else 0 :=
    (call.leaves_run s).empty
  have hcounts : countsAsEmpty (call.outcome s).1 = true ↔
      call.operation = .series ∧ lacksData (call.outcome s).1 = true := by
    rw [countsAsEmpty, Bool.and_eq_true, beq_iff_eq, and_comm, operation_outcome]
  simp only [hempty, hcounts]

/-- Calls one after the other add the number of their outcomes that count as without data. -/
theorem empty_outcomes (calls : List StoreCall) (s : Scene) :
    (calls.mapM outcome s).2.counters.empty =
      s.counters.empty + (calls.mapM outcome s).1.countP countsAsEmpty := by
  refine Scene.mapM_holds (fun _ outcomes after =>
    after.counters.empty = s.counters.empty + outcomes.countP countsAsEmpty) ?_ calls rfl
  intro call _ outcomes after h
  rw [empty_outcome, h, List.countP_append, List.countP_singleton, Nat.add_assoc]

theorem operation_outcomes (calls : List StoreCall) (s : Scene) :
    (calls.mapM outcome s).1.map Prod.fst = calls.map operation := by
  refine Scene.mapM_holds (fun done outcomes _ =>
    outcomes.map Prod.fst = done.map operation) ?_ calls rfl
  intro call done outcomes after h
  rw [List.map_append, List.map_append, h, List.map_singleton, List.map_singleton,
    operation_outcome]

theorem countP_countsAsEmpty (outcomes : List (Operation × Option Failure)) :
    outcomes.countP countsAsEmpty = outcomes.countP lacksData ↔
      ∀ o ∈ outcomes, lacksData o = true → o.1 = .series := by
  have hfilter : outcomes.countP countsAsEmpty =
      (outcomes.filter lacksData).countP (·.1 == .series) := by
    rw [List.countP_filter]
    exact List.countP_congr fun o _ => by rw [countsAsEmpty, Bool.and_comm]
  rw [hfilter, List.countP_eq_length_filter (p := lacksData), List.countP_eq_length]
  simp

end StoreCall

namespace Ask

variable {c : Client} {name : String} {q : Query} {request : Ask (Except Failure Rows)}

theorem answer_of_query (h : Ask.query c name q = .ok request) (a : Arrival) :
    (request.read a).answer = (a.success >>= Body.whole) >>= fun bytes =>
      if (Text.trim (textOfBytes bytes)).isEmpty then .error (.noData request.request.url.render)
      else orUnreadable "object of rows" (readRows? (textOfBytes bytes)) := by
  obtain ⟨⟨⟩, -, hrequest⟩ := bind_eq_ok_iff.1 h
  cases hrequest
  rw [bind_assoc]
  rfl

/-- A query finds no data in a blank body, and nowhere else. -/
theorem noData_of_query_iff (h : Ask.query c name q = .ok request) (a : Arrival) :
    (∃ url, (request.read a).answer = .error (.noData url)) ↔
      ∃ text, a.Brings text ∧ Text.IsBlank text := by
  rw [answer_of_query h]
  rcases a.cases with hbroken | ⟨status, hrefuses⟩ | ⟨text, hbrings⟩
  · obtain ⟨detail, hdetail⟩ := hbroken.exists_transport
    rw [hdetail]
    simp [bind, Except.bind, hbroken.not_brings]
  · rw [hrefuses.success_eq]
    simp [bind, Except.bind, hrefuses.not_brings]
  · obtain ⟨bytes, hbytes, rfl⟩ := hbrings.exists_bytes
    simp only [hbrings.brings_iff, exists_eq_left, ← Text.isEmpty_trim_iff]
    rw [hbytes]
    change (∃ url, ite _ _ _ = Except.error (Failure.noData url)) ↔ _
    split_ifs with hblank
    · simp [hblank]
    · cases hrows : readRows? (textOfBytes bytes) <;> simp [hblank, orUnreadable]

end Ask

namespace StoreCall

theorem lacksData_of_ask {call : StoreCall} {request : Ask (Except Failure call.Given)}
    (h : call.ask = .ok request) (s : Scene) : lacksData (call.outcome s).1 = true ↔
      ∃ url, (request.read (s.network.exchange request.request).1).answer =
        .error (.noData url) := by
  change (failure? (call.run s).1).any Failure.isNoData = true ↔ _
  rw [run_of_ask h]
  exact any_isNoData_iff

/-- There is no data for a query exactly if it is sent and a blank body arrives. -/
theorem lacksData_query (c : Client) (name : String) (q : Query) (s : Scene) :
    lacksData ((StoreCall.query c name q).outcome s).1 = true ↔
      ∃ request text, Ask.query c name q = .ok request ∧
        (s.network.exchange request.request).1.Brings text ∧ Text.IsBlank text := by
  cases hquery : Ask.query c name q with
  | error f =>
    have hask : (StoreCall.query c name q).ask = .error f := hquery
    have hinvalid : f.isNoData = false := by
      rcases bind_eq_error_iff.1 hquery with hfault | ⟨⟨⟩, -, hsent⟩
      · unfold Query.validate at hfault
        split at hfault <;> cases hfault
        rfl
      · cases hsent
    change (failure? ((StoreCall.query c name q).run s).1).any Failure.isNoData = true ↔ _
    rw [run_of_failure hask]
    simp [failure?, hinvalid]
  | ok request =>
    have hask : (StoreCall.query c name q).ask = .ok request := hquery
    rw [lacksData_of_ask hask]
    simp only [Except.ok.injEq, exists_eq_left', exists_and_left]
    exact Ask.noData_of_query_iff hquery _

end StoreCall

/-- Over calls one after the other, the counter grows by the number of series for which there was no
data; so it grows by the number of all calls for which there was none exactly if each of these was
for a series. A query is another such call if a blank body arrives for it. -/
theorem empty_of_calls (calls : List StoreCall) (s : Scene) :
    (∃ outcomes after, calls.mapM StoreCall.outcome s = (outcomes, after) ∧
      outcomes.map Prod.fst = calls.map StoreCall.operation ∧
      after.counters.empty = s.counters.empty + outcomes.countP StoreCall.countsAsEmpty ∧
      (after.counters.empty = s.counters.empty + outcomes.countP StoreCall.lacksData ↔
        ∀ o ∈ outcomes, StoreCall.lacksData o = true → o.1 = .series)) ∧
    ∀ c name q, StoreCall.lacksData ((StoreCall.query c name q).outcome s).1 = true ↔
      ∃ request text, Ask.query c name q = .ok request ∧
        (s.network.exchange request.request).1.Brings text ∧ Text.IsBlank text := by
  have hempty := StoreCall.empty_outcomes calls s
  refine ⟨⟨(calls.mapM StoreCall.outcome s).1, (calls.mapM StoreCall.outcome s).2, rfl,
    StoreCall.operation_outcomes calls s, hempty, ?_⟩,
    fun c name q => StoreCall.lacksData_query c name q s⟩
  rw [hempty, Nat.add_left_cancel_iff, StoreCall.countP_countsAsEmpty]

/-- A query for which an empty body arrives finds no data, and that is not counted. -/
theorem empty_rows_are_not_counted :
    let q : Query := { group := ⟨1, 0⟩, fields := [⟨"cpu", "avg"⟩] }
    ∃ o after, [StoreCall.query .atLocalStore "metrics" q].mapM StoreCall.outcome (.answering "") =
        ([o], after) ∧
      o.1 = .query ∧ StoreCall.lacksData o = true ∧ after.counters.empty = 0 := by
  intro q
  have hvalid : q.validate = .ok () := by decide +kernel
  obtain ⟨request, hrequest, -⟩ := Ask.query_of_validate hvalid .atLocalStore "metrics"
  have hbrings : Arrival.Brings (.answered 200 ⟨["".toUTF8], true⟩) [] := by
    have htext : textOfBytes (Body.bytes ⟨["".toUTF8], true⟩) = [] := by decide +kernel
    exact htext ▸ .whole rfl
  let call : StoreCall := .query .atLocalStore "metrics" q
  have hlacks : StoreCall.lacksData (call.outcome (.answering "")).1 = true :=
    (StoreCall.lacksData_query _ _ _ _).2 ⟨request, [], hrequest, hbrings, nofun⟩
  have hrun : [call].mapM StoreCall.outcome (.answering "") =
      ([(call.outcome (.answering "")).1], (call.outcome (.answering "")).2) :=
    Scene.mapM_cons _ _ _ _
  refine ⟨_, _, hrun, call.operation_outcome _, hlacks, ?_⟩
  have hquery : ¬StoreCall.countsAsEmpty (call.outcome (.answering "")).1 = true := by
    simp [StoreCall.countsAsEmpty, StoreCall.operation_outcome, call, StoreCall.operation]
  rw [call.empty_outcome, if_neg hquery]
  rfl

end SeriesGateway
