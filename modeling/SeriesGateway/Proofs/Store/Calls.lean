import SeriesGateway.Proofs.Store.SeriesOutcome
import SeriesGateway.Proofs.Store.Steady

namespace SeriesGateway

/-- The same request, with a part of what is read from it. -/
def Ask.map {α β : Type} (f : α → β) (ask : Ask α) : Ask β where
  operation := ask.operation
  request := ask.request
  read a :=
    let reading := ask.read a
    { answer := f reading.answer
      failed := reading.failed
      missing := reading.missing
      empty := reading.empty }

/-- An operation of the store with all that it is given. -/
inductive StoreCall where
  | list (c : Client)
  | info (c : Client) (name : String)
  | compact (c : Client) (name : String)
  | dump (c : Client) (name : String) (sink : Sink) (earliest latest : Option String)
  | query (c : Client) (name : String) (q : Query)
  | series (metric : Metric) (w : Window)

namespace StoreCall

/-- The operation under which a call is counted. -/
def operation : StoreCall → Operation
  | .list _ => .list
  | .info _ _ => .info
  | .compact _ _ => .compact
  | .dump _ _ _ _ _ => .dump
  | .query _ _ _ => .query
  | .series _ _ => .series

/-- What a call gives if it succeeds. -/
abbrev Given : StoreCall → Type
  | .list _ => List String
  | .info _ _ => DatabaseInfo
  | .compact _ _ => Unit
  | .dump _ _ _ _ _ => Nat
  | .query _ _ _ => Rows
  | .series _ _ => Series

/-- The one request of a call, or why there is none. -/
def ask : (call : StoreCall) → Except Failure (Ask (Except Failure call.Given))
  | .list c => .ok (.list c)
  | .info c name => .ok (.info c name)
  | .compact c name => .ok (.compact c name)
  | .dump c name sink earliest latest => (Ask.dump c name sink earliest latest).map (.map Prod.fst)
  | .query c name q => Ask.query c name q
  | .series metric w => Ask.series metric w

def run : (call : StoreCall) → Act (Except Failure call.Given)
  | .list c => (c.list (m := Act)).run
  | .info c name => (c.info (m := Act) name).run
  | .compact c name => (c.compact (m := Act) name).run
  | .dump c name sink earliest latest => Prod.fst <$> c.dump (m := Act) name sink earliest latest
  | .query c name q => (c.query (m := Act) name q).run
  | .series metric w => (metric.fetch (m := Act) w).run

/-- What a call attempts: its request, if there is one. -/
def attempts (call : StoreCall) : List (Operation × Request) :=
  match call.ask with
  | .ok ask => [(call.operation, ask.request)]
  | .error _ => []

/-- The series that a call returns. -/
def series? : (call : StoreCall) → Except Failure call.Given → Option Series
  | .series _ _, .ok values => some values
  | _, _ => none

theorem run_eq (call : StoreCall) (s : Scene) :
    call.run s =
      match call.ask with
      | .ok request => s.perform request
      | .error f => (.error f, s) := by
  cases call with
  | list c => rfl
  | info c name => rfl
  | compact c name => rfl
  | dump c name sink earliest latest =>
    rw [run, ask, Client.dump]
    cases Ask.dump c name sink earliest latest <;> rfl
  | query c name q =>
    rw [run, ask, Client.query]
    cases Ask.query c name q <;> rfl
  | series metric w =>
    rw [run, ask, Metric.fetch]
    cases Ask.series metric w <;> rfl

section

variable {call : StoreCall} {request : Ask (Except Failure call.Given)}

theorem run_of_ask (h : call.ask = .ok request) (s : Scene) : call.run s = s.perform request := by
  rw [run_eq, h]

/-- A call without a request leaves everything as it is. -/
theorem run_of_failure {f : Failure} (h : call.ask = .error f) (s : Scene) :
    call.run s = (.error f, s) := by
  rw [run_eq, h]

end

end StoreCall

/-- Failures that show in a body which has arrived whole. -/
def Failure.isOfBody : Failure → Bool
  | .unreadable _ | .noData _ => true
  | _ => false

def Failure.isNoData : Failure → Bool
  | .noData _ => true
  | _ => false

/-- Whether a failure is counted as one. The body of a series is read when the request for it is
over, and what is wrong with that body is not noticed. -/
def Operation.notices (op : Operation) (f : Failure) : Bool :=
  !(op == .series && f.isOfBody)

def failure? {α : Type} : Except Failure α → Option Failure
  | .ok _ => none
  | .error f => some f

namespace StoreCall

/-- What is counted for a reading is told by the outcome of the call. -/
structure IsTold (call : StoreCall) (r : Reading (Except Failure call.Given)) : Prop where
  failed : r.failed = (failure? r.answer).any call.operation.notices
  missing : r.missing = (call.series? r.answer).elim 0 (List.countP Binary64.isNan)
  empty : r.empty =
    if call.operation = .series ∧ (failure? r.answer).any Failure.isNoData = true then 1 else 0

theorem isTold_ofResult (call : StoreCall) (h : call.operation ≠ .series)
    (result : Except Failure call.Given) : call.IsTold (.ofResult result) := by
  have hnotices (f : Failure) : call.operation.notices f = true := by
    simp [Operation.notices, h]
  refine ⟨?_, ?_, (if_neg fun hseries => h hseries.1).symm⟩
  · cases result with
    | ok given => rfl
    | error f => exact (hnotices f).symm
  · cases call <;> first | rfl | exact absurd rfl h

theorem isTold_series {metric : Metric} {w : Window} {request : Ask (Except Failure Series)}
    (h : Ask.series metric w = .ok request) (a : Arrival) :
    (StoreCall.series metric w).IsTold (request.read a) := by
  obtain ⟨u, -, hu⟩ := bind_eq_ok_iff.1 h
  cases hu
  dsimp only
  rcases a.cases with hbroken | ⟨s, hrefuses⟩ | ⟨text, hbrings⟩
  · obtain ⟨detail, hdetail⟩ := hbroken.exists_transport
    rw [hdetail]
    exact ⟨rfl, rfl, rfl⟩
  · rw [hrefuses.success_eq]
    exact ⟨rfl, rfl, rfl⟩
  · obtain ⟨bytes, hbytes, -⟩ := hbrings.exists_bytes
    rw [hbytes]
    dsimp only
    cases hbody : readSeriesBody (textOfBytes bytes) with
    | error f =>
      obtain ⟨⟨⟩, -, rfl⟩ := mapError_eq_error_iff.1 hbody
      exact ⟨rfl, rfl, rfl⟩
    | ok data => cases data <;> exact ⟨rfl, rfl, rfl⟩

/-- A request is counted under the operation of its call, by the outcome. -/
theorem spec_of_ask {call : StoreCall} {request : Ask (Except Failure call.Given)}
    (h : call.ask = .ok request) :
    request.operation = call.operation ∧ ∀ a, call.IsTold (request.read a) := by
  cases call with
  | list c =>
    cases h
    exact ⟨rfl, fun _ => isTold_ofResult (.list c) nofun _⟩
  | info c name =>
    cases h
    exact ⟨rfl, fun _ => isTold_ofResult (.info c name) nofun _⟩
  | compact c name =>
    cases h
    exact ⟨rfl, fun _ => isTold_ofResult (.compact c name) nofun _⟩
  | dump c name sink earliest latest =>
    cases hdump : Ask.dump c name sink earliest latest with
    | error f =>
      rw [ask, hdump] at h
      cases h
    | ok dump =>
      rw [ask, hdump] at h
      cases h
      obtain ⟨first, -, hfirst⟩ := bind_eq_ok_iff.1 hdump
      obtain ⟨last, -, hlast⟩ := bind_eq_ok_iff.1 hfirst
      cases hlast
      exact ⟨rfl, fun _ => isTold_ofResult (.dump c name sink earliest latest) nofun _⟩
  | query c name q =>
    obtain ⟨⟨⟩, -, hquery⟩ := bind_eq_ok_iff.1 h
    cases hquery
    exact ⟨rfl, fun _ => isTold_ofResult (.query c name q) nofun _⟩
  | series metric w =>
    have hread := isTold_series h
    obtain ⟨u, -, hseries⟩ := bind_eq_ok_iff.1 h
    cases hseries
    exact ⟨rfl, hread⟩

theorem attempts_of_ask {call : StoreCall} {request : Ask (Except Failure call.Given)}
    (h : call.ask = .ok request) : call.attempts = [(call.operation, request.request)] := by
  rw [attempts, h]

theorem attempts_of_failure {call : StoreCall} {f : Failure} (h : call.ask = .error f) :
    call.attempts = [] := by
  rw [attempts, h]

/-- A series that cannot be asked for is not one without data. -/
theorem isNoData_of_failure {call : StoreCall} {f : Failure} (h : call.ask = .error f)
    (hseries : call.operation = .series) : f.isNoData = false := by
  cases call with
  | series metric w =>
    rcases bind_eq_error_iff.1 h with hurl | ⟨u, -, hu⟩
    · obtain ⟨detail, rfl⟩ := Metric.isInvalidUrl_of_url hurl
      rfl
    · cases hu
  | _ => cases hseries

/-- What a call leaves behind. Its requests have gone over the network and are counted under its
operation; the rest is counted by the outcome. -/
structure Leaves (call : StoreCall) (s : Scene) (r : Except Failure call.Given) (after : Scene) :
    Prop where
  attempts : after.attempts = s.attempts ++ call.attempts
  network : after.network = s.network.afterAll (call.attempts.map Prod.snd)
  requests : ∀ op, after.counters.requests op =
    s.counters.requests op + call.attempts.countP (·.1 = op)
  timed : ∀ op, after.counters.timed op = s.counters.timed op + call.attempts.countP (·.1 = op)
  failures : ∀ op, after.counters.failures op = s.counters.failures op +
    if (failure? r).any call.operation.notices then call.attempts.countP (·.1 = op) else 0
  missing : after.counters.missing =
    s.counters.missing + (call.series? r).elim 0 (List.countP Binary64.isNan)
  empty : after.counters.empty = s.counters.empty +
    if call.operation = .series ∧ (failure? r).any Failure.isNoData = true then 1 else 0

theorem leaves_run_of_failure {call : StoreCall} {f : Failure} (h : call.ask = .error f)
    (s : Scene) : call.Leaves s (.error f) s := by
  have hnone := attempts_of_failure h
  have hseries : call.series? (.error f) = none := by cases call <;> rfl
  refine ⟨?_, ?_, fun op => ?_, fun op => ?_, fun op => ?_, ?_, ?_⟩
  · rw [hnone, List.append_nil]
  · rw [hnone]
    rfl
  · rw [hnone, List.countP_nil, Nat.add_zero]
  · rw [hnone, List.countP_nil, Nat.add_zero]
  · rw [hnone, List.countP_nil, ite_self, Nat.add_zero]
  · rw [hseries]
    rfl
  · rw [if_neg, Nat.add_zero]
    rintro ⟨hoperation, hdata⟩
    rw [failure?, Option.any_some, isNoData_of_failure h hoperation] at hdata
    cases hdata

theorem leaves_run_of_ask {call : StoreCall} {request : Ask (Except Failure call.Given)}
    (h : call.ask = .ok request) (s : Scene) :
    call.Leaves s (s.perform request).1 (s.perform request).2 := by
  obtain ⟨hoperation, htold⟩ := spec_of_ask h
  have hread := htold (s.network.exchange request.request).1
  have hone := attempts_of_ask h
  have hcount (op : Operation) :
      call.attempts.countP (·.1 = op) = if op = request.operation then 1 else 0 := by
    simp [hone, hoperation, eq_comm]
  have hcounters : (s.perform request).2.counters = s.counters.record request.operation
      (request.read (s.network.exchange request.request).1) 0 := rfl
  refine ⟨?_, ?_, fun op => ?_, fun op => ?_, fun op => ?_, ?_, ?_⟩
  · rw [hone, ← hoperation]
    rfl
  · rw [hone]
    rfl
  · simp only [hcount, hcounters, Counters.record, Counters.update]
    split_ifs <;> rfl
  · simp only [hcount, hcounters, Counters.timed, Counters.record, Counters.update]
    split_ifs <;> rfl
  · simp only [hcount, hcounters, Counters.record, Counters.update, hread.failed]
    split_ifs <;> first | rfl | contradiction
  · exact congrArg (s.counters.missing + ·) hread.missing
  · exact congrArg (s.counters.empty + ·) hread.empty

theorem leaves_run (call : StoreCall) (s : Scene) :
    call.Leaves s (call.run s).1 (call.run s).2 := by
  cases hask : call.ask with
  | error f =>
    rw [run_of_failure hask]
    exact leaves_run_of_failure hask s
  | ok request =>
    rw [run_of_ask hask]
    exact leaves_run_of_ask hask s

end StoreCall

def Scene.answering (body : String) : Scene where
  network := { others := fun _ => some (.answered 200 ⟨[body.toUTF8], true⟩) }

end SeriesGateway
