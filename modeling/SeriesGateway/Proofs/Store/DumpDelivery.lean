import SeriesGateway.Proofs.Store.DumpBody
import SeriesGateway.Proofs.Store.DumpRequest
import SeriesGateway.Proofs.Store.Naming

namespace SeriesGateway

namespace Sink

/-- What a dump makes of what arrives for its request: a number of bytes or a failure, and the sink
behind it. -/
structure Delivers (s : Sink) (a : Arrival) (result : Except Failure Nat) (filled : Sink) :
    Prop where
  ok_iff : ∀ written, result = .ok written ↔ ∃ body, a = .answered 200 body ∧
    body.complete = true ∧ s.Accepts body.chunks ∧ written = body.bytes.size
  whole : ∀ written body, result = .ok written → a = .answered 200 body →
    filled.received = s.received ++ body.bytes
  part : ∀ f body, result = .error f → a = .answered 200 body → s.HasBegun body.bytes filled
  untouched : (∀ body, a ≠ .answered 200 body) → filled = s

theorem delivers_drain (s : Sink) (body : Body) :
    s.Delivers (.answered 200 body) (s.drain body).1 (s.drain body).2 := by
  by_cases haccepts : s.Accepts body.chunks
  · rw [drain_of_accepts haccepts]
    refine ⟨fun written => ?_, ?_, ?_, fun h => absurd rfl (h body)⟩
    · rw [map_eq_ok_iff]
      constructor
      · rintro ⟨bytes, hwhole, rfl⟩
        rw [Body.whole] at hwhole
        split_ifs at hwhole with hcomplete
        cases hwhole
        exact ⟨body, rfl, hcomplete, haccepts, rfl⟩
      · rintro ⟨_, ⟨⟩, hcomplete, -, rfl⟩
        exact ⟨body.bytes, Body.whole_of_complete hcomplete, rfl⟩
    · rintro written _ - ⟨⟩
      exact received_behind s body.chunks
    · rintro f _ - ⟨⟩
      exact hasBegun_behind s body.chunks
  · obtain ⟨reason, filled, hdrain, hbegun⟩ := drain_of_not_accepts haccepts
    rw [hdrain]
    refine ⟨fun written => ⟨?_, ?_⟩, ?_, ?_, fun h => absurd rfl (h body)⟩
    · rintro ⟨⟩
    · rintro ⟨_, ⟨⟩, -, htaken, -⟩
      exact absurd htaken haccepts
    · rintro written _ ⟨⟩
    · rintro f _ - ⟨⟩
      exact hbegun

/-- Nothing is written unless a success arrives. -/
theorem delivers_of_failure {a : Arrival} {f : Failure} (h : a.success = .error f) (s : Sink) :
    s.Delivers a (.error f) s := by
  have hnone (body : Body) : a ≠ .answered 200 body := by
    rintro rfl
    cases h
  refine ⟨fun written => ⟨nofun, ?_⟩, nofun, fun _ body _ hbody => absurd hbody (hnone body),
    fun _ => rfl⟩
  rintro ⟨body, hbody, -⟩
  exact absurd hbody (hnone body)

theorem delivers_of_dump {c : Client} {name : String} {s : Sink} {earliest latest : Option String}
    {ask : Ask (Except Failure Nat × Sink)} (h : Ask.dump c name s earliest latest = .ok ask)
    (a : Arrival) : s.Delivers a (ask.read a).answer.1 (ask.read a).answer.2 := by
  rw [Ask.answer_of_dump h]
  cases hsuccess : a.success with
  | error f => exact delivers_of_failure hsuccess s
  | ok body =>
    obtain rfl : a = .answered 200 body := by
      unfold Arrival.success at hsuccess
      split at hsuccess <;> cases hsuccess
      rfl
    exact delivers_drain s body

end Sink

namespace Client

/-- A dump with a bound that cannot be sent fails before it requests or writes anything. Any other
sends one request, with its bounds in nanoseconds behind the URL of the database; it succeeds
exactly if a success arrives whole and the sink accepts all of it, and has then written that body,
however it came. When it fails, the sink has received a beginning of the body of a success, and of
nothing else. A sink that only has a limit accepts what does not go beyond it. -/
theorem dump_delivers_body (c : Client) (name : String) (sink : Sink)
    (earliest latest : Option String) :
    let unsendable := Ask.IsUnsendable earliest ∨ Ask.IsUnsendable latest
    let url := c.endpointUrl name "_dump"
    (unsendable → ∃ detail, ∀ s,
      c.dump (m := Act) name sink earliest latest s = ((.error (.timestamp detail), sink), s)) ∧
    (¬unsendable → ∃ first last asked,
      Ask.SendsBound "from" earliest first ∧ Ask.SendsBound "to" latest last ∧
      asked = (if (first ++ last).isEmpty then url else url.withPairs (first ++ last)) ∧
      asked.pairs = url.pairs ++ (first ++ last) ∧
      ∀ s, ∃ result filled after,
        c.dump (m := Act) name sink earliest latest s = ((result, filled), after) ∧
        after.attempts = s.attempts ++ [(.dump, ⟨.get, asked⟩)] ∧
        sink.Delivers (s.network.exchange ⟨.get, asked⟩).1 result filled) ∧
    (sink.IsPlain → ∀ body : Body, sink.Accepts body.chunks ↔
      ∀ limit ∈ sink.limit, sink.received.size + body.bytes.size ≤ limit) := by
  intro unsendable url
  refine ⟨fun hunsendable => ?_, fun hsendable => ?_, fun hplain body =>
    hplain.accepts_iff body.chunks⟩
  · obtain ⟨hsendable, -⟩ | ⟨-, detail, hask⟩ := Ask.dump_asks_or_fails earliest latest
    · exact absurd hunsendable hsendable
    · refine ⟨detail, fun s => ?_⟩
      rw [dump, hask]
      rfl
  · obtain ⟨-, first, last, hfirst, hlast, hearliest, hlatest⟩ | ⟨hunsendable, -⟩ :=
      Ask.dump_asks_or_fails earliest latest
    · obtain ⟨ask, hask, hoperation, hrequest, hpairs⟩ :=
        Ask.request_of_bounds hearliest hlatest c name sink
      rw [hrequest] at hpairs
      refine ⟨first, last, _, hfirst, hlast, rfl, hpairs, fun s =>
        ⟨(s.perform ask).1.1, (s.perform ask).1.2, (s.perform ask).2, ?_, ?_, ?_⟩⟩
      · rw [dump, hask]
        rfl
      · rw [← hoperation, ← hrequest]
        rfl
      · rw [← hrequest]
        exact Sink.delivers_of_dump hask _
    · exact absurd hunsendable hsendable

/-- Three bytes in two pieces fill a sink of three bytes. -/
theorem dump_delivers_body_in_pieces :
    let sink : Sink := { limit := some 3 }
    let body : Body := ⟨[⟨#[1, 2]⟩, ⟨#[3]⟩], true⟩
    let s : Scene := { network := { others := fun _ => some (.answered 200 body) } }
    (∃ detail, ∀ s, atLocalStore.dump (m := Act) "metrics" sink none (some "whenever") s =
      ((.error (.timestamp detail), sink), s)) ∧
    ∃ filled after asked, atLocalStore.dump (m := Act) "metrics" sink
        (some "2012-08-28T21:24:35.374Z") (some "") s = ((.ok 3, filled), after) ∧
      filled.received = ⟨#[1, 2, 3]⟩ ∧ after.attempts = [(.dump, ⟨.get, asked⟩)] ∧
      asked.pairs = [("from", "1346189075374000000")] := by
  intro sink body s
  have hwhenever : readInstant "whenever" = .error (.timestamp "whenever") := by decide +kernel
  have hread : readInstant "2012-08-28T21:24:35.374Z" = .ok ⟨1346189075, 374000000⟩ := rfl
  have hunsendable : Ask.IsUnsendable (some "whenever") :=
    (Ask.isUnsendable_some_iff (by decide)).2 fun t ht => by rw [hwhenever] at ht; cases ht
  have hsendable : ¬(Ask.IsUnsendable (some "2012-08-28T21:24:35.374Z") ∨
      Ask.IsUnsendable (some "")) := by
    refine not_or.2 ⟨fun h => ?_, Ask.not_isUnsendable_empty⟩
    have hnanos := (Ask.isUnsendable_some_iff (by decide)).1 h _ hread
    revert hnanos
    decide
  refine ⟨(dump_delivers_body atLocalStore "metrics" sink none (some "whenever")).1
    (Or.inr hunsendable), ?_⟩
  obtain ⟨-, hsent, hlimit⟩ := dump_delivers_body atLocalStore "metrics" sink
    (some "2012-08-28T21:24:35.374Z") (some "")
  obtain ⟨first, last, asked, hfirst, hlast, -, hpairs, hdump⟩ := hsent hsendable
  obtain ⟨result, filled, after, hrun, hattempts, hdelivers⟩ := hdump s
  have haccepts := (hlimit (Sink.isPlain_of_limit _) body).2 (by decide)
  obtain rfl : result = .ok 3 := (hdelivers.ok_iff 3).2 ⟨_, rfl, rfl, haccepts, rfl⟩
  refine ⟨filled, after, asked, hrun, hdelivers.whole 3 _ rfl rfl, hattempts, ?_⟩
  rw [hpairs, hfirst.unique (.given (by decide) hread), hlast.unique .empty]
  decide +kernel

end Client

end SeriesGateway
