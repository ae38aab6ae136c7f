import SeriesGateway.Maintenance
import SeriesGateway.Proofs.Failure
import SeriesGateway.Proofs.Store.Sink
import SeriesGateway.Proofs.Store.Steady

namespace SeriesGateway

namespace Sink

theorem drain_of_unlimited (body : Body) :
    drain {} body = (body.whole.map ByteArray.size, { chunks := body.chunks }) := by
  have haccepts : Accepts {} body.chunks := ((isPlain_of_limit none).accepts_iff _).2 nofun
  rw [drain_of_accepts haccepts]
  rfl

end Sink

namespace Ask

variable {c : Client} {name : String} {sink : Sink} {earliest latest : Option String}
  {ask : Ask (Except Failure Nat × Sink)}

theorem answer_of_dump (h : dump c name sink earliest latest = .ok ask) (a : Arrival) :
    (ask.read a).answer =
      match a.success with
      | .ok body => sink.drain body
      | .error f => (.error f, sink) := by
  obtain ⟨first, -, h⟩ := bind_eq_ok_iff.1 h
  obtain ⟨last, -, h⟩ := bind_eq_ok_iff.1 h
  cases h
  rfl

end Ask

namespace Client

variable {c : Client} {o : DumpOptions} {reply : Request → Arrival} {name : String} {s : Scene}

/-- The body that answers the request for a dump of a database. -/
def dumpBody (c : Client) (o : DumpOptions) (reply : Request → Arrival) (name : String) :
    Except Failure ByteArray := do
  let ask ← Ask.dump c name {} o.earliest o.latest
  (← (reply ask.request).success).whole

/-- A dump that succeeds has written the body. -/
theorem dump_of_answers {written : Nat} {sink : Sink} {after : Scene}
    (hdump : c.dump (m := Act) name {} o.earliest o.latest s = ((.ok written, sink), after))
    (h : s.network.Answers reply) :
    ∃ bytes, c.dumpBody o reply name = .ok bytes ∧ written = bytes.size ∧ sink.received = bytes ∧
      after.network.Answers reply := by
  unfold dump at hdump
  cases hask : Ask.dump c name {} o.earliest o.latest with
  | error f =>
    rw [hask] at hdump
    cases hdump
  | ok ask =>
    rw [hask] at hdump
    have hanswer := (Scene.answer_perform h ask).trans (Ask.answer_of_dump hask _)
    have hnetwork := Scene.answers_perform h ask
    have hperform : s.perform ask = ((.ok written, sink), after) := hdump
    rw [hperform] at hanswer hnetwork
    have hbody : c.dumpBody o reply name =
        (reply ask.request).success >>= Body.whole := by
      rw [dumpBody, hask]
      rfl
    rw [hbody]
    cases hsuccess : (reply ask.request).success with
    | error f =>
      rw [hsuccess] at hanswer
      cases hanswer
    | ok body =>
      have hdrain : (Except.ok written, sink) =
          (body.whole.map ByteArray.size, ({ chunks := body.chunks } : Sink)) := by
        rw [hsuccess] at hanswer
        exact hanswer.trans (Sink.drain_of_unlimited body)
      rw [Body.whole] at hdrain
      split_ifs at hdrain with hcomplete
      · cases hdrain
        refine ⟨body.bytes, ?_, rfl, rfl, hnetwork⟩
        change body.whole = _
        rw [Body.whole, if_pos hcomplete]
      · cases hdrain

end Client

end SeriesGateway
