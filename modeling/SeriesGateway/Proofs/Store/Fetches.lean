import SeriesGateway.Proofs.Jobs
import SeriesGateway.Proofs.Store.SeriesOutcome
import SeriesGateway.Proofs.Store.Steady

namespace SeriesGateway.Metric

variable {metric : Metric} {start stop step : Int64} {w : Window} {s t : Scene}
  {reply : Request → Arrival}

/-- What comes of fetching a metric if the store has these replies. -/
def outcome (reply : Request → Arrival) (w : Window) (metric : Metric) : Except Failure Series :=
  match Ask.series metric w with
  | .ok ask => (ask.read (reply ask.request)).answer
  | .error f => .error f

theorem fetch_of_answers (h : s.network.Answers reply) (metric : Metric) (w : Window) :
    ((metric.fetch (m := Act) w).run s).1 = metric.outcome reply w ∧
      ((metric.fetch (m := Act) w).run s).2.network.Answers reply := by
  cases hask : Ask.series metric w with
  | ok ask =>
    have hrun : (metric.fetch (m := Act) w).run s = s.perform ask := by
      rw [fetch_of_series hask]
      rfl
    rw [hrun, outcome, hask]
    exact ⟨Scene.answer_perform h ask, Scene.answers_perform h ask⟩
  | error f =>
    have hrun : (metric.fetch (m := Act) w).run s = (.error f, s) := by
      rw [fetch, hask]
      rfl
    rw [hrun, outcome, hask]
    exact ⟨rfl, h⟩

/-- Metrics that are fetched side by side do not disturb each other. -/
theorem fetchAll_of_answers (h : s.network.Answers reply) (metrics : List Metric) (w : Window) :
    (fetchAll (m := Act) metrics w s).1 = metrics.map (outcome reply w) ∧
      (fetchAll (m := Act) metrics w s).2.network.Answers reply := by
  have hstep (metric : Metric) (u : Scene) (hu : u.network.Answers reply) :
      ((metric.fetch (m := Act) w).run u).1 = metric.outcome reply w ∧
        ((metric.fetch (m := Act) w).run u).2.network.Answers reply :=
    fetch_of_answers hu metric w
  exact Scene.all_holds hstep metrics h

/-- A callback that keeps what it is called with. -/
def keep (result : Except Failure Series) : StateT (List (Except Failure Series)) Act Unit :=
  modify (· ++ [result])

/-- A poll from a scene calls its callback once, with a result, in the scene that the poll has left
by then. -/
structure Polls (metric : Metric) (start stop step : Int64) (s : Scene)
    (result : Except Failure Series) (after : Scene) : Prop where
  once : ∀ calls, (metric.poll start stop step keep).run calls s =
    (((), calls ++ [result]), after)
  handed : ∀ callback : Except Failure Series → Act Unit,
    metric.poll start stop step callback s = callback result after

/-- Without a window the failure is handed on, and nothing is sent. -/
theorem polls_of_failure {f : Failure} (h : makeWindow start stop step = .error f)
    (metric : Metric) (s : Scene) : metric.Polls start stop step s (.error f) s := by
  constructor
  · intro calls
    rw [poll, h]
    rfl
  · intro callback
    rw [poll, h]

theorem polls_of_window (h : makeWindow start stop step = .ok w) (metric : Metric) (s : Scene) :
    metric.Polls start stop step s ((metric.fetch (m := Act) w).run s).1
      ((metric.fetch (m := Act) w).run s).2 := by
  constructor
  · intro calls
    rw [poll, h]
    dsimp only
    rw [fetch, fetch]
    cases Ask.series metric w <;> rfl
  · intro callback
    rw [poll, h]
    rfl

/-- As long as the replies of the store do not change, all metrics fetched at once have the outcomes
that each of them has when it is fetched alone, at whatever time, in the order of the metrics; and
so has a metric that is taken as a source of samples, or polled. Polling calls its callback once,
also over numbers that make no window, and for these nothing is sent. -/
theorem fetches_agree (hs : s.network.Answers reply) (ht : t.network.Answers reply) :
    (∀ (metrics : List Metric) (w : Window),
      (fetchAll (m := Act) metrics w s).1 =
        metrics.map fun metric => ((metric.fetch (m := Act) w).run t).1) ∧
    (∀ (metric : Metric) (w : Window),
      ((SampleSource.fetch metric w : ExceptT Failure Act Series).run s).1 =
        ((metric.fetch (m := Act) w).run t).1) ∧
    ∀ (metric : Metric) (start stop step : Int64),
      (∀ f, makeWindow start stop step = .error f →
        (∃ detail, f = .invalidWindow detail) ∧ metric.Polls start stop step s (.error f) s) ∧
      ∀ w, makeWindow start stop step = .ok w →
        ∃ after, metric.Polls start stop step s ((metric.fetch (m := Act) w).run t).1 after := by
  have hsame (metric : Metric) (w : Window) :
      ((metric.fetch (m := Act) w).run s).1 = ((metric.fetch (m := Act) w).run t).1 :=
    (fetch_of_answers hs metric w).1.trans (fetch_of_answers ht metric w).1.symm
  refine ⟨fun metrics w => ?_, hsame, fun metric start stop step => ⟨fun f hf => ?_, ?_⟩⟩
  · rw [(fetchAll_of_answers hs metrics w).1]
    apply List.map_congr_left
    intro metric _
    exact (fetch_of_answers ht metric w).1.symm
  · exact ⟨isInvalidWindow_of_makeWindow hf, polls_of_failure hf metric s⟩
  · intro w hw
    rw [← hsame metric w]
    exact ⟨_, polls_of_window hw metric s⟩

/-- A store that has samples for one pointer only: whichever of two replies arrives first, the
metric with that pointer gets its samples and the other one the refusal. -/
theorem fetches_agree_of_two_pointers :
    let row : Json.Value := .object [("0", .array [.integer 7])]
    let reply : Request → Arrival := fun r =>
      if r.url.pairs.lookup "ptr" = some "/usage" then .answered 200 ⟨[row.render.toUTF8], true⟩
      else .answered 500 ⟨[], true⟩
    let network : Network := { others := fun r => some (reply r) }
    let other : Metric := { sample with pointer := "/idle" }
    let w : Window := ⟨0, 2, 1, by decide⟩
    (∀ choices, (fetchAll (m := Act) [other, sample] w { network, choices }).1 =
      [.error (.status 500), .ok [.ofInt 7, .nan]]) ∧
    (∃ after, sample.Polls 0 2 1 { network } (.ok [.ofInt 7, .nan]) after) ∧
    ∃ detail, sample.Polls 0 2 0 { network } (.error (.invalidWindow detail)) { network } := by
  intro row reply network other w
  have hanswers : network.Answers reply := Network.answers_others reply
  have hsample : ((sample.fetch (m := Act) w).run { network }).1 = .ok [.ofInt 7, .nan] := by
    decide +kernel
  have hother : ((other.fetch (m := Act) w).run { network }).1 = .error (.status 500) := by
    decide +kernel
  have hagree (choices : List Nat) := fetches_agree (s := { network, choices }) (t := { network })
    hanswers hanswers
  obtain ⟨-, -, hpoll⟩ := hagree []
  refine ⟨fun choices => ?_, ?_, ?_⟩
  · rw [(hagree choices).1 [other, sample] w]
    simp only [List.map_cons, List.map_nil, hsample, hother]
  · rw [← hsample]
    exact (hpoll sample 0 2 1).2 w rfl
  · obtain ⟨f, hf⟩ : ∃ f, makeWindow 0 2 0 = .error f := ⟨_, rfl⟩
    obtain ⟨⟨detail, rfl⟩, hpolls⟩ := (hpoll sample 0 2 0).1 f hf
    exact ⟨detail, hpolls⟩

end SeriesGateway.Metric
