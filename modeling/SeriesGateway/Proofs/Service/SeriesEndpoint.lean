import SeriesGateway.Proofs.Service.OneStore
import SeriesGateway.Proofs.Service.SeriesTarget
import SeriesGateway.Proofs.Service.SeriesText
import SeriesGateway.Proofs.Store.SeriesOutcome
import SeriesGateway.Service.Handler

namespace SeriesGateway

/-- The answer to the outcome of a fetch. -/
def Answer.ofFetch (label : String) (w : Window) : Except Failure Series → Answer
  | .ok values =>
    .json 200 (SeriesAnswer.text ⟨label, w.start, w.stop, w.step, values⟩)
  | .error f => .ofFailure f

namespace Service

/-- The fetch that a request for a series asks for, or its answer if it asks for none. -/
def prepare (s : Service) (segment : String) (pairs : List (String × String)) :
    Except Answer (Metric × Window) := do
  let name ← (readName segment).mapError (Answer.plain 400)
  let request ← ((SeriesRequest.read pairs).mapError
    ("Failed to deserialize query string: " ++ ·)).mapError (Answer.plain 400)
  let w ← request.window.mapError Answer.ofFailure
  return (s.source.metric name request.pointer request.reducer request.label, w)

section

variable {m : Type → Type} [Monad m]

theorem settled_throw [LawfulMonad m] (a : Answer) :
    settled (throw a : ExceptT Answer m Answer) = pure a :=
  pure_bind _ _

/-- Parts that need no store leave the order of what follows as it is. -/
theorem settled_liftExcept_bind [LawfulMonad m] {α : Type} (part : Except Answer α)
    (next : α → ExceptT Answer m Answer) :
    settled (liftExcept part >>= next) =
      match part with
      | .ok a => settled (next a)
      | .error a => pure a := by
  cases part with
  | ok a => rw [show (liftExcept (.ok a) : ExceptT Answer m α) = pure a from rfl, pure_bind]
  | error a =>
    have hthrow : (liftExcept (.error a) >>= next : ExceptT Answer m Answer) = throw a :=
      ExceptT.ext (by simp [liftExcept])
    rw [hthrow, settled_throw]

theorem required_eq {α : Type} (part : Except String α) :
    required (m := m) part = liftExcept (part.mapError (Answer.plain 400)) :=
  rfl

theorem asked_liftExcept [LawfulMonad m] {α : Type} (part : Except Failure α) :
    asked (m := m) (liftExcept part) = liftExcept (part.mapError Answer.ofFailure) := by
  cases part with
  | ok a => exact map_pure (f := m) _ _
  | error f => exact map_pure (f := m) _ _

/-- The outcome of an operation becomes the answer, whichever it is. -/
theorem settled_asked_bind [LawfulMonad m] {α : Type} (operation : ExceptT Failure m α)
    (next : α → Answer) :
    settled (do let a ← asked operation; return next a) =
      (fun | .ok a => next a | .error f => .ofFailure f) <$> operation.run := by
  simp only [settled, asked, ExceptT.adapt, ExceptT.run_bind, ExceptT.run_mk, map_eq_pure_bind,
    bind_assoc, pure_bind]
  refine bind_congr fun r => ?_
  cases r <;> simp [Except.mapError]

theorem settled_series [LawfulMonad m] [StoreLink m] (s : Service) (segment : String)
    (pairs : List (String × String)) :
    settled (s.series (m := m) segment pairs) =
      match s.prepare segment pairs with
      | .error a => pure a
      | .ok (metric, w) => Answer.ofFetch metric.label w <$> (metric.fetch w).run := by
  rw [prepare, series]
  simp only [required_eq, asked_liftExcept, settled_liftExcept_bind, settled_asked_bind]
  cases (readName segment).mapError (Answer.plain 400) with
  | error a => rfl
  | ok name =>
    simp only [bind, Except.bind]
    cases ((SeriesRequest.read pairs).mapError
      ("Failed to deserialize query string: " ++ ·)).mapError (Answer.plain 400) with
    | error a => rfl
    | ok request =>
      dsimp only
      cases request.window.mapError Answer.ofFailure with
      | error a => rfl
      | ok w =>
        refine congrArg (fun next => next <$> _) (funext fun r => ?_)
        cases r <;> rfl

/-- A request for a series is answered at once, or by what the store is asked for. -/
theorem handle_series [LawfulMonad m] [StoreLink m] (s : Service) {t : Target} {segment : String}
    (hsegments : t.segments = ["", "series", segment]) (hne : segment ≠ "") :
    s.handle (m := m) "GET" t =
      match s.prepare segment t.pairs with
      | .error a => pure a
      | .ok (metric, w) => Answer.ofFetch metric.label w <$> (metric.fetch w).run := by
  have hresource : Resource.ofSegments? t.segments = some (.series segment) := by
    rw [hsegments]
    simp [Resource.ofSegments?, Resource.named?, hne]
  have hallows : (Resource.series segment).allows "GET" = true := rfl
  rw [handle, if_neg (by decide)]
  simp only [hresource, hallows, respond, settled_series, Bool.not_true, Bool.false_eq_true,
    if_false]
  simp

end

end Service

namespace Service

variable {s : Service} {t : Target} {database pointer reducer : String} {label : Option String}
  {start stop step : Int64}

/-- What is prepared for a request is the metric that it names, over the window of its numbers. -/
theorem prepare_of_asksSeries {segment : String} (hname : readName segment = .ok database)
    (h : t.AsksSeries database pointer reducer label start stop step) :
    s.prepare segment t.pairs =
      ((makeWindow start stop step).map fun w =>
        (s.source.metric database pointer reducer label, w)).mapError Answer.ofFailure := by
  obtain ⟨since, hsince, hstart⟩ := h.start
  obtain ⟨till, htill, hstop⟩ := h.stop
  obtain ⟨distance, hdistance, hstep⟩ := h.step
  have hread : SeriesRequest.read t.pairs = .ok ⟨pointer, reducer, since, till, step, label⟩ := by
    rw [SeriesRequest.read, SeriesRequest.value_of_value? h.pointer,
      SeriesRequest.value_of_value? h.reducer, SeriesRequest.value_of_value? hsince,
      SeriesRequest.value_of_value? htill, SeriesRequest.value_of_value? hdistance, h.label]
    simp only [bind, Except.bind, SeriesRequest.step?_of_int64? hstep]
    rfl
  have hwindow : SeriesRequest.window ⟨pointer, reducer, since, till, step, label⟩ =
      makeWindow start stop step := by
    rw [SeriesRequest.window, SeriesRequest.readMoment_of_int64? hstart,
      SeriesRequest.readMoment_of_int64? hstop]
    rfl
  rw [prepare, hname, hread]
  simp only [bind, Except.bind, Except.mapError, hwindow]
  cases makeWindow start stop step <;> rfl

end Service

namespace Answer

/-- The body is the JSON object of the wording of a failure. -/
def Reports (a : Answer) (f : Failure) : Prop :=
  Json.Value.ofText? a.body.toList = some (.object [("error", .string f.message)])

/-- The body is the JSON object of a series with these values, and they are as many as the window
has points. -/
def Shows (a : Answer) (label : String) (start stop step : Int64) (values : Series) : Prop :=
  IsSeriesText a.body.toList label start stop step (values.map Json.Raw.ofReal) ∧
    (values.length : ℤ) = max 0 ⌈((stop.toInt - start.toInt : ℤ) : ℚ) / step.toInt⌉

/-- An answer fits the outcome of a fetch: a series is shown, the lack of one is not found, and a
store that does not answer well is a bad gateway. -/
structure Fits (a : Answer) (label : String) (start stop step : Int64)
    (r : Except Failure Series) : Prop where
  series : ∀ values, r = .ok values → a.status = 200 ∧ a.Shows label start stop step values
  noData : ∀ url, r = .error (.noData url) → a.status = 404
  gateway : ((∃ detail, r = .error (.transport detail)) ∨ (∃ code, r = .error (.status code)) ∨
    ∃ detail, r = .error (.unreadable detail)) → a.status = 502
  failure : ∀ f, r = .error f → a.Reports f
  only : a.status = 200 ∨ a.status = 404 ∨ a.status = 502

theorem reports_ofFailure (f : Failure) : (ofFailure f).Reports f := by
  rw [Reports, ofFailure, json, String.toList_ofList]
  exact f.ofText?_answerBody

theorem shows_ofFetch {label : String} {w : Window} {values : Series}
    (h : values.length = w.length) :
    (ofFetch label w (.ok values)).Shows label w.start w.stop w.step values := by
  refine ⟨?_, ?_⟩
  · rw [ofFetch, json, String.toList_ofList]
    exact SeriesAnswer.isSeriesText_text _
  · rw [h, Window.length, Window.pointCount_eq_ceil w.step_pos]

/-- Each outcome that an arrival can have is answered as it should be. -/
theorem fits_ofFetch {u : Url} {w : Window} {arrival : Arrival} {r : Except Failure Series}
    (h : Metric.Outcome u w arrival r) (label : String) :
    (ofFetch label w r).Fits label w.start w.stop w.step r := by
  constructor
  case series =>
    rintro values rfl
    exact ⟨rfl, shows_ofFetch (h.length values rfl)⟩
  case noData =>
    rintro url rfl
    rfl
  case gateway => rintro (⟨detail, rfl⟩ | ⟨code, rfl⟩ | ⟨detail, rfl⟩) <;> rfl
  case failure =>
    rintro f rfl
    exact reports_ofFailure f
  case only =>
    rcases h.only with ⟨detail, rfl⟩ | ⟨code, rfl⟩ | ⟨detail, rfl⟩ | rfl | ⟨values, rfl⟩
    · exact Or.inr (Or.inr rfl)
    · exact Or.inr (Or.inr rfl)
    · exact Or.inr (Or.inr rfl)
    · exact Or.inr (Or.inl rfl)
    · exact Or.inl rfl

end Answer

/-- There is nothing to ask: the numbers make no window, or the metric has no URL over it. -/
inductive Metric.Unasked (metric : Metric) (start stop step : Int64) (f : Failure) : Prop
  | window (h : makeWindow start stop step = .error f)
  | url {w : Window} (hw : makeWindow start stop step = .ok w) (hu : metric.url w = .error f)

theorem Metric.Unasked.answerStatus_eq {metric : Metric} {start stop step : Int64} {f : Failure}
    (h : metric.Unasked start stop step f) : f.answerStatus = 400 := by
  cases h with
  | window hw =>
    obtain ⟨detail, rfl⟩ := isInvalidWindow_of_makeWindow hw
    rfl
  | url hw hu =>
    obtain ⟨detail, rfl⟩ := Metric.isInvalidUrl_of_url hu
    rfl

namespace Service

variable {s : Service} {t : Target} {database pointer reducer : String} {label : Option String}
  {start stop step : Int64}

/-- Without a window or a URL a request is answered with its failure, before anything is sent. -/
theorem handle_of_unasked {f : Failure}
    (h : t.AsksSeries database pointer reducer label start stop step)
    (hf : (s.source.metric database pointer reducer label).Unasked start stop step f)
    {m : Type → Type} [Monad m] [LawfulMonad m] [StoreLink m] :
    s.handle (m := m) "GET" t = pure (Answer.ofFailure f) := by
  obtain ⟨segment, hne, hsegments, hname⟩ := h.segment
  rw [handle_series s hsegments hne, prepare_of_asksSeries hname h]
  cases hf with
  | window hw =>
    rw [hw]
    rfl
  | url hw hu =>
    rw [hw]
    change Answer.ofFetch _ _ <$> (Metric.fetch _ _).run = _
    rw [Metric.fetch_of_failure hu]
    exact map_pure _ _

/-- Over a window a request is answered by the outcome of the fetch. -/
theorem handle_of_window {w : Window}
    (h : t.AsksSeries database pointer reducer label start stop step)
    (hw : makeWindow start stop step = .ok w)
    {m : Type → Type} [Monad m] [LawfulMonad m] [StoreLink m] :
    s.handle (m := m) "GET" t =
      Answer.ofFetch (s.source.metric database pointer reducer label).label w <$>
        ((s.source.metric database pointer reducer label).fetch w).run := by
  obtain ⟨segment, hne, hsegments, hname⟩ := h.segment
  rw [handle_series s hsegments hne, prepare_of_asksSeries hname h, hw]
  rfl

/-- The service answers a request for a series as a fetch of it turns out. A window or a URL that
cannot be made is the asker's fault, and nothing is sent; any other answer comes after one
request. -/
theorem series_refines_fetch (s : Service)
    (h : t.AsksSeries database pointer reducer label start stop step) :
    let metric := s.source.metric database pointer reducer label
    (∀ f, metric.Unasked start stop step f → ∃ a : Answer, a.status = 400 ∧ a.Reports f ∧
      (∀ {m : Type → Type} [Monad m] [LawfulMonad m] [StoreLink m],
        s.handle (m := m) "GET" t = pure a) ∧
      ∀ scene : Scene, s.handle (m := Act) "GET" t scene = (a, scene)) ∧
    (∀ w u, makeWindow start stop step = .ok w → metric.url w = .ok u →
      ∃ (ask : Ask (Except Failure Series)) (answer : Except Failure Series → Answer),
        ask.request = ⟨.get, u⟩ ∧
        (∀ arrival, (answer (ask.read arrival).answer).Fits metric.label start stop step
          (ask.read arrival).answer) ∧
        (∀ {m : Type → Type} [Monad m] [LawfulMonad m] [StoreLink m],
          metric.fetch w = (perform ask : ExceptT Failure m Series) ∧
          s.handle (m := m) "GET" t = answer <$> (metric.fetch w).run) ∧
        ∀ scene : Scene, ∃ r after, (metric.fetch (m := Act) w).run scene = (r, after) ∧
          s.handle (m := Act) "GET" t scene = (answer r, after) ∧
          (answer r).Fits metric.label start stop step r ∧
          after.attempts = scene.attempts ++ [(.series, ⟨.get, u⟩)]) ∧
    ∀ scene : Scene, ∃ a after, s.handle (m := Act) "GET" t scene = (a, after) ∧
      (a.status = 400 ∧ after = scene ∨
        a.status ≠ 400 ∧ ∃ u, after.attempts = scene.attempts ++ [(.series, ⟨.get, u⟩)]) := by
  intro metric
  have hearly {f : Failure} (hf : metric.Unasked start stop step f) (scene : Scene) :
      s.handle (m := Act) "GET" t scene = (Answer.ofFailure f, scene) := by
    rw [handle_of_unasked h hf]
    rfl
  have hasked {w : Window} {u : Url} (hw : makeWindow start stop step = .ok w)
      (hu : metric.url w = .ok u) : ∃ ask : Ask (Except Failure Series),
        ask.request = ⟨.get, u⟩ ∧ Ask.series metric w = .ok ask ∧
        (∀ arrival, (Answer.ofFetch metric.label w (ask.read arrival).answer).Fits metric.label
          start stop step (ask.read arrival).answer) ∧
        ∀ scene : Scene, ∃ r after, (metric.fetch (m := Act) w).run scene = (r, after) ∧
          s.handle (m := Act) "GET" t scene = (Answer.ofFetch metric.label w r, after) ∧
          (Answer.ofFetch metric.label w r).Fits metric.label start stop step r ∧
          after.attempts = scene.attempts ++ [(.series, ⟨.get, u⟩)] := by
    obtain ⟨ask, hask, hoperation, hrequest, houtcome⟩ := Ask.exists_series_of_url hu
    obtain ⟨-, rfl, rfl, rfl⟩ := makeWindow_eq_ok_iff.1 hw
    refine ⟨ask, hrequest, hask, fun arrival => Answer.fits_ofFetch (houtcome arrival) _, ?_⟩
    intro scene
    refine ⟨(scene.perform ask).1, (scene.perform ask).2, ?_, ?_, ?_, ?_⟩
    · rw [Metric.fetch_of_series hask]
      rfl
    · rw [handle_of_window h hw, Metric.fetch_of_series hask]
      rfl
    · exact Answer.fits_ofFetch (houtcome _) _
    · rw [Metric.attempts_perform, hoperation, hrequest]
  refine ⟨fun f hf => ?_, fun w u hw hu => ?_, fun scene => ?_⟩
  · exact ⟨Answer.ofFailure f, hf.answerStatus_eq, Answer.reports_ofFailure f,
      handle_of_unasked h hf, hearly hf⟩
  · obtain ⟨ask, hrequest, hask, hfits, hscene⟩ := hasked hw hu
    exact ⟨ask, Answer.ofFetch metric.label w, hrequest, hfits,
      ⟨Metric.fetch_of_series hask, handle_of_window h hw⟩, hscene⟩
  · cases hw : makeWindow start stop step with
    | error f =>
      have hf : metric.Unasked start stop step f := .window hw
      exact ⟨_, _, hearly hf scene, Or.inl ⟨hf.answerStatus_eq, rfl⟩⟩
    | ok w =>
      cases hu : metric.url w with
      | error f =>
        have hf : metric.Unasked start stop step f := .url hw hu
        exact ⟨_, _, hearly hf scene, Or.inl ⟨hf.answerStatus_eq, rfl⟩⟩
      | ok u =>
        obtain ⟨ask, -, -, -, hscene⟩ := hasked hw hu
        obtain ⟨r, after, -, hhandle, hfits, hattempts⟩ := hscene scene
        refine ⟨_, after, hhandle, Or.inr ⟨?_, u, hattempts⟩⟩
        rcases hfits.only with h | h | h <;> rw [h] <;> decide

/-- A name of marks reaches the store in one request; with a step of zero nothing does. -/
theorem series_refines_fetch_of_marked_name :
    let ask (step : Int64) := Target.ofText (Target.seriesText (· ∈ ['/', '?', '#', '%'])
      "a/b ?#%" (SeriesRequest.asked "/x&y" "avg" (some "") (-1) 2 step))
    ∃ s, Service.ofSettings {} = .ok s ∧
      (∃ a after, s.handle (m := Act) "GET" (ask 2) {} = (a, after) ∧
        (a.status = 200 ∨ a.status = 404 ∨ a.status = 502) ∧
        ∃ u, after.attempts = [(.series, ⟨.get, u⟩)]) ∧
      ∃ a, s.handle (m := Act) "GET" (ask 0) {} = (a, {}) ∧ a.status = 400 := by
  intro ask
  have hasks (step : Int64) : (ask step).AsksSeries "a/b ?#%" "/x&y" "avg" (some "") (-1) 2 step :=
    Target.asksSeries_seriesText (by simp) (by decide) _ _ _ _ _ _
  have hmade : Service.ofSettings {} = .ok ⟨⟨"http://localhost:3133/"⟩, Client.atLocalStore⟩ :=
    ofSettings_eq_ok_iff.2 ⟨rfl, Client.make_localStore⟩
  refine ⟨_, hmade, ?_, ?_⟩
  · obtain ⟨w, hw⟩ : ∃ w, makeWindow (-1) 2 2 = .ok w := ⟨_, rfl⟩
    obtain ⟨u, hu, -⟩ := Metric.exists_url_sameServer
      (m := Source.metric ⟨"http://localhost:3133/"⟩ "a/b ?#%" "/x&y" "avg" (some ""))
      (Client.make_eq_ok_iff.1 Client.make_localStore) (Or.inl rfl) rfl w
    obtain ⟨fetch, answer, -, -, -, hscene⟩ := (series_refines_fetch
      ⟨⟨"http://localhost:3133/"⟩, Client.atLocalStore⟩ (hasks 2)).2.1 w u hw hu
    obtain ⟨r, after, -, hhandle, hfits, hattempts⟩ := hscene {}
    exact ⟨_, after, hhandle, hfits.only, u, hattempts⟩
  · obtain ⟨f, hf⟩ : ∃ f, makeWindow (-1) 2 0 = .error f := ⟨_, rfl⟩
    obtain ⟨a, hstatus, -, -, hscene⟩ := (series_refines_fetch _ (hasks 0)).1 f (.window hf)
    exact ⟨a, hscene {}, hstatus⟩

end Service

end SeriesGateway
