import SeriesGateway.Proofs.Counters.Runs
import SeriesGateway.Proofs.Service.StoreCalls
import SeriesGateway.Proofs.Store.Fetches

namespace SeriesGateway

/-- Something that can be done with a store. -/
inductive Action where
  | store (call : StoreCall)
  | poll (metric : Metric) (start stop step : Int64)
  | fetchAll (metrics : List Metric) (w : Window)
  | compactAll (c : Client) (concurrency : Nat) (noop : Bool)
  | dumpAll (c : Client) (o : DumpOptions) (now : Instant)
  | describe (c : Client) (names : List String) (short : Bool)
  | request (service : Service) (method : String) (t : Target)

namespace Action

/-- Does something, and gives the series that fetches have returned in it. The fetch in a request
to the service is the operation that it asks for, in the scene in which it is asked. -/
def perform : Action → Act (List Series)
  | .store call => do
    return (call.series? (← call.run)).toList
  | .poll metric start stop step => do
    let ((), results) ← (metric.poll start stop step Metric.keep).run []
    return results.filterMap Except.toOption
  | .fetchAll metrics w => do
    return (← Metric.fetchAll metrics w).filterMap Except.toOption
  | .compactAll c concurrency noop => do
    let _ ← (c.compactAll (m := Act) concurrency noop).run
    return []
  | .dumpAll c o now => do
    let _ ← (c.dumpAll (m := Act) o now).run
    return []
  | .describe c names short => do
    let _ ← (c.describe (m := Act) names short).run
    return []
  | .request service method t => do
    let before ← get
    let _ ← service.handle (m := Act) method t
    return ((service.asked? method t).bind fun call => call.series? (call.run before).1).toList

/-- The requests that an action sends from a scene. None are sent for what cannot be read, and
none for the databases of a run that only says what it would do. -/
inductive Sends (s : Scene) : Action → List (Operation × Request) → Prop
  | store (call : StoreCall) : Sends s (.store call) call.attempts
  | pollUnasked {metric : Metric} {start stop step : Int64} {f : Failure}
    (hwindow : makeWindow start stop step = .error f) : Sends s (.poll metric start stop step) []
  | poll {metric : Metric} {start stop step : Int64} {w : Window}
    (hwindow : makeWindow start stop step = .ok w) :
    Sends s (.poll metric start stop step) (StoreCall.series metric w).attempts
  | fetchAll {metrics order : List Metric} {w : Window} (horder : order.Perm metrics) :
    Sends s (.fetchAll metrics w)
      (order.flatMap fun metric => (StoreCall.series metric w).attempts)
  | compactAllUnlisted {c : Client} {concurrency : Nat} {noop : Bool} {f : Failure}
    (hlist : ((c.list (m := Act)).run s).1 = .error f) :
    Sends s (.compactAll c concurrency noop) (StoreCall.list c).attempts
  | compactAllNoop {c : Client} {concurrency : Nat} :
    Sends s (.compactAll c concurrency true) (StoreCall.list c).attempts
  | compactAll {c : Client} {concurrency : Nat} {names order : List String}
    (hlist : ((c.list (m := Act)).run s).1 = .ok names) (horder : order.Perm names) :
    Sends s (.compactAll c concurrency false)
      ((StoreCall.list c).attempts ++
        order.flatMap fun name => (StoreCall.compact c name).attempts)
  | dumpAllUnread {c : Client} {o : DumpOptions} {now : Instant} {f : Failure}
    (hbounds : o.checkBounds = .error f) : Sends s (.dumpAll c o now) []
  | dumpAllUnlisted {c : Client} {o : DumpOptions} {now : Instant} {f : Failure}
    (hbounds : o.checkBounds = .ok ()) (hchosen : ((c.chosen o).run s).1 = .error f) :
    Sends s (.dumpAll c o now) (c.listing o)
  | dumpAllNoop {c : Client} {o : DumpOptions} {now : Instant}
    (hbounds : o.checkBounds = .ok ()) (hnoop : o.noop = true) :
    Sends s (.dumpAll c o now) (c.listing o)
  /-- A database is dumped only if a file for it could be made. -/
  | dumpAll {c : Client} {o : DumpOptions} {now : Instant} {names dumped : List String}
    (hbounds : o.checkBounds = .ok ()) (hchosen : ((c.chosen o).run s).1 = .ok names)
    (hnoop : o.noop = false) (hdumped : dumped.Subperm names) :
    Sends s (.dumpAll c o now)
      (c.listing o ++
        dumped.flatMap fun name => (StoreCall.dump c name {} o.earliest o.latest).attempts)
  | describeUnlisted {c : Client} {short : Bool} {f : Failure}
    (hlist : ((c.list (m := Act)).run s).1 = .error f) :
    Sends s (.describe c [] short) (StoreCall.list c).attempts
  /-- The first database that cannot be described is the last one that is asked for. -/
  | describeAll {c : Client} {short : Bool} {names described : List String}
    (hlist : ((c.list (m := Act)).run s).1 = .ok names) (hdescribed : described <+: names) :
    Sends s (.describe c [] short)
      ((StoreCall.list c).attempts ++
        described.flatMap fun name => (StoreCall.info c name).attempts)
  | describe {c : Client} {short : Bool} {names described : List String} (hnames : names ≠ [])
    (hdescribed : described <+: names) :
    Sends s (.describe c names short)
      (described.flatMap fun name => (StoreCall.info c name).attempts)
  | requestAlone {service : Service} {method : String} {t : Target}
    (hasked : service.asked? method t = none) : Sends s (.request service method t) []
  | request {service : Service} {method : String} {t : Target} {call : StoreCall}
    (hasked : service.asked? method t = some call) :
    Sends s (.request service method t) call.attempts

/-- What actions one after the other send, each from the scene that it finds. -/
inductive AllSend : Scene → List Action → List (Operation × Request) → Prop
  | nil (s : Scene) : AllSend s [] []
  | cons {s : Scene} {action : Action} {rest : List Action}
    {sent others : List (Operation × Request)} (hfirst : action.Sends s sent)
    (hrest : AllSend (action.perform s).2 rest others) :
    AllSend s (action :: rest) (sent ++ others)

/-- What an action does is counted: its requests, and the series that it returns. -/
def Counts (action : Action) : Prop :=
  ∀ s : Scene, ∃ sent, action.Sends s sent ∧
    s.Grown (action.perform s).2 sent (action.perform s).1

theorem counts_store (call : StoreCall) : (Action.store call).Counts := fun s =>
  ⟨_, .store call, Scene.grown_call call s⟩

theorem grown_fetch (metric : Metric) (w : Window) (s : Scene) :
    s.Grown ((metric.fetch (m := Act) w).run s).2 (StoreCall.series metric w).attempts
      ((metric.fetch (m := Act) w).run s).1.toOption.toList := by
  have hgrown := Scene.grown_call (.series metric w) s
  have hseries (r : Except Failure Series) :
      (StoreCall.series metric w).series? r = r.toOption := by cases r <;> rfl
  rwa [hseries] at hgrown

theorem perform_poll {metric : Metric} {start stop step : Int64} {s after : Scene}
    {r : Except Failure Series} (h : metric.Polls start stop step s r after) :
    (Action.poll metric start stop step).perform s = (r.toOption.toList, after) := by
  have hrun : (Action.poll metric start stop step).perform s =
      (((metric.poll start stop step Metric.keep).run [] s).1.2.filterMap Except.toOption,
        ((metric.poll start stop step Metric.keep).run [] s).2) := rfl
  rw [hrun, h.once]
  cases r <;> rfl

theorem counts_poll (metric : Metric) (start stop step : Int64) :
    (Action.poll metric start stop step).Counts := by
  intro s
  cases hwindow : makeWindow start stop step with
  | error f =>
    rw [perform_poll (Metric.polls_of_failure hwindow metric s)]
    exact ⟨[], .pollUnasked hwindow, .refl s⟩
  | ok w =>
    rw [perform_poll (Metric.polls_of_window hwindow metric s)]
    exact ⟨_, .poll hwindow, grown_fetch metric w s⟩

theorem counts_fetchAll (metrics : List Metric) (w : Window) :
    (Action.fetchAll metrics w).Counts := by
  intro s
  let job (metric : Metric) : Act (Except Failure Series) := (metric.fetch w).run
  have hperform : (Action.fetchAll metrics w).perform s =
      ((SideBySide.all (metrics.map job) s).1.filterMap Except.toOption,
        (SideBySide.all (metrics.map job) s).2) := rfl
  obtain ⟨order, sent, horder, rfl, hgrown⟩ := Scene.grown_completions (Scene.numbered job)
    (fun outcome => outcome.2.toOption.toList)
    (fun done sent => sent = done.flatMap fun entry => (StoreCall.series entry.1 w).attempts) rfl
    (fun entry _ _ u hbefore => ⟨_, by simp [hbefore], grown_fetch entry.1 w u⟩)
    metrics.length metrics.zipIdx s
  have hmetrics : (order.map Prod.fst).Perm metrics := by
    have hnumbers := horder.map Prod.fst
    rwa [List.zipIdx_map_fst] at hnumbers
  have hsends : Sends s (.fetchAll metrics w) _ := .fetchAll hmetrics
  rw [List.flatMap_map] at hsends
  rw [hperform, Scene.all_eq]
  refine ⟨_, hsends, hgrown.of_perm ?_⟩
  rw [List.filterMap_eq_flatMap_toList]
  have hplaces := Schedule.inPlace_perm
    (SideBySide.completions metrics.length (metrics.zipIdx.map (Scene.numbered job)) s).1
  have hseries := hplaces.flatMap_right fun r => r.toOption.toList
  rw [List.flatMap_map] at hseries
  exact hseries.symm

theorem counts_compactAll (c : Client) (concurrency : Nat) (noop : Bool) :
    (Action.compactAll c concurrency noop).Counts := by
  intro s
  change ∃ sent, Sends s _ sent ∧
    s.Grown ((c.compactAll (m := Act) concurrency noop).run s).2 sent []
  rw [Client.compactAll_eq]
  cases noop with
  | true =>
    exact ⟨_, .compactAllNoop, Scene.grown_jobsFor_quiet (c.grown_list s) (fun _ _ => rfl) _⟩
  | false =>
    have hstep (name : String) (u : Scene) : u.Grown (c.compactOne (m := Act) false name u).2
        (StoreCall.compact c name).attempts [] := c.grown_compact name u
    rcases Scene.grown_jobsFor_each (c.grown_list s) _ hstep (max 1 concurrency) with
      ⟨f, hlist, hgrown⟩ | ⟨names, order, hlist, horder, hgrown⟩
    · exact ⟨_, .compactAllUnlisted hlist, hgrown⟩
    · exact ⟨_, .compactAll hlist horder, hgrown⟩

theorem counts_dumpAll (c : Client) (o : DumpOptions) (now : Instant) :
    (Action.dumpAll c o now).Counts := by
  intro s
  change ∃ sent, Sends s _ sent ∧ s.Grown ((c.dumpAll (m := Act) o now).run s).2 sent []
  cases hbounds : o.checkBounds with
  | error f =>
    rw [Client.dumpAll, hbounds]
    exact ⟨[], .dumpAllUnread hbounds, .refl s⟩
  | ok =>
    rw [Client.dumpAll_eq c now hbounds]
    cases hnoop : o.noop with
    | true =>
      exact ⟨_, .dumpAllNoop hbounds hnoop, Scene.grown_jobsFor_quiet (c.grown_chosen o s)
        (fun name u => c.snd_dumpOne_of_noop now name hnoop u) _⟩
    | false =>
      rcases Scene.grown_jobsFor_some (c.grown_chosen o s) _
        (fun name u => c.grown_dumpOne now name hnoop u) (max 1 o.concurrency) with
        ⟨f, hchosen, hgrown⟩ | ⟨names, dumped, hchosen, hdumped, hgrown⟩
      · exact ⟨_, .dumpAllUnlisted hbounds hchosen, hgrown⟩
      · exact ⟨_, .dumpAll hbounds hchosen hnoop hdumped, hgrown⟩

theorem counts_describe (c : Client) (names : List String) (short : Bool) :
    (Action.describe c names short).Counts := by
  intro s
  change ∃ sent, Sends s _ sent ∧ s.Grown ((c.describe (m := Act) names short).run s).2 sent []
  by_cases hnames : names = []
  · subst hnames
    rcases c.grown_describe_nil short s with
      ⟨f, hlist, hgrown⟩ | ⟨names, described, hlist, hdescribed, hgrown⟩
    · exact ⟨_, .describeUnlisted hlist, hgrown⟩
    · exact ⟨_, .describeAll hlist hdescribed, hgrown⟩
  · obtain ⟨described, hdescribed, hgrown⟩ := c.grown_describe hnames short s
    exact ⟨_, .describe hnames hdescribed, hgrown⟩

theorem counts_request (service : Service) (method : String) (t : Target) :
    (Action.request service method t).Counts := by
  intro s
  change ∃ sent, Sends s _ sent ∧ s.Grown (service.handle (m := Act) method t s).2 sent
    ((service.asked? method t).bind fun call => call.series? (call.run s).1).toList
  have hdoes := service.does_handle method t
  cases hasked : service.asked? method t with
  | none =>
    rw [hasked] at hdoes
    obtain ⟨hsame⟩ := hdoes
    rw [hsame]
    exact ⟨[], .requestAlone hasked, .refl s⟩
  | some call =>
    rw [hasked] at hdoes
    obtain _ | ⟨answer, hanswer⟩ := hdoes
    rw [hanswer]
    exact ⟨_, .request hasked, Scene.grown_call call s⟩

theorem counts (action : Action) : action.Counts := by
  cases action with
  | store call => exact counts_store call
  | poll metric start stop step => exact counts_poll metric start stop step
  | fetchAll metrics w => exact counts_fetchAll metrics w
  | compactAll c concurrency noop => exact counts_compactAll c concurrency noop
  | dumpAll c o now => exact counts_dumpAll c o now
  | describe c names short => exact counts_describe c names short
  | request service method t => exact counts_request service method t

end Action

/-- Whatever is done one after the other, each request that is sent is counted once under its
operation and timed once, and at most these count as failed; the samples that are missing are those
of the series that fetches have returned. A request to the service does one operation of the store
or none. -/
theorem counters_balance (actions : List Action) (s : Scene) :
    (∃ returned after sent, actions.mapM Action.perform s = (returned, after) ∧
      Action.AllSend s actions sent ∧ s.Grown after sent returned.flatten) ∧
    ∀ service method t,
      Service.Does (Service.handle service method t) (Service.asked? service method t) := by
  refine ⟨?_, Service.does_handle⟩
  induction actions generalizing s with
  | nil => exact ⟨[], s, [], rfl, .nil s, .refl s⟩
  | cons action rest ih =>
    obtain ⟨sent, hsent, hgrown⟩ := action.counts s
    obtain ⟨returned, after, others, hrun, hothers, hrest⟩ := ih (action.perform s).2
    refine ⟨(action.perform s).1 :: returned, after, sent ++ others, ?_, .cons hsent hothers, ?_⟩
    · rw [Scene.mapM_cons, hrun]
    · rw [List.flatten_cons]
      exact hgrown.trans hrest

end SeriesGateway
