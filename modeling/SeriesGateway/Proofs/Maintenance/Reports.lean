import SeriesGateway.Proofs.Maintenance.Runs
import SeriesGateway.Proofs.Store.Naming
import SeriesGateway.Proofs.Store.Steady

namespace SeriesGateway.Client

variable {c : Client} {s t listed : Scene} {reply : Request → Arrival} {names : List String}

/-- The report on a database, if compaction is answered with these replies. -/
def compacted (c : Client) (reply : Request → Arrival) (name : String) : Outcome Unit where
  database := name
  result := ((Ask.compact c name).read (reply (Ask.compact c name).request)).answer

/-- What has been attempted for a database that was to be compacted. -/
def compaction (c : Client) (name : String) : Operation × Request :=
  (.compact, ⟨.post, c.endpointUrl name "_compact"⟩)

theorem compact_of_answers (h : s.network.Answers reply) (c : Client) (name : String) :
    ((c.compact (m := Act) name).run s).1 = (c.compacted reply name).result :=
  Scene.answer_perform h (Ask.compact c name)

/-- What is true after some compactions: the reports on them, and one request for each. -/
structure Compactions (c : Client) (reply : Request → Arrival)
    (before : List (Operation × Request)) (done : List String) (outcomes : List (Outcome Unit))
    (s : Scene) : Prop where
  answers : s.network.Answers reply
  outcomes : outcomes = done.map (c.compacted reply)
  attempts : s.attempts = before ++ done.map c.compaction

theorem Compactions.compactOne {before : List (Operation × Request)} {done : List String}
    {outcomes : List (Outcome Unit)} (h : c.Compactions reply before done outcomes s)
    (name : String) :
    c.Compactions reply before (done ++ [name])
      (outcomes ++ [(c.compactOne (m := Act) false name s).1])
      (c.compactOne (m := Act) false name s).2 where
  answers := Scene.answers_perform h.answers (Ask.compact c name)
  outcomes := by
    have hreport : (c.compactOne (m := Act) false name s).1 = c.compacted reply name :=
      congrArg (Outcome.mk name) (compact_of_answers h.answers c name)
    rw [hreport, h.outcomes, List.map_append]
    rfl
  attempts := by
    have hrequest : (c.compactOne (m := Act) false name s).2.attempts =
        s.attempts ++ [c.compaction name] := rfl
    rw [hrequest, h.attempts, List.map_append, List.append_assoc]
    rfl

/-- All databases that are listed are compacted, in the order that the choices make. -/
theorem run_compactAll (hlist : (c.list (m := Act)).run s = (.ok names, listed))
    (h : s.network.Answers reply) (concurrency : Nat) :
    ∃ after, (c.compactAll (m := Act) concurrency false).run s =
        (.ok ((Schedule.completions (max 1 concurrency) s.choices names).map (c.compacted reply)),
          after) ∧
      after.attempts = s.attempts ++ (.list, ⟨.get, c.listUrl⟩) ::
        (Schedule.completions (max 1 concurrency) s.choices names).map c.compaction := by
  have hlisted : listed = (s.perform (.list c)).2 := congrArg Prod.snd hlist.symm
  subst hlisted
  have hstart (choices : List Nat) : c.Compactions reply
      (s.attempts ++ [(.list, ⟨.get, c.listUrl⟩)]) [] []
      { (s.perform (.list c)).2 with choices } :=
    ⟨Scene.answers_perform h (.list c), rfl, (List.append_nil _).symm⟩
  obtain ⟨-, hdone⟩ := Scene.completions_holds
    (c.Compactions reply (s.attempts ++ [(.list, ⟨.get, c.listUrl⟩)]))
    (fun name _ _ _ hdone => hdone.compactOne name)
    (lt_max_of_lt_left Nat.zero_lt_one) names (hstart _)
  have hattempts := hdone.attempts
  rw [List.append_assoc] at hattempts
  rw [compactAll_eq, Scene.run_jobsFor_of_ok hlist, hdone.outcomes]
  exact ⟨_, rfl, hattempts⟩

/-- Dumps are reported under the names of their databases. -/
theorem databases_of_dumpAll {o : DumpOptions} (hbounds : o.checkBounds = .ok ())
    (hlist : (c.chosen o).run s = (.ok names, listed)) (now : Instant) :
    ∃ outcomes after, (c.dumpAll (m := Act) o now).run s = (.ok outcomes, after) ∧
      Schedule.Completes (max 1 o.concurrency) names (outcomes.map Outcome.database) := by
  have hstep (name : String) (done : List String) (outcomes : List (Outcome Nat)) (s : Scene)
      (h : outcomes.map Outcome.database = done) :
      (outcomes ++ [(c.dumpOne (m := Act) o now name s).1]).map Outcome.database =
        done ++ [name] := by
    rw [List.map_append, h, List.map_singleton, database_dumpOne]
  rw [dumpAll_eq c now hbounds]
  obtain ⟨order, outcomes, after, hcompletes, hrun, hdone⟩ := Scene.run_jobsFor_holds
    (fun done outcomes _ => outcomes.map Outcome.database = done) hstep
    (lt_max_of_lt_left Nat.zero_lt_one) hlist fun _ => rfl
  exact ⟨outcomes, after, hrun, hdone ▸ hcompletes⟩

/-- Where the listing fails, a run fails with it and nothing else is requested. Where it succeeds,
the orders in which the jobs can complete are orders of the list, and the order of the list itself
one at a time; each of them is that of some run. A run compacts every database on the list once,
whatever becomes of the others, and reports for it what compacting it alone gives; the requests for
this are sent in the order of the list if there is one at a time. A run of dumps reports the same
databases. -/
theorem every_database_is_reported_once (hs : s.network.Answers reply)
    (ht : t.network.Answers reply) (c : Client) :
    (∀ f listed, (c.list (m := Act)).run s = (.error f, listed) →
      listed.attempts = s.attempts ++ [(.list, ⟨.get, c.listUrl⟩)] ∧
      (∀ concurrency noop, (c.compactAll (m := Act) concurrency noop).run s = (.error f, listed)) ∧
      ∀ (o : DumpOptions) now, o.checkBounds = .ok () → o.database = none →
        (c.dumpAll (m := Act) o now).run s = (.error f, listed)) ∧
    ∀ names listed, (c.list (m := Act)).run s = (.ok names, listed) →
      let report name : Outcome Unit := ⟨name, ((c.compact (m := Act) name).run t).1⟩
      let requests : List (Operation × Request) :=
        names.map fun name => (.compact, ⟨.post, c.endpointUrl name "_compact"⟩)
      (∀ concurrency order, Schedule.Completes (max 1 concurrency) names order →
        order.Perm names ∧ (concurrency ≤ 1 → order = names) ∧
        ∃ choices after, (c.compactAll (m := Act) concurrency false).run { s with choices } =
          (.ok (order.map report), after)) ∧
      (∀ concurrency, ∃ order after sent, Schedule.Completes (max 1 concurrency) names order ∧
        (c.compactAll (m := Act) concurrency false).run s = (.ok (order.map report), after) ∧
        after.attempts = s.attempts ++ (.list, ⟨.get, c.listUrl⟩) :: sent ∧
        sent.Perm requests ∧ (concurrency ≤ 1 → sent = requests)) ∧
      ∀ (o : DumpOptions) now, o.checkBounds = .ok () → o.database = none →
        ∃ outcomes after, (c.dumpAll (m := Act) o now).run s = (.ok outcomes, after) ∧
          Schedule.Completes (max 1 o.concurrency) names (outcomes.map Outcome.database) := by
  refine ⟨fun f listed hlist => ⟨?_, ?_, ?_⟩, fun names listed hlist => ?_⟩
  · exact congrArg (fun run => run.2.attempts) hlist.symm
  · intro concurrency noop
    rw [compactAll_eq, Scene.run_jobsFor_of_error hlist]
  · intro o now hbounds hdatabase
    have hchosen : (c.chosen o).run s = (.error f, listed) := by rwa [chosen, hdatabase]
    rw [dumpAll_eq c now hbounds, Scene.run_jobsFor_of_error hchosen]
  · intro report requests
    have hreport : c.compacted reply = report := by
      funext name
      exact congrArg (Outcome.mk name) (compact_of_answers ht c name).symm
    refine ⟨fun concurrency order horder => ⟨horder.perm, fun hone => ?_, ?_⟩,
      fun concurrency => ?_, fun o now hbounds hdatabase => ?_⟩
    · rw [Nat.max_eq_left hone] at horder
      exact horder.eq_of_one
    · obtain ⟨choices, hchoices⟩ := horder.exists_choices
      have hagain : (c.list (m := Act)).run { s with choices } =
          (.ok names, { listed with choices }) := by
        have hperform : s.perform (.list c) = (.ok names, listed) := hlist
        change ((s.perform (.list c)).1, { (s.perform (.list c)).2 with choices }) = _
        rw [hperform]
      obtain ⟨after, hrun, -⟩ := run_compactAll hagain hs concurrency
      rw [hchoices, hreport] at hrun
      exact ⟨choices, after, hrun⟩
    · obtain ⟨after, hrun, hattempts⟩ := run_compactAll hlist hs concurrency
      rw [hreport] at hrun
      have horder : Schedule.Completes (max 1 concurrency) names _ :=
        Schedule.completes_completions (by omega) s.choices names
      refine ⟨_, after, _, horder, hrun, hattempts, horder.perm.map c.compaction, fun hone => ?_⟩
      rw [Nat.max_eq_left hone] at horder ⊢
      rw [horder.eq_of_one]
      rfl
    · have hchosen : (c.chosen o).run s = (.ok names, listed) := by rwa [chosen, hdatabase]
      exact databases_of_dumpAll hbounds hchosen now

/-- A database that is listed twice is compacted twice, around one that cannot be found; two at a
time that one may be the first to be reported. -/
theorem every_database_is_reported_once_of_repeated_name :
    let script : Script :=
      ⟨[("GET /_all_dbs", [{ body := "[\"b\",\"a\",\"b\"]" }]), ("POST /b/_compact", [{}])]⟩
    let s : Scene := { network := { script } }
    let report name : Outcome Unit :=
      ⟨name, if name = "b" then .ok () else .error (.status 404)⟩
    (∃ after, (atLocalStore.compactAll (m := Act) 0 false).run s =
        (.ok (["b", "a", "b"].map report), after) ∧ after.attempts.length = 4) ∧
      ∃ choices after, (atLocalStore.compactAll (m := Act) 2 false).run { s with choices } =
        (.ok (["a", "b", "b"].map report), after) := by
  intro script s report
  have hsteady : s.network.script.IsSteady := by
    change ∀ entry ∈ script.routes, entry.2.length ≤ 1
    decide +kernel
  have hnames : ((atLocalStore.list (m := Act)).run s).1 = .ok ["b", "a", "b"] := by
    decide +kernel
  have hreport (name : String) (h : name = "b" ∨ name = "a") :
      (⟨name, ((atLocalStore.compact (m := Act) name).run s).1⟩ : Outcome Unit) = report name := by
    rcases h with rfl | rfl
    · exact congrArg (Outcome.mk "b") (by decide +kernel)
    · exact congrArg (Outcome.mk "a") (by decide +kernel)
  have hreports (order : List String) (h : ∀ name ∈ order, name = "b" ∨ name = "a") :
      order.map (fun name => ⟨name, ((atLocalStore.compact (m := Act) name).run s).1⟩) =
        order.map report :=
    List.map_congr_left fun name hname => hreport name (h name hname)
  have hanswers := Network.answers_of_isSteady hsteady
  obtain ⟨horders, hruns, -⟩ := (every_database_is_reported_once hanswers hanswers
    atLocalStore).2 _ _ (Prod.ext hnames rfl)
  constructor
  · obtain ⟨order, after, sent, hcompletes, hrun, hattempts, -, hsent⟩ := hruns 0
    have horder := (horders 0 order hcompletes).2.1 (Nat.zero_le 1)
    subst horder
    rw [hreports _ (by decide)] at hrun
    rw [hsent (Nat.zero_le 1)] at hattempts
    exact ⟨after, hrun, congrArg List.length hattempts⟩
  · have hlast : Schedule.Completes 2 ([] ++ "b" :: []) ["b"] := .next (by decide) .nil
    have hpair : Schedule.Completes 2 ([] ++ "b" :: ["b"]) ["b", "b"] := .next (by decide) hlast
    have hcompletes : Schedule.Completes 2 (["b"] ++ "a" :: ["b"]) ["a", "b", "b"] :=
      .next (by decide) hpair
    obtain ⟨-, -, choices, after, hrun⟩ := horders 2 _ hcompletes
    rw [hreports _ (by decide)] at hrun
    exact ⟨choices, after, hrun⟩

end SeriesGateway.Client
