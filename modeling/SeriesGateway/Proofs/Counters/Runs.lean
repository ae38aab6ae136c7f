import SeriesGateway.Maintenance
import SeriesGateway.Proofs.Counters.Growth
import SeriesGateway.Proofs.Maintenance.Runs

namespace SeriesGateway

namespace Scene

variable {α β : Type} {find : ExceptT Failure Act (List α)} {job : α → Act β}
  {listed : List (Operation × Request)} {s : Scene}

/-- A run sends what it takes to find something, and then what is sent for its jobs. -/
theorem grown_jobsFor (hfind : s.Grown (find.run s).2 listed [])
    (Sent : List α → List (Operation × Request) → Prop) (hnil : Sent [] [])
    (step : ∀ a done before (u : Scene), Sent done before →
      ∃ part, Sent (done ++ [a]) (before ++ part) ∧ u.Grown (job a u).2 part [])
    (width : Nat) :
    (∃ f, (find.run s).1 = .error f ∧
      s.Grown ((jobsFor find width job).run s).2 listed []) ∨
    ∃ found order sent, (find.run s).1 = .ok found ∧ order.Perm found ∧ Sent order sent ∧
      s.Grown ((jobsFor find width job).run s).2 (listed ++ sent) [] := by
  rcases hrun : find.run s with ⟨f | found, u⟩ <;> rw [hrun] at hfind
  · rw [run_jobsFor_of_error hrun]
    exact Or.inl ⟨f, rfl, hfind⟩
  · obtain ⟨order, sent, horder, hsent, hgrown⟩ :=
      grown_completions job (fun _ => []) Sent hnil step width found u
    have hnone : (SideBySide.completions width (found.map job) u).1.flatMap
        (fun _ => ([] : List Series)) = [] := by simp
    rw [hnone] at hgrown
    rw [run_jobsFor_of_ok hrun]
    exact Or.inr ⟨found, order, sent, rfl, horder, hsent, hfind.trans hgrown⟩

/-- Where each job sends its requests, all of these are sent in an order of the jobs. -/
theorem grown_jobsFor_each (hfind : s.Grown (find.run s).2 listed [])
    (requests : α → List (Operation × Request))
    (step : ∀ a (u : Scene), u.Grown (job a u).2 (requests a) []) (width : Nat) :
    (∃ f, (find.run s).1 = .error f ∧ s.Grown ((jobsFor find width job).run s).2 listed []) ∨
    ∃ found order : List α, (find.run s).1 = .ok found ∧ order.Perm found ∧
      s.Grown ((jobsFor find width job).run s).2 (listed ++ order.flatMap requests) [] := by
  rcases grown_jobsFor hfind (fun done sent => sent = done.flatMap requests) rfl
    (fun a _ _ u hbefore => ⟨requests a, by simp [hbefore], step a u⟩) width with
    hnone | ⟨found, order, sent, hfound, horder, rfl, hgrown⟩
  · exact Or.inl hnone
  · exact Or.inr ⟨found, order, hfound, horder, hgrown⟩

/-- Where jobs do nothing, only what it takes to find something is sent. -/
theorem grown_jobsFor_quiet (hfind : s.Grown (find.run s).2 listed [])
    (step : ∀ a u, (job a u).2 = u) (width : Nat) :
    s.Grown ((jobsFor find width job).run s).2 listed [] := by
  have hstep (a : α) (u : Scene) : u.Grown (job a u).2 [] [] := by
    rw [step]
    exact .refl u
  rcases grown_jobsFor_each hfind (fun _ => []) hstep width with
    ⟨f, -, hgrown⟩ | ⟨found, order, -, -, hgrown⟩
  · exact hgrown
  · rwa [List.flatMap_eq_nil_iff.2 fun _ _ => rfl, List.append_nil] at hgrown

/-- Where a job sends its requests or nothing, those of some jobs are sent. -/
theorem grown_jobsFor_some (hfind : s.Grown (find.run s).2 listed [])
    (requests : α → List (Operation × Request))
    (step : ∀ a (u : Scene), ∃ part, (part = requests a ∨ part = []) ∧
      u.Grown (job a u).2 part []) (width : Nat) :
    (∃ f, (find.run s).1 = .error f ∧ s.Grown ((jobsFor find width job).run s).2 listed []) ∨
    ∃ found sending : List α, (find.run s).1 = .ok found ∧ sending.Subperm found ∧
      s.Grown ((jobsFor find width job).run s).2 (listed ++ sending.flatMap requests) [] := by
  have hstep (a : α) (done : List α) (before : List (Operation × Request)) (u : Scene)
      (hbefore : ∃ sending : List α, sending.Sublist done ∧ before = sending.flatMap requests) :
      ∃ part, (∃ sending : List α, sending.Sublist (done ++ [a]) ∧
        before ++ part = sending.flatMap requests) ∧ u.Grown (job a u).2 part [] := by
    obtain ⟨sending, hsending, rfl⟩ := hbefore
    obtain ⟨part, hpart, hgrown⟩ := step a u
    refine ⟨part, ?_, hgrown⟩
    rcases hpart with rfl | rfl
    · exact ⟨sending ++ [a], hsending.append_right [a], by simp⟩
    · exact ⟨sending, hsending.trans (List.sublist_append_left _ _), List.append_nil _⟩
  rcases grown_jobsFor hfind (fun done sent =>
      ∃ sending : List α, sending.Sublist done ∧ sent = sending.flatMap requests)
    ⟨[], List.Sublist.refl _, rfl⟩ hstep width with
    hnone | ⟨found, order, sent, hfound, horder, ⟨sending, hsending, rfl⟩, hgrown⟩
  · exact Or.inl hnone
  · exact Or.inr ⟨found, sending, hfound, hsending.subperm.trans horder.subperm, hgrown⟩

end Scene

namespace Client

variable {o : DumpOptions}

theorem grown_list (c : Client) (s : Scene) :
    s.Grown ((c.list (m := Act)).run s).2 (StoreCall.list c).attempts [] :=
  Scene.grown_call (.list c) s

theorem grown_compact (c : Client) (name : String) (s : Scene) :
    s.Grown ((c.compact (m := Act) name).run s).2 (StoreCall.compact c name).attempts [] :=
  Scene.grown_call (.compact c name) s

theorem grown_info (c : Client) (name : String) (s : Scene) :
    s.Grown ((c.info (m := Act) name).run s).2 (StoreCall.info c name).attempts [] :=
  Scene.grown_call (.info c name) s

theorem grown_dump (c : Client) (name : String) (sink : Sink) (earliest latest : Option String)
    (s : Scene) : s.Grown (c.dump (m := Act) name sink earliest latest s).2
      (StoreCall.dump c name sink earliest latest).attempts [] :=
  Scene.grown_call (.dump c name sink earliest latest) s

theorem grown_chosen (c : Client) (o : DumpOptions) (s : Scene) :
    s.Grown ((c.chosen o).run s).2 (c.listing o) [] := by
  cases hdatabase : o.database with
  | some name =>
    rw [chosen, listing, hdatabase]
    exact .refl s
  | none =>
    rw [chosen, listing, hdatabase]
    exact c.grown_list s

/-- A dump is sent if a file for it could be made. -/
theorem grown_dumpToFile (c : Client) (o : DumpOptions) (target : PathText) (name : String)
    (s : Scene) :
    ∃ part, (part = (StoreCall.dump c name {} o.earliest o.latest).attempts ∨ part = []) ∧
      s.Grown ((c.dumpToFile (m := Act) o target name).run s).2 part [] := by
  have hmade : s.Grown (s.create target).2 [] [] := by
    unfold Scene.create
    split <;> exact .quiet rfl rfl rfl
  rw [run_dumpToFile]
  rcases hcreate : s.create target with ⟨f | ⟨⟩, made⟩ <;> rw [hcreate] at hmade
  · exact ⟨[], Or.inr rfl, hmade⟩
  · refine ⟨_, Or.inl rfl, ?_⟩
    have hdumped := hmade.trans (c.grown_dump name {} o.earliest o.latest made)
    rcases hdump : c.dump (m := Act) name {} o.earliest o.latest made with
      ⟨⟨f | written, sink⟩, dumped⟩ <;> rw [hdump] at hdumped <;> simp only [hdump]
    · exact hdumped.before_quiet rfl rfl rfl
    · exact hdumped.before_quiet rfl rfl rfl

/-- A job that only says what it would do does nothing. -/
theorem snd_dumpOne_of_noop (c : Client) (now : Instant) (name : String) (hnoop : o.noop = true)
    (s : Scene) : (c.dumpOne (m := Act) o now name s).2 = s := by
  rw [dumpOne, hnoop]
  rfl

theorem grown_dumpOne (c : Client) (now : Instant) (name : String) (hnoop : o.noop = false)
    (s : Scene) :
    ∃ part, (part = (StoreCall.dump c name {} o.earliest o.latest).attempts ∨ part = []) ∧
      s.Grown (c.dumpOne (m := Act) o now name s).2 part [] := by
  rw [run_dumpOne c now name hnoop]
  exact c.grown_dumpToFile o (o.target now name) name s

/-- Databases are asked for one after the other, up to the first that fails. -/
theorem grown_infos (c : Client) (names : List String) (s : Scene) :
    ∃ described, described <+: names ∧ s.Grown ((c.infos (m := Act) names).run s).2
      (described.flatMap fun name => (StoreCall.info c name).attempts) [] := by
  induction names generalizing s with
  | nil => exact ⟨[], List.prefix_rfl, .refl s⟩
  | cons name rest ih =>
    have hinfo := c.grown_info name s
    rw [infos, Scene.run_bind]
    rcases hrun : (c.info (m := Act) name).run s with ⟨f | info, after⟩ <;> rw [hrun] at hinfo
    · exact ⟨[name], ⟨rest, rfl⟩, hinfo⟩
    · obtain ⟨described, hdescribed, hrest⟩ := ih after
      refine ⟨name :: described, (List.prefix_cons_inj name).2 hdescribed, ?_⟩
      dsimp only
      rw [Scene.run_bind_pure]
      exact hinfo.trans hrest

/-- Databases that are known are described without a listing. -/
theorem grown_describe (c : Client) {names : List String} (hnames : names ≠ []) (short : Bool)
    (s : Scene) :
    ∃ described, described <+: names ∧ s.Grown ((c.describe (m := Act) names short).run s).2
      (described.flatMap fun name => (StoreCall.info c name).attempts) [] := by
  obtain ⟨described, hdescribed, hgrown⟩ := c.grown_infos names s
  refine ⟨described, hdescribed, ?_⟩
  cases names with
  | nil => exact absurd rfl hnames
  | cons name rest =>
    rw [describe, List.isEmpty_cons, if_neg Bool.false_ne_true, pure_bind,
      Scene.run_bind_pure]
    exact hgrown

/-- Otherwise they are listed first. -/
theorem grown_describe_nil (c : Client) (short : Bool) (s : Scene) :
    (∃ f, ((c.list (m := Act)).run s).1 = .error f ∧
      s.Grown ((c.describe (m := Act) [] short).run s).2 (StoreCall.list c).attempts []) ∨
    ∃ names described, ((c.list (m := Act)).run s).1 = .ok names ∧ described <+: names ∧
      s.Grown ((c.describe (m := Act) [] short).run s).2
        ((StoreCall.list c).attempts ++
          described.flatMap fun name => (StoreCall.info c name).attempts) [] := by
  have hlist := c.grown_list s
  rw [describe, List.isEmpty_nil, if_pos rfl, Scene.run_bind]
  rcases hrun : (c.list (m := Act)).run s with ⟨f | names, listed⟩ <;> rw [hrun] at hlist
  · exact Or.inl ⟨f, rfl, hlist⟩
  · obtain ⟨described, hdescribed, hgrown⟩ := c.grown_infos names listed
    refine Or.inr ⟨names, described, rfl, hdescribed, ?_⟩
    dsimp only
    rw [Scene.run_bind_pure]
    exact hlist.trans hgrown

end Client

end SeriesGateway
