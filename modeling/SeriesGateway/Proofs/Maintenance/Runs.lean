import SeriesGateway.Maintenance
import SeriesGateway.Proofs.Failure
import SeriesGateway.Proofs.Jobs

namespace SeriesGateway

namespace Scene

theorem run_bind {ε α β : Type} (x : ExceptT ε Act α) (next : α → ExceptT ε Act β) (s : Scene) :
    (x >>= next).run s =
      match x.run s with
      | (.ok a, after) => (next a).run after
      | (.error e, after) => (.error e, after) := by
  rw [ExceptT.run_bind]
  change (match x.run s with
    | (r, after) => (match r with
      | .ok a => (next a).run
      | .error e => pure (.error e) : Act (Except ε β)) after) = _
  rcases x.run s with ⟨e | a, after⟩ <;> rfl

/-- What is made of an outcome in the end changes no scene. -/
theorem run_bind_pure {ε α β : Type} (x : ExceptT ε Act α) (f : α → β) (s : Scene) :
    (do return f (← x) : ExceptT ε Act β).run s = ((x.run s).1.map f, (x.run s).2) := by
  rw [run_bind]
  rcases x.run s with ⟨e | a, after⟩ <;> rfl

theorem network_create (s : Scene) (p : PathText) : (s.create p).2.network = s.network := by
  rw [Scene.create]
  split <;> rfl

/-- A job for each of the things that are found. -/
def jobsFor {α β : Type} (find : ExceptT Failure Act (List α)) (width : Nat) (job : α → Act β) :
    ExceptT Failure Act (List β) := do
  let found ← find
  .lift (SideBySide.completions width (found.map job))

section

variable {α β : Type} {find : ExceptT Failure Act (List α)} {width : Nat} {job : α → Act β}
  {s listed : Scene}

theorem run_jobsFor_of_error {f : Failure} (h : find.run s = (.error f, listed)) :
    (jobsFor find width job).run s = (.error f, listed) := by
  rw [jobsFor, run_bind, h]

theorem run_jobsFor_of_ok {found : List α} (h : find.run s = (.ok found, listed)) :
    (jobsFor find width job).run s =
      (.ok (SideBySide.completions width (found.map job) listed).1,
        (SideBySide.completions width (found.map job) listed).2) := by
  rw [jobsFor, run_bind, h]
  rfl

/-- A run that finds something does a job for each of what it has found, in an order in which they
can complete, and keeps what each of them keeps. -/
theorem run_jobsFor_holds (Holds : List α → List β → Scene → Prop)
    (step : ∀ a done outcomes s, Holds done outcomes s →
      Holds (done ++ [a]) (outcomes ++ [(job a s).1]) (job a s).2)
    (hwidth : 0 < width) {found : List α} (h : find.run s = (.ok found, listed))
    (hstart : ∀ choices, Holds [] [] { listed with choices }) :
    ∃ order outcomes after, Schedule.Completes width found order ∧
      (jobsFor find width job).run s = (.ok outcomes, after) ∧ Holds order outcomes after := by
  obtain ⟨hcompletes, hholds⟩ := completions_holds Holds step hwidth found (hstart _)
  exact ⟨_, _, _, hcompletes, run_jobsFor_of_ok h, hholds⟩

/-- So does a run that succeeds. -/
theorem jobsFor_holds (Holds : List α → List β → Scene → Prop)
    (step : ∀ a done outcomes s, Holds done outcomes s →
      Holds (done ++ [a]) (outcomes ++ [(job a s).1]) (job a s).2)
    (hwidth : 0 < width)
    (hfind : ∀ found listed choices, find.run s = (.ok found, listed) →
      Holds [] [] { listed with choices })
    {outcomes : List β} {after : Scene} (h : (jobsFor find width job).run s = (.ok outcomes, after)) :
    ∃ found order, (find.run s).1 = .ok found ∧ Schedule.Completes width found order ∧
      Holds order outcomes after := by
  rcases hrun : find.run s with ⟨f | found, listed⟩
  · rw [run_jobsFor_of_error hrun] at h
    cases h
  · obtain ⟨order, done, final, hcompletes, hjobs, hholds⟩ :=
      run_jobsFor_holds Holds step hwidth hrun fun choices => hfind found listed choices hrun
    rw [hjobs] at h
    cases h
    exact ⟨found, order, rfl, hcompletes, hholds⟩

end

end Scene

namespace Client

variable {c : Client} {o : DumpOptions} {now : Instant}

/-- The databases that a run dumps: the one that is chosen, or all that the store lists. -/
def chosen (c : Client) (o : DumpOptions) : ExceptT Failure Act (List String) :=
  match o.database with
  | some name => pure [name]
  | none => c.list

/-- What is requested to find the databases of a run. -/
def listing (c : Client) (o : DumpOptions) : List (Operation × Request) :=
  if o.database.isNone then [(.list, ⟨.get, c.listUrl⟩)] else []

theorem chosen_cases {s listed : Scene} {found : Except Failure (List String)}
    (h : (c.chosen o).run s = (found, listed)) :
    (∃ name, o.database = some name ∧ found = .ok [name] ∧ listed = s) ∨
      o.database = none ∧ s.perform (.list c) = (found, listed) := by
  cases hdatabase : o.database with
  | some name =>
    rw [chosen, hdatabase] at h
    cases h
    exact Or.inl ⟨name, rfl, rfl, rfl⟩
  | none =>
    rw [chosen, hdatabase] at h
    exact Or.inr ⟨rfl, h⟩

/-- Finding the databases changes no file. -/
theorem frame_of_chosen {s listed : Scene} {found : Except Failure (List String)}
    (h : (c.chosen o).run s = (found, listed)) :
    listed.attempts = s.attempts ++ c.listing o ∧ listed.tree = s.tree ∧ listed.home = s.home := by
  rcases chosen_cases h with ⟨name, hdatabase, -, rfl⟩ | ⟨hdatabase, hlist⟩
  · rw [listing, hdatabase]
    exact ⟨(List.append_nil _).symm, rfl, rfl⟩
  · have hlisted : listed = (s.perform (.list c)).2 := congrArg Prod.snd hlist.symm
    rw [listing, hdatabase, hlisted]
    exact ⟨rfl, rfl, rfl⟩

theorem compactAll_eq (c : Client) (concurrency : Nat) (noop : Bool) :
    c.compactAll (m := Act) concurrency noop =
      Scene.jobsFor c.list (max 1 concurrency) (c.compactOne noop) :=
  rfl

theorem dumpAll_eq (c : Client) (now : Instant) (h : o.checkBounds = .ok ()) :
    c.dumpAll (m := Act) o now =
      Scene.jobsFor (c.chosen o) (max 1 o.concurrency) (c.dumpOne o now) := by
  rw [dumpAll, h, Scene.jobsFor, chosen]
  cases o.database <;> rfl

theorem database_dumpOne (c : Client) (o : DumpOptions) (now : Instant) (name : String)
    (s : Scene) : (c.dumpOne (m := Act) o now name s).1.database = name := by
  rw [dumpOne]
  cases o.noop <;> rfl

theorem run_dumpOne (c : Client) (now : Instant) (name : String) (hnoop : o.noop = false)
    (s : Scene) :
    c.dumpOne (m := Act) o now name s =
      (⟨name, ((c.dumpToFile (m := Act) o (o.target now name) name).run s).1⟩,
        ((c.dumpToFile (m := Act) o (o.target now name) name).run s).2) := by
  rw [dumpOne, hnoop, if_neg Bool.false_ne_true]
  generalize (c.dumpToFile (m := Act) o (o.target now name) name).run = run
  rfl

/-- A dump leaves the files alone; it is the caller who keeps them. -/
theorem tree_dump (c : Client) (name : String) (sink : Sink) (earliest latest : Option String)
    (s : Scene) : (c.dump (m := Act) name sink earliest latest s).2.tree = s.tree ∧
      (c.dump (m := Act) name sink earliest latest s).2.home = s.home := by
  unfold dump
  cases Ask.dump c name sink earliest latest <;> exact ⟨rfl, rfl⟩

theorem run_dumpToFile (c : Client) (o : DumpOptions) (target : PathText) (name : String)
    (s : Scene) :
    (c.dumpToFile (m := Act) o target name).run s =
      match s.create target with
      | (.error f, made) => (.error f, made)
      | (.ok (), made) =>
        match c.dump (m := Act) name {} o.earliest o.latest made with
        | ((.ok written, sink), dumped) => (.ok written, dumped.fill target (Gzip.pack sink.received))
        | ((.error f, _), dumped) => (.error f, dumped.remove target) := by
  have hcreate : (Shelf.create target : ExceptT Failure Act Unit).run s = s.create target := rfl
  rw [dumpToFile, Scene.run_bind, hcreate]
  rcases s.create target with ⟨f | ⟨⟩, made⟩
  · rfl
  · have hlift : (ExceptT.lift (c.dump (m := Act) name {} o.earliest o.latest) :
        ExceptT Failure Act _).run made =
          (.ok (c.dump (m := Act) name {} o.earliest o.latest made).1,
            (c.dump (m := Act) name {} o.earliest o.latest made).2) := rfl
    dsimp only
    rw [Scene.run_bind, hlift]
    rcases c.dump (m := Act) name {} o.earliest o.latest made with
      ⟨⟨f | written, sink⟩, dumped⟩ <;> rfl

section

variable {o : DumpOptions} {target : PathText} {name : String} {s : Scene} {grown : Tree}

theorem run_dumpToFile_of_unmade (c : Client) (o : DumpOptions) (name : String)
    (h : s.tree.create s.home target = (false, grown)) :
    (c.dumpToFile (m := Act) o target name).run s =
      (.error (.storage s!"{target.text} cannot be made"), { s with tree := grown }) := by
  rw [run_dumpToFile, Scene.create, h]

theorem run_dumpToFile_of_made (c : Client) (o : DumpOptions) (name : String)
    (h : s.tree.create s.home target = (true, grown)) :
    (c.dumpToFile (m := Act) o target name).run s =
      match c.dump (m := Act) name {} o.earliest o.latest { s with tree := grown } with
      | ((.ok written, sink), dumped) => (.ok written, dumped.fill target (Gzip.pack sink.received))
      | ((.error f, _), dumped) => (.error f, dumped.remove target) := by
  rw [run_dumpToFile, Scene.create, h]

end

end Client

end SeriesGateway
