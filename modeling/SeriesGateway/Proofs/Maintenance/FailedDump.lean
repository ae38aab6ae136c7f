import SeriesGateway.Proofs.Archive.Tree
import SeriesGateway.Proofs.Maintenance.Runs
import SeriesGateway.Proofs.Store.DumpBody
import SeriesGateway.Proofs.Store.Naming

namespace SeriesGateway

namespace Client

/-- What becomes of the files if a dump into one fails. -/
structure Leaves (before after : Tree) (made : Bool) (place : Place) : Prop where
  elsewhere : ∀ q ≠ place, ∀ content,
    after.find? q = some (.file content) ↔ before.find? q = some (.file content)
  unmade : made = false → before.SameFiles after
  removed : made = true → ∀ content, after.find? place ≠ some (.file content)

namespace Leaves

variable {before after : Tree} {made : Bool} {place : Place}

theorem none_added (h : Leaves before after made place) (q : Place) (content : ByteArray)
    (hq : after.find? q = some (.file content)) : before.find? q = some (.file content) := by
  by_cases hplace : q = place
  · subst hplace
    cases hmade : made with
    | true => exact absurd hq (h.removed hmade content)
    | false => exact (h.unmade hmade q content).2 hq
  · exact (h.elsewhere q hplace content).1 hq

/-- What is lost is the file that stood where the dump was to be written. -/
theorem sameFiles_iff (h : Leaves before after made place) :
    before.SameFiles after ↔
      made = false ∨ ∀ content, before.find? place ≠ some (.file content) := by
  constructor
  · intro hsame
    cases hmade : made with
    | true =>
      exact Or.inr fun content hbefore => h.removed hmade content ((hsame place content).1 hbefore)
    | false => exact Or.inl rfl
  · rintro (hmade | hnone)
    · exact h.unmade hmade
    · intro q content
      refine ⟨fun hbefore => ?_, h.none_added q content⟩
      have hplace : q ≠ place := by
        rintro rfl
        exact hnone content hbefore
      exact (h.elsewhere q hplace content).2 hbefore

end Leaves

theorem leaves_of_dumpToFile {c : Client} {o : DumpOptions} {target : PathText} {name : String}
    {s after : Scene} {f : Failure}
    (h : (c.dumpToFile (m := Act) o target name).run s = (.error f, after)) :
    Leaves s.tree after.tree (s.tree.create s.home target).1 (target.place s.home) := by
  rcases s.tree.create_cases s.home target with ⟨grown, hcreate, hsame⟩ |
    ⟨grown, hcreate, hsame, hplace⟩
  · rw [run_dumpToFile_of_unmade c o name hcreate] at h
    cases h
    rw [hcreate]
    exact ⟨fun q _ content => (hsame q content).symm, fun _ => hsame, nofun⟩
  · rw [run_dumpToFile_of_made c o name hcreate] at h
    obtain ⟨htree, hhome⟩ := c.tree_dump name {} o.earliest o.latest
      { s with tree := grown.put (target.place s.home) (.file .empty) }
    split at h
    · cases h
    · rename_i dumped heq
      rw [heq] at htree hhome
      cases h
      have hremoved : (dumped.remove target).tree =
          (grown.put (target.place s.home) (.file .empty)).erase (target.place s.home) := by
        rw [Scene.remove, htree, hhome]
      rw [hremoved, hcreate]
      refine ⟨fun q hq content => ?_, nofun, fun _ content => ?_⟩
      · rw [Tree.find?_erase_of_ne _ hq, Tree.find?_put_of_ne _ _ hq]
        exact (hsame q content).symm
      · rw [Tree.find?_erase_self _ hplace]
        exact nofun

theorem run_completions_singleton {α : Type} (width : Nat) (job : Act α) (s : Scene) :
    SideBySide.completions width [job] s =
      ([(job { s with choices := s.choices.drop 1 }).1],
        (job { s with choices := s.choices.drop 1 }).2) := by
  have hone : Schedule.completions width s.choices [job] = [job] :=
    List.perm_singleton.1 (Schedule.completions_perm width s.choices [job])
  change (Schedule.completions width s.choices [job]).mapM id
    { s with choices := s.choices.drop 1 } = _
  rw [hone, Scene.mapM_cons]
  rfl

/-- With one database there is one report, of what became of its file. -/
theorem run_dumpAll {c : Client} {o : DumpOptions} {now : Instant} {name : String}
    (hbounds : o.checkBounds = .ok ()) (hdatabase : o.database = some name)
    (hnoop : o.noop = false) (s : Scene) :
    (c.dumpAll (m := Act) o now).run s =
      match (c.dumpToFile (m := Act) o (o.target now name) name).run
        { s with choices := s.choices.drop 1 } with
      | (result, after) => (.ok [⟨name, result⟩], after) := by
  have hchosen : (c.chosen o).run s = (.ok [name], s) := by
    rw [chosen, hdatabase]
    rfl
  rw [dumpAll_eq c now hbounds, Scene.run_jobsFor_of_ok hchosen, List.map_singleton,
    run_completions_singleton, run_dumpOne c now name hnoop]
  rcases (c.dumpToFile (m := Act) o (o.target now name) name).run
    { s with choices := s.choices.drop 1 } with ⟨result, after⟩
  rfl

/-- A dump that fails leaves every file in another place than its own as it was, and adds none. If
its own file could be made, there is none in that place any more; so the files are what they were
exactly if none stood there before, or none could be made. -/
theorem files_after_failed_dump {c : Client} {o : DumpOptions} {now : Instant} {name : String}
    {s after : Scene} {f : Failure} (hdatabase : o.database = some name) (hnoop : o.noop = false)
    (h : (c.dumpAll (m := Act) o now).run s = (.ok [⟨name, .error f⟩], after)) :
    let place := (o.target now name).place s.home
    let made := (s.tree.create s.home (o.target now name)).1
    (∀ q ≠ place, ∀ content,
      after.tree.find? q = some (.file content) ↔ s.tree.find? q = some (.file content)) ∧
    (made = true → ∀ content, after.tree.find? place ≠ some (.file content)) ∧
    (∀ q content, after.tree.find? q = some (.file content) →
      s.tree.find? q = some (.file content)) ∧
    (s.tree.SameFiles after.tree ↔
      made = false ∨ ∀ content, s.tree.find? place ≠ some (.file content)) := by
  intro place made
  have hleaves : Leaves s.tree after.tree made place := by
    cases hbounds : o.checkBounds with
    | error fault =>
      rw [dumpAll, hbounds] at h
      cases h
    | ok =>
      rw [run_dumpAll hbounds hdatabase hnoop] at h
      rcases hrun : (c.dumpToFile (m := Act) o (o.target now name) name).run
        { s with choices := s.choices.drop 1 } with ⟨result, files⟩
      rw [hrun] at h
      cases h
      have hleaves := leaves_of_dumpToFile hrun
      exact hleaves
  exact ⟨hleaves.elsewhere, hleaves.removed, hleaves.none_added, hleaves.sameFiles_iff⟩

theorem exists_dump_of_lost (c : Client) (name : String) (sink : Sink)
    (earliest latest : Option String) {s : Scene} (hdown : s.network.isUp = false) :
    ∃ f after, c.dump (m := Act) name sink earliest latest s = ((.error f, sink), after) := by
  have hlost (r : Request) : s.network.exchange r = (.lost, s.network) := by
    rw [Network.exchange, hdown]
    rfl
  unfold dump
  cases hask : Ask.dump c name sink earliest latest with
  | error f => exact ⟨f, s, rfl⟩
  | ok ask =>
    refine ⟨.transport "no answer arrived", (s.perform ask).2, ?_⟩
    have hanswer : (s.perform ask).1 = (.error (.transport "no answer arrived"), sink) := by
      rw [Scene.perform, hlost]
      exact Ask.answer_of_dump hask .lost
    exact congrArg (·, (s.perform ask).2) hanswer

theorem exists_dumpToFile_of_lost (c : Client) (o : DumpOptions) (target : PathText)
    (name : String) {s : Scene} (hdown : s.network.isUp = false) :
    ∃ f after, (c.dumpToFile (m := Act) o target name).run s = (.error f, after) := by
  have hnetwork := s.network_create target
  rw [run_dumpToFile]
  rcases hcreate : s.create target with ⟨f | ⟨⟩, made⟩ <;> rw [hcreate] at hnetwork
  · exact ⟨f, made, rfl⟩
  · have hlost : made.network.isUp = false := (congrArg Network.isUp hnetwork).trans hdown
    obtain ⟨f, dumped, hdump⟩ := c.exists_dump_of_lost name {} o.earliest o.latest hlost
    exact ⟨f, dumped.remove target, by simp only [hdump]⟩

theorem exists_failed_dump (c : Client) (o : DumpOptions) (now : Instant) {name : String}
    (hbounds : o.checkBounds = .ok ()) (hdatabase : o.database = some name)
    (hnoop : o.noop = false) {s : Scene} (hdown : s.network.isUp = false) :
    ∃ f after, (c.dumpToFile (m := Act) o (o.target now name) name).run
        { s with choices := s.choices.drop 1 } = (.error f, after) ∧
      (c.dumpAll (m := Act) o now).run s = (.ok [⟨name, .error f⟩], after) := by
  obtain ⟨f, after, hrun⟩ := c.exists_dumpToFile_of_lost o (o.target now name) name
    (s := { s with choices := s.choices.drop 1 }) hdown
  refine ⟨f, after, hrun, ?_⟩
  rw [run_dumpAll hbounds hdatabase hnoop, hrun]

/-- A place where no store answers, with one file in it. -/
def offline (file : String) : Scene where
  network := { isUp := false }
  tree := ⟨[([file], .file ⟨#[1, 2, 3]⟩)]⟩

theorem place_offline (file : String) :
    (DumpOptions.target { database := some "metrics" } ⟨0, 0⟩ "metrics").place
      (offline file).home = ["metrics.json.gz"] := by
  change (DumpOptions.target { database := some "metrics" } ⟨0, 0⟩ "metrics").place [] = _
  decide +kernel

/-- A dump that fails leaves the dump of another database. -/
theorem files_after_failed_dump_of_other :
    ∃ f after, (atLocalStore.dumpAll (m := Act) { database := some "metrics" } ⟨0, 0⟩).run
        (offline "logs.json.gz") = (.ok [⟨"metrics", .error f⟩], after) ∧
      (offline "logs.json.gz").tree.SameFiles after.tree := by
  obtain ⟨f, after, -, hall⟩ := exists_failed_dump atLocalStore
    { database := some "metrics" } ⟨0, 0⟩ (s := offline "logs.json.gz") rfl rfl rfl rfl
  refine ⟨f, after, hall, (files_after_failed_dump rfl rfl hall).2.2.2.2 (Or.inr ?_)⟩
  intro content hfile
  have hnone : (offline "logs.json.gz").tree.find? ["metrics.json.gz"] = none := rfl
  rw [place_offline, hnone] at hfile
  cases hfile

/-- A dump that fails takes the file with it that an earlier dump of the database has left. -/
theorem earlier_dump_is_lost :
    ∃ f after, (atLocalStore.dumpAll (m := Act) { database := some "metrics" } ⟨0, 0⟩).run
        (offline "metrics.json.gz") = (.ok [⟨"metrics", .error f⟩], after) ∧
      (offline "metrics.json.gz").tree.find? ["metrics.json.gz"] = some (.file ⟨#[1, 2, 3]⟩) ∧
      ∀ content, after.tree.find? ["metrics.json.gz"] ≠ some (.file content) := by
  obtain ⟨f, after, hrun, hall⟩ := exists_failed_dump atLocalStore
    { database := some "metrics" } ⟨0, 0⟩ (s := offline "metrics.json.gz") rfl rfl rfl rfl
  have hleaves := leaves_of_dumpToFile hrun
  have hplace := hleaves.removed (by decide +kernel)
  exact ⟨f, after, hall, rfl, place_offline _ ▸ hplace⟩

end Client

end SeriesGateway
