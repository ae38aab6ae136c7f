import SeriesGateway.Proofs.Maintenance.FailedDump
import SeriesGateway.Proofs.Store.DumpRequest

namespace SeriesGateway

namespace DumpOptions

/-- A bound that is given and is no timestamp. -/
def IsUnreadable (bound : Option String) : Prop :=
  ∃ given f, bound = some given ∧ given ≠ "" ∧ readInstant given = .error f

/-- A bound that is a timestamp, of an instant that has no 64-bit number of nanoseconds. -/
def IsOutOfRange (bound : Option String) : Prop :=
  ∃ given t, bound = some given ∧ given ≠ "" ∧ readInstant given = .ok t ∧ t.nanoseconds? = none

theorem checkBound_some {given : String} (h : given ≠ "") :
    checkBound (some given) = (readInstant given).map fun _ => () := by
  unfold checkBound
  split
  · rename_i hnone
    cases hnone
  · rename_i hempty
    exact absurd (Option.some.inj hempty) h
  · rename_i hgiven
    cases hgiven
    rfl

theorem checkBound_cases (bound : Option String) :
    (¬ IsUnreadable bound ∧ checkBound bound = .ok ()) ∨
      (IsUnreadable bound ∧ ∃ detail, checkBound bound = .error (.timestamp detail)) := by
  cases bound with
  | none =>
    refine Or.inl ⟨?_, rfl⟩
    rintro ⟨given, f, hgiven, -⟩
    cases hgiven
  | some given =>
    by_cases hempty : given = ""
    · subst hempty
      refine Or.inl ⟨?_, rfl⟩
      rintro ⟨given, f, hgiven, hne, -⟩
      exact hne (Option.some.inj hgiven).symm
    · rw [checkBound_some hempty]
      cases hread : readInstant given with
      | ok t =>
        refine Or.inl ⟨?_, rfl⟩
        rintro ⟨given, f, hgiven, -, hf⟩
        rw [← Option.some.inj hgiven, hread] at hf
        cases hf
      | error f =>
        obtain ⟨detail, rfl⟩ := isTimestamp_of_readInstant hread
        exact Or.inr ⟨⟨given, _, rfl, hempty, hread⟩, detail, rfl⟩

variable {o : DumpOptions}

theorem checkBounds_cases (o : DumpOptions) :
    (¬ (IsUnreadable o.earliest ∨ IsUnreadable o.latest) ∧ o.checkBounds = .ok ()) ∨
      ((IsUnreadable o.earliest ∨ IsUnreadable o.latest) ∧
        ∃ detail, o.checkBounds = .error (.timestamp detail)) := by
  unfold checkBounds
  rcases checkBound_cases o.earliest with ⟨hearliest, hcheck⟩ | ⟨hearliest, detail, hcheck⟩ <;>
    rw [hcheck]
  · rcases checkBound_cases o.latest with ⟨hlatest, hcheck⟩ | ⟨hlatest, detail, hcheck⟩ <;>
      rw [hcheck]
    · exact Or.inl ⟨not_or.2 ⟨hearliest, hlatest⟩, rfl⟩
    · exact Or.inr ⟨Or.inr hlatest, detail, rfl⟩
  · exact Or.inr ⟨Or.inl hearliest, detail, rfl⟩

end DumpOptions

namespace Ask

open DumpOptions

theorem isUnsendable_of_isOutOfRange {bound : Option String} (h : IsOutOfRange bound) :
    IsUnsendable bound := by
  obtain ⟨given, t, rfl, hne, hread, hnanos⟩ := h
  rw [isUnsendable_some_iff hne, hread]
  rintro _ ⟨⟩
  exact hnanos

/-- A dump with a bound out of range is never asked for. -/
theorem dump_of_isOutOfRange {earliest latest : Option String}
    (h : IsOutOfRange earliest ∨ IsOutOfRange latest) :
    ∃ detail, ∀ (c : Client) (name : String) (sink : Sink),
      dump c name sink earliest latest = .error (.timestamp detail) := by
  have hunsendable : IsUnsendable earliest ∨ IsUnsendable latest :=
    h.imp isUnsendable_of_isOutOfRange isUnsendable_of_isOutOfRange
  obtain ⟨hsendable, -⟩ | ⟨-, hfails⟩ := dump_asks_or_fails earliest latest
  · exact absurd hunsendable hsendable
  · exact hfails

end Ask

namespace Client

variable {c : Client} {o : DumpOptions} {now : Instant} {detail : String}

/-- No failure of the listing is one of a timestamp. -/
theorem list_ne_timestamp (c : Client) (s : Scene) (detail : String) :
    ((c.list (m := Act)).run s).1 ≠ .error (.timestamp detail) := by
  change readJson "list of names" readNames? _ ≠ _
  intro h
  obtain h | ⟨body, -, h⟩ := bind_eq_error_iff.1 h
  · unfold Arrival.success at h
    split at h <;> cases h
  obtain h | ⟨bytes, -, h⟩ := bind_eq_error_iff.1 h
  · unfold Body.whole at h
    split_ifs at h
    cases h
  · unfold orUnreadable at h
    split at h <;> cases h

theorem chosen_ne_timestamp (c : Client) (o : DumpOptions) (s : Scene) (detail : String) :
    ((c.chosen o).run s).1 ≠ .error (.timestamp detail) := by
  rcases hchosen : (c.chosen o).run s with ⟨found, listed⟩
  rcases chosen_cases hchosen with ⟨name, -, rfl, -⟩ | ⟨-, hlist⟩
  · exact nofun
  · have hfound := list_ne_timestamp c s detail
    change (s.perform (.list c)).1 ≠ _ at hfound
    rwa [hlist] at hfound

/-- A dump that cannot be asked for requests nothing. Its file goes again, if it could be made. -/
theorem dumpToFile_of_unasked {o : DumpOptions} {name : String}
    (hask : Ask.dump c name {} o.earliest o.latest = .error (.timestamp detail))
    (target : PathText) (s : Scene) :
    ∃ f after, (c.dumpToFile (m := Act) o target name).run s = (.error f, after) ∧
      (f = .timestamp detail ∧ (s.tree.create s.home target).1 = true ∨
        (∃ cause, f = .storage cause) ∧ (s.tree.create s.home target).1 ≠ true) ∧
      after.attempts = s.attempts ∧ after.home = s.home := by
  have hdump (made : Scene) : c.dump (m := Act) name {} o.earliest o.latest made =
      ((.error (.timestamp detail), {}), made) := by
    unfold dump
    rw [hask]
    rfl
  rcases hcreate : s.tree.create s.home target with ⟨_ | _, grown⟩
  · rw [run_dumpToFile_of_unmade c o name hcreate]
    exact ⟨_, _, rfl, Or.inr ⟨⟨_, rfl⟩, nofun⟩, rfl, rfl⟩
  · rw [run_dumpToFile_of_made c o name hcreate, hdump]
    exact ⟨_, _, rfl, Or.inl ⟨rfl, rfl⟩, rfl, rfl⟩

/-- What dumps leave that cannot be asked for. Nothing is requested; no file is there that was not
there before, and none is missing but from the places of the dumps. -/
structure Unsent (c : Client) (o : DumpOptions) (now : Instant) (detail : String) (s : Scene)
    (done : List String) (outcomes : List (Outcome Nat)) (after : Scene) : Prop where
  databases : outcomes.map Outcome.database = done
  failed : ∀ r ∈ outcomes, r.result = .error (.timestamp detail) ∨
    ∃ cause, r.result = .error (.storage cause)
  emptied : ∀ r ∈ outcomes, r.result = .error (.timestamp detail) →
    ∀ content, after.tree.find? ((o.target now r.database).place s.home) ≠ some (.file content)
  attempts : after.attempts = s.attempts
  home : after.home = s.home
  none_added : ∀ q content, after.tree.find? q = some (.file content) →
    s.tree.find? q = some (.file content)
  kept : ∀ q content, s.tree.find? q = some (.file content) →
    (∀ name ∈ done, (o.target now name).place s.home ≠ q) →
    after.tree.find? q = some (.file content)

theorem Unsent.nil (c : Client) (o : DumpOptions) (now : Instant) (detail : String) (s : Scene)
    (choices : List Nat) : Unsent c o now detail s [] [] { s with choices } :=
  ⟨rfl, nofun, nofun, rfl, rfl, fun _ _ h => h, fun _ _ h _ => h⟩

theorem Unsent.dumpOne {s t : Scene} {done : List String} {outcomes : List (Outcome Nat)}
    (hnoop : o.noop = false)
    (hask : ∀ name, Ask.dump c name {} o.earliest o.latest = .error (.timestamp detail))
    (h : Unsent c o now detail s done outcomes t) (name : String) :
    Unsent c o now detail s (done ++ [name])
      (outcomes ++ [(c.dumpOne (m := Act) o now name t).1])
      (c.dumpOne (m := Act) o now name t).2 := by
  obtain ⟨f, after, hrun, hf, hattempts, hhome⟩ :=
    dumpToFile_of_unasked (hask name) (o.target now name) t
  have hleaves := leaves_of_dumpToFile hrun
  rw [h.home] at hf hleaves
  rw [run_dumpOne c now name hnoop, hrun]
  refine ⟨?_, ?_, ?_, hattempts.trans h.attempts, hhome.trans h.home, ?_, ?_⟩
  · rw [List.map_append, h.databases]
    rfl
  · intro r hr
    rcases List.mem_append.1 hr with hr | hr
    · exact h.failed r hr
    · rw [List.mem_singleton.1 hr]
      exact hf.imp (fun hf => congrArg _ hf.1) fun ⟨⟨cause, hcause⟩, _⟩ =>
        ⟨cause, congrArg _ hcause⟩
  · intro r hr hresult content hfile
    rcases List.mem_append.1 hr with hr | hr
    · -- No dump of this kind adds a file, so a place that was emptied stays so.
      exact h.emptied r hr hresult content (hleaves.none_added _ content hfile)
    · rw [List.mem_singleton.1 hr] at hresult hfile
      rcases hf with ⟨-, hmade⟩ | ⟨⟨cause, rfl⟩, -⟩
      · exact hleaves.removed hmade content hfile
      · cases hresult
  · exact fun q content hq => h.none_added q content (hleaves.none_added q content hq)
  · intro q content hq hplaces
    have hplace : q ≠ (o.target now name).place s.home := (hplaces name (by simp)).symm
    have hkept := h.kept q content hq fun other hother =>
      hplaces other (List.mem_append_left _ hother)
    exact (hleaves.elsewhere q hplace content).2 hkept

/-- All dumps of a run whose bounds are out of range. -/
theorem run_dumpAll_of_unasked (now : Instant) (hnoop : o.noop = false)
    (hbounds : o.checkBounds = .ok ())
    (hask : ∀ name, Ask.dump c name {} o.earliest o.latest = .error (.timestamp detail))
    {s listed : Scene} {names : List String}
    (hchosen : (c.chosen o).run s = (.ok names, listed)) :
    ∃ order outcomes after, Schedule.Completes (max 1 o.concurrency) names order ∧
      (c.dumpAll (m := Act) o now).run s = (.ok outcomes, after) ∧
      Unsent c o now detail listed order outcomes after := by
  rw [dumpAll_eq c now hbounds]
  exact Scene.run_jobsFor_holds (Unsent c o now detail listed)
    (fun name _ _ _ hdone => hdone.dumpOne hnoop hask name)
    (lt_max_of_lt_left Nat.zero_lt_one) hchosen (.nil c o now detail listed)

/-- A run of dumps fails as a whole for a bound exactly if one is no timestamp, and then nothing has
happened. For a bound that is out of range it does not: the databases are listed, and each of them
has a failure of its own, for which its file has been made and taken away again. -/
theorem bounds_of_dumpAll (c : Client) (o : DumpOptions) (now : Instant) :
    let unreadable := DumpOptions.IsUnreadable o.earliest ∨ DumpOptions.IsUnreadable o.latest
    (unreadable → ∃ detail, ∀ s,
      (c.dumpAll (m := Act) o now).run s = (.error (.timestamp detail), s)) ∧
    (¬unreadable → ∀ s detail, ((c.dumpAll (m := Act) o now).run s).1 ≠
      .error (.timestamp detail)) ∧
    (¬unreadable → DumpOptions.IsOutOfRange o.earliest ∨ DumpOptions.IsOutOfRange o.latest →
      o.noop = false → ∃ detail, ∀ s names listed, (c.chosen o).run s = (.ok names, listed) →
        ∃ outcomes after, (c.dumpAll (m := Act) o now).run s = (.ok outcomes, after) ∧
          Schedule.Completes (max 1 o.concurrency) names (outcomes.map Outcome.database) ∧
          after.attempts = s.attempts ++ c.listing o ∧
          (∀ r ∈ outcomes, r.result = .error (.timestamp detail) ∨
            ∃ cause, r.result = .error (.storage cause)) ∧
          (∀ r ∈ outcomes, r.result = .error (.timestamp detail) → ∀ content,
            after.tree.find? ((o.target now r.database).place s.home) ≠ some (.file content)) ∧
          ∀ q content, (∀ r ∈ outcomes, (o.target now r.database).place s.home ≠ q) →
            (after.tree.find? q = some (.file content) ↔
              s.tree.find? q = some (.file content))) := by
  intro unreadable
  rcases o.checkBounds_cases with ⟨hreadable, hbounds⟩ | ⟨hunreadable, detail, hbounds⟩
  · refine ⟨fun h => absurd h hreadable, fun _ s detail => ?_, fun _ hfar hnoop => ?_⟩
    · rw [dumpAll_eq c now hbounds]
      rcases hchosen : (c.chosen o).run s with ⟨f | names, listed⟩
      · rw [Scene.run_jobsFor_of_error hchosen]
        rintro ⟨⟩
        exact chosen_ne_timestamp c o s detail (congrArg Prod.fst hchosen)
      · rw [Scene.run_jobsFor_of_ok hchosen]
        exact nofun
    · obtain ⟨detail, hask⟩ := Ask.dump_of_isOutOfRange hfar
      refine ⟨detail, fun s names listed hchosen => ?_⟩
      obtain ⟨order, outcomes, after, hcompletes, hrun, hdone⟩ :=
        run_dumpAll_of_unasked now hnoop hbounds (fun name => hask c name {}) hchosen
      obtain ⟨hattempts, htree, hhome⟩ := frame_of_chosen hchosen
      refine ⟨outcomes, after, hrun, hdone.databases ▸ hcompletes, hdone.attempts.trans hattempts,
        hdone.failed, hhome ▸ hdone.emptied, fun q content hplaces => ⟨fun hq => ?_, fun hq => ?_⟩⟩
      · exact htree ▸ hdone.none_added q content hq
      · refine hdone.kept q content (htree ▸ hq) ?_
        rw [← hdone.databases, hhome]
        simpa using hplaces
  · refine ⟨fun _ => ⟨detail, fun s => ?_⟩, fun h => absurd hunreadable h,
      fun h => absurd hunreadable h⟩
    rw [dumpAll, hbounds]
    rfl

/-- A bound that is no timestamp ends a run before anything; one in the year 3000 is found out with
each database. -/
theorem bounds_of_dumpAll_of_unreadable_and_far :
    (∃ detail, ∀ s, (atLocalStore.dumpAll (m := Act) { earliest := some "whenever" } ⟨0, 0⟩).run s =
      (.error (.timestamp detail), s)) ∧
    ∃ detail outcomes after,
      (atLocalStore.dumpAll (m := Act) { database := some "metrics", latest := some "3000" }
        ⟨0, 0⟩).run (offline "logs.json.gz") = (.ok outcomes, after) ∧
      outcomes.map Outcome.database = ["metrics"] ∧
      ∀ r ∈ outcomes, r.result = .error (.timestamp detail) ∨
        ∃ cause, r.result = .error (.storage cause) := by
  have hunreadable : DumpOptions.IsUnreadable (some "whenever") :=
    ⟨"whenever", .timestamp "whenever", rfl, by decide, by decide +kernel⟩
  have hread : readInstant "3000" = .ok ⟨32503680000, 0⟩ := by decide +kernel
  have hfar : DumpOptions.IsOutOfRange (some "3000") :=
    ⟨"3000", _, rfl, by decide, hread, by decide⟩
  have hreadable : ¬(DumpOptions.IsUnreadable none ∨ DumpOptions.IsUnreadable (some "3000")) := by
    rintro (⟨given, f, hgiven, -⟩ | ⟨given, f, hgiven, -, hf⟩)
    · cases hgiven
    · cases hgiven
      rw [hread] at hf
      cases hf
  refine ⟨(bounds_of_dumpAll atLocalStore { earliest := some "whenever" } ⟨0, 0⟩).1
    (Or.inl hunreadable), ?_⟩
  obtain ⟨detail, hruns⟩ := (bounds_of_dumpAll atLocalStore
    { database := some "metrics", latest := some "3000" } ⟨0, 0⟩).2.2 hreadable (Or.inr hfar) rfl
  obtain ⟨outcomes, after, hrun, hcompletes, -, hfailed, -⟩ :=
    hruns (offline "logs.json.gz") ["metrics"] _ rfl
  exact ⟨detail, outcomes, after, hrun, List.perm_singleton.1 hcompletes.perm, hfailed⟩

/-- For a bound in the year 3000 the databases are listed, and a dump costs the file that an earlier
one has left. -/
theorem far_bound_is_found_too_late :
    let s := offline "metrics.json.gz"
    readInstant "3000" = .ok ⟨32503680000, 0⟩ ∧
      Instant.nanoseconds? ⟨32503680000, 0⟩ = none ∧
      (∃ after, (atLocalStore.dumpAll (m := Act) { latest := some "3000" } ⟨0, 0⟩).run s =
          (.error (.transport "no answer arrived"), after) ∧
        after.attempts = [(.list, ⟨.get, atLocalStore.listUrl⟩)]) ∧
      ∃ after, (atLocalStore.dumpAll (m := Act)
          { database := some "metrics", latest := some "3000" } ⟨0, 0⟩).run s =
          (.ok [⟨"metrics", .error (.timestamp "to out of range: 3000")⟩], after) ∧
        s.tree.find? ["metrics.json.gz"] = some (.file ⟨#[1, 2, 3]⟩) ∧
        ∀ content, after.tree.find? ["metrics.json.gz"] ≠ some (.file content) := by
  intro s
  refine ⟨by decide +kernel, by decide, ?_, ?_⟩
  · let all : DumpOptions := { latest := some "3000" }
    have hbounds : all.checkBounds = .ok () := by decide +kernel
    have hlost : ((atLocalStore.chosen all).run s).1 = .error (.transport "no answer arrived") := by
      decide +kernel
    have hlisted : (atLocalStore.chosen all).run s =
        (.error (.transport "no answer arrived"), (s.perform (.list atLocalStore)).2) :=
      Prod.ext hlost rfl
    refine ⟨(s.perform (.list atLocalStore)).2, ?_, rfl⟩
    rw [dumpAll_eq atLocalStore ⟨0, 0⟩ hbounds, Scene.run_jobsFor_of_error hlisted]
  · let one : DumpOptions := { database := some "metrics", latest := some "3000" }
    have hbounds : one.checkBounds = .ok () := by decide +kernel
    have hfirst : Ask.bound "from" one.earliest = .ok [] := rfl
    have hlast : Ask.bound "to" one.latest = .error (.timestamp "to out of range: 3000") := by
      decide +kernel
    have hask : Ask.dump atLocalStore "metrics" {} one.earliest one.latest =
        .error (.timestamp "to out of range: 3000") := by
      rw [Ask.dump, hfirst, hlast]
      rfl
    have hmade : (s.tree.create s.home (one.target ⟨0, 0⟩ "metrics")).1 = true := by
      decide +kernel
    obtain ⟨f, after, hrun, ⟨rfl, -⟩ | ⟨-, hunmade⟩, -⟩ := dumpToFile_of_unasked hask
      (one.target ⟨0, 0⟩ "metrics") { s with choices := s.choices.drop 1 }
    · have hplace := (leaves_of_dumpToFile hrun).removed hmade
      refine ⟨after, ?_, rfl, place_offline _ ▸ hplace⟩
      rw [run_dumpAll hbounds rfl rfl, hrun]
    · exact absurd hmade hunmade

end Client

end SeriesGateway
