import SeriesGateway.Proofs.Archive.Gzip
import SeriesGateway.Proofs.Archive.Tree
import SeriesGateway.Proofs.Maintenance.Runs
import SeriesGateway.Proofs.Store.DumpBody
import SeriesGateway.Proofs.Store.Naming

namespace SeriesGateway

/-- Whoever unpacks the file in a place finds these bytes. -/
def Tree.Holds (t : Tree) (place : Place) (bytes : ByteArray) : Prop :=
  ∃ file, t.find? place = some (.file file) ∧ Gzip.unpack? file = some bytes

theorem Tree.holds_of_pack {t : Tree} {place : Place} {bytes : ByteArray}
    (h : t.find? place = some (.file (Gzip.pack bytes))) : t.Holds place bytes :=
  ⟨Gzip.pack bytes, h, Gzip.unpack?_pack bytes⟩

theorem Tree.Holds.unique {t : Tree} {place : Place} {bytes others : ByteArray}
    (h : t.Holds place bytes) (hothers : t.Holds place others) : bytes = others := by
  obtain ⟨file, hfile, hbytes⟩ := h
  obtain ⟨same, hsame, hunpacked⟩ := hothers
  cases hfile.symm.trans hsame
  exact Option.some.inj (hbytes.symm.trans hunpacked)

namespace Client

variable {c : Client} {o : DumpOptions} {now : Instant} {reply : Request → Arrival}
  {s t after : Scene} {name : String}

/-- What a dump into a file leaves that succeeds. -/
theorem dumpToFile_of_answers (h : s.network.Answers reply) {target : PathText} {written : Nat}
    (hrun : (c.dumpToFile (m := Act) o target name).run s = (.ok written, after)) :
    ∃ bytes, c.dumpBody o reply name = .ok bytes ∧ written = bytes.size ∧
      after.tree.find? (target.place s.home) = some (.file (Gzip.pack bytes)) ∧
      (∀ q ≠ target.place s.home, ∀ content,
        after.tree.find? q = some (.file content) ↔ s.tree.find? q = some (.file content)) ∧
      after.home = s.home ∧ after.network.Answers reply := by
  rcases s.tree.create_cases s.home target with ⟨grown, hcreate, -⟩ |
    ⟨grown, hcreate, hsame, hplace⟩
  · rw [run_dumpToFile_of_unmade c o name hcreate] at hrun
    cases hrun
  · rw [run_dumpToFile_of_made c o name hcreate] at hrun
    obtain ⟨htree, hhome⟩ := c.tree_dump name {} o.earliest o.latest
      { s with tree := grown.put (target.place s.home) (.file .empty) }
    split at hrun
    · rename_i count sink dumped hdump
      rw [hdump] at htree hhome
      cases hrun
      obtain ⟨bytes, hbytes, hsize, hreceived, hnetwork⟩ := dump_of_answers hdump h
      have hfilled : (dumped.fill target (Gzip.pack sink.received)).tree =
          (grown.put (target.place s.home) (.file .empty)).put (target.place s.home)
            (.file (Gzip.pack bytes)) := by
        rw [Scene.fill, htree, hhome, hreceived]
      refine ⟨bytes, hbytes, hsize, ?_, fun q hq content => ?_, hhome, hnetwork⟩
      · rw [hfilled, Tree.find?_put_self _ _ hplace]
      · rw [hfilled, Tree.find?_put_of_ne _ _ hq, Tree.find?_put_of_ne _ _ hq]
        exact (hsame q content).symm
    · cases hrun

/-- What is true of dumps that have all succeeded: each has reported the size of its body, and in
its place stands that body, packed, unless a later one leads there. -/
structure Dumped (c : Client) (o : DumpOptions) (now : Instant) (reply : Request → Arrival)
    (here : Place) (done : List String) (outcomes : List (Outcome Nat)) (s : Scene) : Prop where
  answers : s.network.Answers reply
  home : s.home = here
  databases : outcomes.map Outcome.database = done
  results : ∀ r ∈ outcomes, ∃ bytes, c.dumpBody o reply r.database = .ok bytes ∧
    r.result = .ok bytes.size
  last : ∀ before r later, outcomes = before ++ r :: later →
    (∀ other ∈ later, (o.target now other.database).place here ≠
      (o.target now r.database).place here) →
    ∃ bytes, c.dumpBody o reply r.database = .ok bytes ∧
      s.tree.find? ((o.target now r.database).place here) = some (.file (Gzip.pack bytes))

theorem Dumped.nil {here : Place} (hanswers : s.network.Answers reply) (hhome : s.home = here)
    {choices : List Nat} : Dumped c o now reply here [] [] { s with choices } where
  answers := hanswers
  home := hhome
  databases := rfl
  results := nofun
  last before r later hsplit := by simp at hsplit

theorem Dumped.dumpOne {done : List String} {outcomes : List (Outcome Nat)} {here : Place}
    (h : Dumped c o now reply here done outcomes t) (hnoop : o.noop = false) {r : Outcome Nat}
    (hok : r.isOk) (hrun : c.dumpOne (m := Act) o now name t = (r, after)) :
    Dumped c o now reply here (done ++ [name]) (outcomes ++ [r]) after := by
  rw [run_dumpOne c now name hnoop] at hrun
  rcases hfile : (c.dumpToFile (m := Act) o (o.target now name) name).run t with
    ⟨f | written, filled⟩ <;> rw [hfile] at hrun <;> cases hrun
  · cases hok
  obtain ⟨bytes, hbytes, rfl, hplace, helsewhere, hhome, hanswers⟩ :=
    dumpToFile_of_answers h.answers hfile
  rw [h.home] at hplace helsewhere
  refine ⟨hanswers, hhome.trans h.home, ?_, ?_, ?_⟩
  · rw [List.map_append, h.databases]
    rfl
  · intro q hq
    rcases List.mem_append.1 hq with hq | hq
    · exact h.results q hq
    · rw [List.mem_singleton.1 hq]
      exact ⟨bytes, hbytes, rfl⟩
  · intro before q later hsplit hlater
    -- The last report is the new one, or an earlier one whose place the new one leaves alone.
    rcases List.eq_nil_or_concat later with rfl | ⟨front, r, rfl⟩
    · obtain ⟨-, hq⟩ := List.append_inj' hsplit rfl
      cases hq
      exact ⟨bytes, hbytes, hplace⟩
    · rw [List.concat_eq_append, ← List.cons_append, ← List.append_assoc] at hsplit
      obtain ⟨hfront, hr⟩ := List.append_inj' hsplit rfl
      cases hr
      rw [List.concat_eq_append] at hlater
      obtain ⟨content, hcontent, hkept⟩ := h.last before q front hfront fun other hother =>
        hlater other (List.mem_append_left _ hother)
      have hne := hlater _ (List.mem_append_right _ (List.mem_singleton_self _))
      exact ⟨content, hcontent, (helsewhere _ hne.symm _).2 hkept⟩

theorem answers_of_chosen (h : s.network.Answers reply) {found : Except Failure (List String)}
    (hchosen : (c.chosen o).run s = (found, t)) : t.network.Answers reply := by
  rcases chosen_cases hchosen with ⟨name, -, -, rfl⟩ | ⟨-, hlist⟩
  · exact h
  · have hlisted := Scene.answers_perform h (.list c)
    rwa [hlist] at hlisted

/-- A run of dumps, one at a time, that all succeed. -/
theorem dumped_of_dumpAll (h : s.network.Answers reply) (hnoop : o.noop = false)
    (hone : o.concurrency ≤ 1) {outcomes : List (Outcome Nat)}
    (hrun : (c.dumpAll (m := Act) o now).run s = (.ok outcomes, after))
    (hok : ∀ r ∈ outcomes, r.isOk) :
    ∃ names, ((c.chosen o).run s).1 = .ok names ∧
      Dumped c o now reply s.home names outcomes after := by
  cases hbounds : o.checkBounds with
  | error f =>
    rw [dumpAll, hbounds] at hrun
    cases hrun
  | ok =>
    rw [dumpAll_eq c now hbounds, Nat.max_eq_left hone] at hrun
    -- A dump that fails ends what is known, so the invariant speaks of successes only.
    obtain ⟨names, order, hnames, hcompletes, hdumped⟩ := Scene.jobsFor_holds
      (fun done outcomes t => (∀ r ∈ outcomes, r.isOk) → Dumped c o now reply s.home done outcomes t)
      (fun name done outcomes t ih hall =>
        (ih fun r hr => hall r (List.mem_append_left _ hr)).dumpOne hnoop
          (hall _ (List.mem_append_right _ (List.mem_singleton_self _))) rfl)
      Nat.zero_lt_one
      (fun found listed choices hchosen _ =>
        .nil (answers_of_chosen h hchosen) (frame_of_chosen hchosen).2.2) hrun
    rw [hcompletes.eq_of_one] at hdumped
    exact ⟨names, hnames, hdumped hok⟩

/-- Of the reports that lead to one place there is a last one. -/
theorem exists_last {outcomes : List (Outcome Nat)} (place : String → Place) {r : Outcome Nat}
    (hr : r ∈ outcomes) :
    ∃ before last later, outcomes = before ++ last :: later ∧
      place last.database = place r.database ∧
      ∀ other ∈ later, place other.database ≠ place last.database := by
  have hsome : (outcomes.reverse.find? fun q => place q.database = place r.database).isSome := by
    rw [List.find?_isSome]
    exact ⟨r, List.mem_reverse.2 hr, decide_eq_true rfl⟩
  obtain ⟨last, hlast⟩ := Option.isSome_iff_exists.1 hsome
  obtain ⟨hplace, front, back, hreverse, hfront⟩ := List.find?_eq_some_iff_append.1 hlast
  rw [decide_eq_true_eq] at hplace
  have hsplit := congrArg List.reverse hreverse
  rw [List.reverse_reverse, List.reverse_append, List.reverse_cons, List.append_assoc,
    List.singleton_append] at hsplit
  refine ⟨back.reverse, last, front.reverse, hsplit, hplace, fun other hother => ?_⟩
  have hother := hfront other (List.mem_reverse.1 hother)
  rw [hplace]
  simpa using hother

/-- A run of dumps, one at a time, that all succeed. Each reports the length of the body that
answers its request; the file in its place unpacks to that body unless a later one leads there. So
all bodies can be had from their files exactly if the dumps that lead to one place have the same
body. -/
theorem files_after_dumps (h : s.network.Answers reply) (hnoop : o.noop = false)
    (hone : o.concurrency ≤ 1) {outcomes : List (Outcome Nat)}
    (hrun : (c.dumpAll (m := Act) o now).run s = (.ok outcomes, after))
    (hok : ∀ r ∈ outcomes, r.isOk) :
    let place name := (o.target now name).place s.home
    let kept (r : Outcome Nat) := ∃ bytes, c.dumpBody o reply r.database = .ok bytes ∧
      after.tree.Holds (place r.database) bytes
    ((c.chosen o).run s).1 = .ok (outcomes.map Outcome.database) ∧
    (∀ r ∈ outcomes, ∃ bytes, c.dumpBody o reply r.database = .ok bytes ∧
      r.result = .ok bytes.size) ∧
    (∀ before r later, outcomes = before ++ r :: later →
      (∀ other ∈ later, place other.database ≠ place r.database) → kept r) ∧
    ((∀ r ∈ outcomes, kept r) ↔ ∀ r ∈ outcomes, ∀ q ∈ outcomes,
      place r.database = place q.database →
        c.dumpBody o reply r.database = c.dumpBody o reply q.database) := by
  intro place kept
  obtain ⟨names, hnames, hdumped⟩ := dumped_of_dumpAll h hnoop hone hrun hok
  have hlast : ∀ before r later, outcomes = before ++ r :: later →
      (∀ other ∈ later, place other.database ≠ place r.database) → kept r := by
    intro before r later hsplit hlater
    obtain ⟨bytes, hbytes, hfile⟩ := hdumped.last before r later hsplit hlater
    exact ⟨bytes, hbytes, Tree.holds_of_pack hfile⟩
  refine ⟨hdumped.databases ▸ hnames, hdumped.results, hlast, fun hkept => ?_, fun hsame => ?_⟩
  · intro r hr q hq hplace
    obtain ⟨bytes, hbytes, hfile⟩ := hkept r hr
    obtain ⟨content, hcontent, hother⟩ := hkept q hq
    rw [← hplace] at hother
    rw [hbytes, hcontent, hfile.unique hother]
  · intro r hr
    obtain ⟨before, last, later, hsplit, hplace, hlater⟩ := exists_last place hr
    obtain ⟨bytes, hbytes, hfile⟩ := hlast before last later hsplit hlater
    have hmem : last ∈ outcomes := by
      rw [hsplit]
      exact List.mem_append_right _ (List.mem_cons_self ..)
    exact ⟨bytes, (hsame r hr last hmem hplace.symm).trans hbytes, hplace ▸ hfile⟩

/-- A store of two databases with different dumps. -/
def twoDatabases : Scene where
  network :=
    { script := ⟨[("GET /_all_dbs", [{ body := "[\"a\",\"b\"]" }]),
        ("GET /a/_dump", [{ body := "one" }]), ("GET /b/_dump", [{ body := "two!" }])]⟩ }

/-- What is answered to a request for either. -/
def replyOfTwo (r : Request) : Arrival :=
  (twoDatabases.network.exchange r).1

theorem answers_of_two : twoDatabases.network.Answers replyOfTwo := by
  apply Network.answers_of_isSteady
  change ∀ entry ∈ twoDatabases.network.script.routes, entry.2.length ≤ 1
  decide +kernel

/-- What a run reports, as data that can be compared. -/
def reportsOfTwo (pattern : String) : Except Failure (List (String × Except Failure Nat)) :=
  ((atLocalStore.dumpAll (m := Act) { pattern, concurrency := 1 } ⟨0, 0⟩).run twoDatabases).1.map
    (List.map fun r => (r.database, r.result))

theorem run_of_two {pattern : String}
    (h : reportsOfTwo pattern = .ok [("a", .ok 3), ("b", .ok 4)]) :
    ∃ after, (atLocalStore.dumpAll (m := Act) { pattern, concurrency := 1 } ⟨0, 0⟩).run
      twoDatabases = (.ok [⟨"a", .ok 3⟩, ⟨"b", .ok 4⟩], after) := by
  unfold reportsOfTwo at h
  rcases hrun : (atLocalStore.dumpAll (m := Act) { pattern, concurrency := 1 } ⟨0, 0⟩).run
    twoDatabases with ⟨f | outcomes, after⟩ <;> rw [hrun] at h
  · cases h
  · have hreports := congrArg (List.map fun p => Outcome.mk p.1 p.2) (Except.ok.inj h)
    rw [List.map_map] at hreports
    have houtcomes : outcomes = [⟨"a", .ok 3⟩, ⟨"b", .ok 4⟩] :=
      (List.map_id' outcomes).symm.trans hreports
    exact ⟨after, by rw [houtcomes]⟩

theorem isOk_of_two : ∀ r ∈ [(⟨"a", .ok 3⟩ : Outcome Nat), ⟨"b", .ok 4⟩], r.isOk := by
  simp [Outcome.isOk]

theorem dumpBody_of_two (o : DumpOptions) (h : o.earliest = none ∧ o.latest = none) :
    atLocalStore.dumpBody o replyOfTwo "a" = .ok "one".toUTF8 ∧
      atLocalStore.dumpBody o replyOfTwo "b" = .ok "two!".toUTF8 := by
  rw [dumpBody, dumpBody, h.1, h.2]
  decide +kernel

/-- Both databases are in their files. -/
theorem files_after_dumps_of_two :
    ∃ outcomes after, (atLocalStore.dumpAll (m := Act) { concurrency := 1 } ⟨0, 0⟩).run
        twoDatabases = (.ok outcomes, after) ∧
      outcomes.map Outcome.database = ["a", "b"] ∧
      after.tree.Holds ["a.json.gz"] "one".toUTF8 ∧ after.tree.Holds ["b.json.gz"] "two!".toUTF8 := by
  have hreports : reportsOfTwo defaultArchivePattern = .ok [("a", .ok 3), ("b", .ok 4)] := by
    decide +kernel
  obtain ⟨after, hrun⟩ := run_of_two hreports
  obtain ⟨hfirst, hsecond⟩ := dumpBody_of_two { concurrency := 1 } ⟨rfl, rfl⟩
  have hplace : (DumpOptions.target { concurrency := 1 } ⟨0, 0⟩ "a").place twoDatabases.home =
      ["a.json.gz"] := by
    decide +kernel
  have hother : (DumpOptions.target { concurrency := 1 } ⟨0, 0⟩ "b").place twoDatabases.home =
      ["b.json.gz"] := by
    decide +kernel
  obtain ⟨-, -, -, hkept⟩ := files_after_dumps answers_of_two rfl le_rfl hrun isOk_of_two
  have hall := hkept.2 fun r hr q hq hsame => by
    simp only [List.mem_cons, List.not_mem_nil, or_false] at hr hq
    rcases hr with rfl | rfl <;> rcases hq with rfl | rfl
    · rfl
    · exact absurd (hplace.symm.trans (hsame.trans hother)) (by decide)
    · exact absurd (hother.symm.trans (hsame.trans hplace)) (by decide)
    · rfl
  obtain ⟨one, hone, hfile⟩ := hall ⟨"a", .ok 3⟩ (by simp)
  obtain ⟨two, htwo, hotherFile⟩ := hall ⟨"b", .ok 4⟩ (by simp)
  rw [← Except.ok.inj (hfirst.symm.trans hone)] at hfile
  rw [← Except.ok.inj (hsecond.symm.trans htwo)] at hotherFile
  exact ⟨_, after, hrun, rfl, hplace ▸ hfile, hother ▸ hotherFile⟩

/-- Both databases are reported, and one of them is in no file. -/
theorem one_file_for_two_databases :
    let o : DumpOptions := { pattern := "all.gz", concurrency := 1 }
    twoDatabases.network.Answers replyOfTwo ∧
      ∃ after, (atLocalStore.dumpAll (m := Act) o ⟨0, 0⟩).run twoDatabases =
          (.ok [⟨"a", .ok 3⟩, ⟨"b", .ok 4⟩], after) ∧
        atLocalStore.dumpBody o replyOfTwo "a" = .ok "one".toUTF8 ∧
        ¬after.tree.Holds ((o.target ⟨0, 0⟩ "a").place twoDatabases.home) "one".toUTF8 ∧
        after.tree.Holds ((o.target ⟨0, 0⟩ "a").place twoDatabases.home) "two!".toUTF8 := by
  intro o
  have hreports : reportsOfTwo "all.gz" = .ok [("a", .ok 3), ("b", .ok 4)] := by
    decide +kernel
  obtain ⟨after, hrun⟩ := run_of_two hreports
  obtain ⟨hfirst, hsecond⟩ := dumpBody_of_two o ⟨rfl, rfl⟩
  obtain ⟨names, -, hdumped⟩ := dumped_of_dumpAll answers_of_two rfl le_rfl hrun isOk_of_two
  obtain ⟨bytes, hbytes, hfile⟩ := hdumped.last [⟨"a", .ok 3⟩] ⟨"b", .ok 4⟩ [] rfl nofun
  have hplace : (o.target ⟨0, 0⟩ "b").place twoDatabases.home =
      (o.target ⟨0, 0⟩ "a").place twoDatabases.home := by
    decide +kernel
  rw [← Except.ok.inj (hsecond.symm.trans hbytes), hplace] at hfile
  have htwo := Tree.holds_of_pack hfile
  refine ⟨answers_of_two, after, hrun, hfirst, fun hone => ?_, htwo⟩
  have hne : "two!".toUTF8 ≠ "one".toUTF8 := by decide +kernel
  exact hne (htwo.unique hone)

end Client

end SeriesGateway
