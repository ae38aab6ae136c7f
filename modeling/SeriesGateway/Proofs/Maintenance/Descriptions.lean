import SeriesGateway.Proofs.Counters.Runs
import SeriesGateway.Proofs.Report.Paragraph
import SeriesGateway.Proofs.Store.Naming

namespace SeriesGateway.Client

variable {c : Client} {s t : Scene} {reply : Request → Arrival}

/-- What a store with these replies tells of a database. -/
def told (c : Client) (reply : Request → Arrival) (name : String) : Except Failure DatabaseInfo :=
  ((Ask.info c name).read (reply (Ask.info c name).request)).answer

/-- The request for the statistics of a database. -/
def inquiry (c : Client) (name : String) : Operation × Request :=
  (.info, ⟨.get, c.databaseUrl name⟩)

theorem info_of_answers (h : s.network.Answers reply) (c : Client) (name : String) :
    ((c.info (m := Act) name).run s).1 = c.told reply name :=
  Scene.answer_perform h (Ask.info c name)

theorem list_of_answers (hs : s.network.Answers reply) (ht : t.network.Answers reply)
    (c : Client) : ((c.list (m := Act)).run s).1 = ((c.list (m := Act)).run t).1 :=
  (Scene.answer_perform hs (Ask.list c)).trans (Scene.answer_perform ht (Ask.list c)).symm

theorem run_info_of_answers (h : s.network.Answers reply) (c : Client) (name : String) :
    ∃ after, (c.info (m := Act) name).run s = (c.told reply name, after) ∧
      s.Grown after [c.inquiry name] [] ∧ after.network.Answers reply :=
  ⟨_, Prod.ext (info_of_answers h c name) rfl, c.grown_info name s,
    Scene.answers_perform h (Ask.info c name)⟩

section

variable {rows : List (String × DatabaseInfo)}

/-- Databases that tell their statistics are asked once each, and then the others. -/
theorem run_infos_append (h : s.network.Answers reply)
    (hrows : ∀ row ∈ rows, c.told reply row.1 = .ok row.2) (others : List String) :
    ∃ between, s.Grown between ((rows.map Prod.fst).map c.inquiry) [] ∧
      between.network.Answers reply ∧
      (c.infos (m := Act) (rows.map Prod.fst ++ others)).run s =
        (((c.infos (m := Act) others).run between).1.map (rows ++ ·),
          ((c.infos (m := Act) others).run between).2) := by
  induction rows generalizing s with
  | nil =>
    refine ⟨s, .refl s, h, ?_⟩
    rw [List.map_nil, List.nil_append]
    rcases (c.infos (m := Act) others).run s with ⟨f | rest, after⟩ <;> rfl
  | cons row rows ih =>
    obtain ⟨hrow, hrows⟩ := List.forall_mem_cons.1 hrows
    obtain ⟨after, hrun, hgrown, hanswers⟩ := run_info_of_answers h c row.1
    obtain ⟨between, hmore, hbetween, hothers⟩ := ih hanswers hrows
    refine ⟨between, hgrown.trans hmore, hbetween, ?_⟩
    rw [List.map_cons, List.cons_append, infos, Scene.run_bind, hrun, hrow]
    dsimp only
    rw [Scene.run_bind_pure, hothers]
    rcases (c.infos (m := Act) others).run between with ⟨f | rest, last⟩ <;> rfl

theorem run_infos_of_all (h : s.network.Answers reply)
    (hrows : ∀ row ∈ rows, c.told reply row.1 = .ok row.2) :
    ∃ after, (c.infos (m := Act) (rows.map Prod.fst)).run s = (.ok rows, after) ∧
      s.Grown after ((rows.map Prod.fst).map c.inquiry) [] := by
  obtain ⟨between, hgrown, -, hrun⟩ := run_infos_append h hrows []
  refine ⟨between, ?_, hgrown⟩
  rw [List.append_nil] at hrun
  rw [hrun]
  change (Except.ok (rows ++ []), between) = _
  rw [List.append_nil]

/-- The first failure is the outcome, and nothing is asked behind it. -/
theorem run_infos_of_failure (h : s.network.Answers reply)
    (hrows : ∀ row ∈ rows, c.told reply row.1 = .ok row.2) {name : String} {f : Failure}
    (hfailed : c.told reply name = .error f) (rest : List String) :
    ∃ after, (c.infos (m := Act) (rows.map Prod.fst ++ name :: rest)).run s = (.error f, after) ∧
      s.Grown after ((rows.map Prod.fst ++ [name]).map c.inquiry) [] := by
  obtain ⟨between, hgrown, hanswers, hrun⟩ := run_infos_append h hrows (name :: rest)
  obtain ⟨after, hinfo, hlast, -⟩ := run_info_of_answers hanswers c name
  refine ⟨after, ?_, ?_⟩
  · rw [hrun, infos, Scene.run_bind, hinfo, hfailed]
    rfl
  · rw [List.map_append]
    exact hgrown.trans hlast

end

/-- A description from a scene has a result, and has sent requests, in this order and no others. -/
def Describes (c : Client) (names : List String) (short : Bool) (s : Scene)
    (sent : List (Operation × Request)) (result : Except Failure String) : Prop :=
  ∃ after, (c.describe (m := Act) names short).run s = (result, after) ∧
    after.attempts = s.attempts ++ sent ∧
    after.network = s.network.afterAll (sent.map Prod.snd)

/-- What is requested to find the databases of a description: a list, if none is named. -/
def listingFor (c : Client) (names : List String) : List (Operation × Request) :=
  if names = [] then [(.list, ⟨.get, c.listUrl⟩)] else []

/-- The databases of a description, where a listing gives these. -/
def databases (listed : Except Failure (List String)) (names : List String) :
    Except Failure (List String) :=
  if names = [] then listed else .ok names

theorem run_describe (h : s.network.Answers reply) (c : Client) (names : List String)
    (short : Bool) :
    ∃ listed, s.Grown listed (c.listingFor names) [] ∧ listed.network.Answers reply ∧
      (c.describe (m := Act) names short).run s =
        match databases ((c.list (m := Act)).run s).1 names with
        | .error f => (.error f, listed)
        | .ok found => (((c.infos (m := Act) found).run listed).1.map fun rows =>
            if short then Report.table rows else Report.paragraphs rows,
          ((c.infos (m := Act) found).run listed).2) := by
  cases names with
  | nil =>
    refine ⟨_, c.grown_list s, Scene.answers_perform h (Ask.list c), ?_⟩
    rw [describe, List.isEmpty_nil, if_pos rfl, Scene.run_bind, databases, if_pos rfl]
    rcases (c.list (m := Act)).run s with ⟨f | found, listed⟩
    · rfl
    · exact Scene.run_bind_pure _ _ listed
  | cons name rest =>
    refine ⟨s, .refl s, h, ?_⟩
    rw [describe, List.isEmpty_cons, if_neg Bool.false_ne_true, pure_bind, databases,
      if_neg (List.cons_ne_nil name rest)]
    exact Scene.run_bind_pure _ _ s

theorem Describes.of_grown {names : List String} {short : Bool} {listed after : Scene}
    {first more : List (Operation × Request)} {result : Except Failure String}
    (hrun : (c.describe (m := Act) names short).run s = (result, after))
    (hfirst : s.Grown listed first []) (hmore : listed.Grown after more []) :
    c.Describes names short s (first ++ more) result :=
  ⟨after, hrun, (hfirst.trans hmore).attempts, (hfirst.trans hmore).network⟩

/-- A description lists the databases exactly if none is named, and ends with a failure of that.
Then it asks for their statistics in order. If all of them tell them it shows each database as often
as it is named, with the figures that it tells: in a line of a table or in a paragraph. Otherwise it
is the failure of the first that fails, and no other is asked. -/
theorem describe_is_all_or_first_failure (hs : s.network.Answers reply)
    (ht : t.network.Answers reply) (c : Client) (names : List String) (short : Bool) :
    let told name := ((c.info (m := Act) name).run t).1
    let found := databases ((c.list (m := Act)).run t).1 names
    (∀ f, found = .error f → c.Describes names short s (c.listingFor names) (.error f)) ∧
    (∀ rows, found = .ok (rows.map Prod.fst) → (∀ row ∈ rows, told row.1 = .ok row.2) →
      ∃ text, c.Describes names short s
          (c.listingFor names ++ (rows.map Prod.fst).map c.inquiry) (.ok text) ∧
        (short = true → text = Report.table rows ∧
          Report.IsTable (Report.tableLines rows) text.toList) ∧
        (short = false → text = .join (rows.map fun row => Report.paragraph row.1 row.2) ∧
          Report.IsParagraphs rows text.toList)) ∧
    ∀ (rows : List (String × DatabaseInfo)) name rest f,
      found = .ok (rows.map Prod.fst ++ name :: rest) → (∀ row ∈ rows, told row.1 = .ok row.2) →
      told name = .error f →
      c.Describes names short s (c.listingFor names ++ (rows.map Prod.fst ++ [name]).map c.inquiry)
        (.error f) := by
  intro told found
  have htold (name : String) : told name = c.told reply name := info_of_answers ht c name
  have hfound : databases ((c.list (m := Act)).run s).1 names = found := by
    rw [list_of_answers hs ht]
  obtain ⟨listed, hlisted, hanswers, hrun⟩ := run_describe hs c names short
  rw [hfound] at hrun
  refine ⟨fun f hf => ?_, fun rows hrows htells => ?_, fun rows name rest f hrows htells hf => ?_⟩
  · rw [hf] at hrun
    exact ⟨listed, hrun, hlisted.attempts, hlisted.network⟩
  · simp only [htold] at htells
    obtain ⟨after, hinfos, hgrown⟩ := run_infos_of_all hanswers htells
    rw [hrows] at hrun
    simp only [hinfos] at hrun
    refine ⟨_, .of_grown hrun hlisted hgrown, ?_, ?_⟩
    · rintro rfl
      exact ⟨rfl, Report.isTable_table rows⟩
    · rintro rfl
      exact ⟨rfl, Report.isParagraphs_paragraphs rows⟩
  · simp only [htold] at htells hf
    obtain ⟨after, hinfos, hgrown⟩ := run_infos_of_failure hanswers htells hf rest
    rw [hrows] at hrun
    simp only [hinfos] at hrun
    exact .of_grown hrun hlisted hgrown

/-- One of the databases that are listed cannot be found, so the last of them is not asked for. A
database that is named twice has two lines of a table, and one by itself a paragraph. -/
theorem describe_is_all_or_first_failure_of_missing_database :
    let script : Script := ⟨[("GET /_all_dbs", [{ body := "[\"b\",\"a\",\"b\"]" }]),
      ("GET /b", [{ body := "\x7b\"doc_count\":1234\x7d" }])]⟩
    let s : Scene := { network := { script } }
    let c := atLocalStore
    let text :=
      "dbname  docs    bytes\n-----   -----   -----\nb       1,234   0 B\nb       1,234   0 B\n"
    let long :=
      "b:\n  Space Used:       0 B\n  Last Sequence:    0\n  Header Position:  0\n" ++
      "  Document Count:   1,234\n  Deleted Count:    0\n\n"
    s.network.Answers (fun r => (s.network.exchange r).1) ∧
      c.Describes [] false s [(.list, ⟨.get, c.listUrl⟩), c.inquiry "b", c.inquiry "a"]
        (.error (.status 404)) ∧
      c.Describes ["b", "b"] true s [c.inquiry "b", c.inquiry "b"] (.ok text) ∧
      c.Describes ["b"] false s [c.inquiry "b"] (.ok long) := by
  intro script s c text long
  have hsteady : s.network.script.IsSteady := by
    change ∀ entry ∈ script.routes, entry.2.length ≤ 1
    decide
  have hanswers := Network.answers_of_isSteady hsteady
  let told : DatabaseInfo := { name := "b", documentCount := 1234 }
  have hb : ((c.info (m := Act) "b").run s).1 = .ok told := by decide +kernel
  have ha : ((c.info (m := Act) "a").run s).1 = .error (.status 404) := by decide +kernel
  have hfound : ((c.list (m := Act)).run s).1 = .ok ["b", "a", "b"] := by decide +kernel
  obtain ⟨-, -, hfirst⟩ := describe_is_all_or_first_failure hanswers hanswers c [] false
  obtain ⟨-, hall, -⟩ := describe_is_all_or_first_failure hanswers hanswers c ["b", "b"] true
  obtain ⟨-, hone, -⟩ := describe_is_all_or_first_failure hanswers hanswers c ["b"] false
  refine ⟨hanswers, ?_, ?_, ?_⟩
  · exact hfirst [("b", told)] "a" ["b"] _ hfound (by simpa using hb) ha
  · obtain ⟨_, hdescribes, htable, -⟩ :=
      hall [("b", told), ("b", told)] rfl (by simpa using hb)
    have htext : Report.table [("b", told), ("b", told)] = text := by decide +kernel
    exact htext ▸ (htable rfl).1 ▸ hdescribes
  · obtain ⟨_, hdescribes, -, hparagraphs⟩ := hone [("b", told)] rfl (by simpa using hb)
    have htext : String.join [Report.paragraph "b" told] = long := by decide +kernel
    exact htext ▸ (hparagraphs rfl).1 ▸ hdescribes

end SeriesGateway.Client
