import SeriesGateway.Proofs.Store.Naming
import SeriesGateway.Proofs.Store.Origin
import SeriesGateway.Service.Handler

namespace SeriesGateway

namespace Settings

/-- The settings that a service runs with. -/
inductive Configured : Settings → Prop where
  | defaults : Configured {}
  | read {lookup : String → Option String} {s : Settings} (found : read lookup = .ok s) :
      Configured s
  | withStore (s : Settings) (url : String) : Configured (s.withStore url)

theorem getLast?_withSlash (url : String) : (withSlash url).toList.getLast? = some '/' := by
  unfold withSlash
  split_ifs with h
  · exact h
  · simp

theorem Configured.getLast?_storeUrl {s : Settings} (h : s.Configured) :
    s.storeUrl.toList.getLast? = some '/' := by
  cases h with
  | defaults => rfl
  | read found =>
    obtain ⟨port, -, h⟩ := bind_eq_ok_iff.1 found
    obtain ⟨timeout, -, h⟩ := bind_eq_ok_iff.1 h
    cases h
    exact getLast?_withSlash _
  | withStore s url => exact getLast?_withSlash url

end Settings

namespace Url

/-- A URL that tells a server and no more. -/
structure IsBare (u : Url) : Prop where
  path : u.path = .rooted [[]]
  query : u.query = none
  fragment : u.fragment = none

theorem isBare_ofParts_iff {scheme : String} {a : Authority} {rest : List Char}
    {done : List (List Char)} (hopen : (splitPath rest).2 = [])
    (hdone : Path.behindAuthority true rest = .rooted (done ++ [[]])) :
    (ofParts scheme a rest).IsBare ↔ done = [] := by
  have hpath : (ofParts scheme a rest).path = .rooted (done ++ [[]]) := by
    rw [ofParts, splitPath_of_uncut (uncut_of_splitPath hopen), ← hdone]
    rfl
  constructor
  · intro hbare
    have hsegments := Path.rooted.inj (hpath.symm.trans hbare.path)
    exact List.append_left_eq_self.1 hsegments
  · intro hnil
    subst hnil
    obtain ⟨hquery, hfragment⟩ := (splitPath_ofParts_iff scheme a rest).1 hopen
    exact ⟨hpath, hquery, hfragment⟩

theorem Path.text_append_eq_iff {done segments : List (List Char)} :
    (rooted (done ++ segments)).text = (rooted segments).text ↔ done = [] := by
  rw [text, text, List.flatMap_append, List.append_left_eq_self, List.flatMap_eq_nil_iff]
  constructor
  · intro hall
    cases done with
    | nil => rfl
    | cons first rest => cases hall first List.mem_cons_self
  · intro hnil
    simp [hnil]

end Url

namespace Service

/-- A chart of a database and a query of it ask for one path. A chart puts the name behind the URL
of the store and reads the whole as a URL; a client reads the URL of the store, and then puts the
name in the place of its path. -/
def AgreesOn (s : Service) (name : String) : Prop :=
  ∀ pointer reducer label w q, Query.validate q = .ok () →
    ∃ u ask, (s.source.metric name pointer reducer label).url w = .ok u ∧
      Ask.query s.client name q = .ok ask ∧ u.path.text = ask.request.url.path.text

/-- Only the name of the database has a part in the path. -/
theorem agreesOn_iff (s : Service) (name : String) :
    s.AgreesOn name ↔
      (Url.read (s.source.base ++ name ++ "/_query").toList).map (·.path.text) =
        .ok (s.client.endpointUrl name "_query").path.text := by
  constructor
  · intro h
    let w : Window := ⟨0, 0, 1, by decide⟩
    let q : Query := { group := ⟨1, 0⟩, fields := [⟨"", "max"⟩] }
    obtain ⟨u, ask, hurl, hask, hpath⟩ := h "" "" none w q (by decide)
    rw [Ask.url_of_query hask] at hpath
    obtain ⟨b, hread, rfl⟩ := Metric.url_eq_ok_iff.1 hurl
    change (Url.read (s.source.metric name "" "" none).address.toList).map _ = _
    rw [hread]
    exact congrArg Except.ok hpath
  · intro h pointer reducer label w q hq
    change (Url.read (s.source.metric name pointer reducer label).address.toList).map _ = _ at h
    cases hread : Url.read (s.source.metric name pointer reducer label).address.toList with
    | error fault =>
      rw [hread] at h
      cases h
    | ok b =>
      rw [hread] at h
      obtain ⟨ask, hask, haskUrl⟩ := Ask.query_of_validate hq s.client name
      refine ⟨_, ask, Metric.url_eq_ok_iff.2 ⟨b, hread, rfl⟩, hask, ?_⟩
      rw [haskUrl]
      exact Except.ok.inj h

theorem ofSettings_eq_ok_iff {settings : Settings} {s : Service} :
    ofSettings settings = .ok s ↔
      s.source.base = settings.storeUrl ∧ Client.make settings.storeUrl = .ok s.client := by
  unfold ofSettings
  constructor
  · intro h
    obtain ⟨client, hclient, h⟩ := bind_eq_ok_iff.1 h
    cases h
    exact ⟨rfl, hclient⟩
  · rintro ⟨hbase, hclient⟩
    rw [hclient, ← hbase]
    rfl

variable {settings : Settings} {s : Service}

/-- What a chart and a query put behind the slash of a store. -/
def written (name : String) : List Char :=
  Url.unbroken (name.toList ++ "/_query".toList)

theorem uncut_written {name : String} (hquery : '?' ∉ name.toList) (hfragment : '#' ∉ name.toList) :
    ∀ c ∈ written name, c ≠ '?' ∧ c ≠ '#' := by
  intro c hc
  rcases List.mem_append.1 (List.mem_of_mem_filter hc) with hname | hword
  · exact ⟨fun h => hquery (h ▸ hname), fun h => hfragment (h ▸ hname)⟩
  · have hall : "/_query".toList.all (fun c => c != '?' && c != '#') = true := by decide
    simpa using List.all_eq_true.1 hall c hword

/-- The URL of the store ends in a text from its path on. A client has read that text alone, and a
chart reads it with a name behind it. -/
theorem exists_rest (hsettings : settings.Configured) (h : ofSettings settings = .ok s)
    (hweb : Url.IsWeb s.client.url.scheme) :
    ∃ a rest, rest.getLast? = some '/' ∧ s.client.url = Url.ofParts s.client.url.scheme a rest ∧
      ∀ name, s.AgreesOn name ↔
        (Url.Path.behindAuthority true (Url.splitPath (rest ++ written name)).1).text =
          (Url.Path.rooted (Url.Path.segmentsOf true (written name))).text := by
  obtain ⟨hbase, hmake⟩ := ofSettings_eq_ok_iff.1 h
  have hread := Client.make_eq_ok_iff.1 hmake
  have hclient := Client.isWeb_of_make hmake hweb
  have hslash := hsettings.getLast?_storeUrl
  rw [← hbase] at hread hslash
  obtain ⟨a, rest, hsplits, hparts⟩ := Url.exists_splits_of_read hread hweb
  have haddress (name : String) : rest.getLast? = some '/' ∧
      Url.read (s.source.base ++ name ++ "/_query").toList =
        .ok (Url.ofParts s.client.url.scheme a (rest ++ written name)) :=
    Metric.read_address (m := s.source.metric name "" "" none) hsplits hslash
  refine ⟨a, rest, (haddress "").1, hparts, fun name => ?_⟩
  rw [agreesOn_iff, (haddress name).2, hclient.path_endpointUrl]
  exact Iff.of_eq (Except.ok.injEq _ _)

/-- Either names go on behind the segments of the store's URL, or they do not reach its path. -/
theorem agreesOn_cases (hsettings : settings.Configured) (h : ofSettings settings = .ok s)
    (hweb : Url.IsWeb s.client.url.scheme) :
    (∃ done, (s.client.url.IsBare ↔ done = []) ∧
      ∀ name, (∀ c ∈ written name, c ≠ '?' ∧ c ≠ '#') → (s.AgreesOn name ↔
        (Url.Path.rooted (Url.Path.resolve id done
          ((written name).splitOnP (Url.Path.isSlash true)))).text =
        (Url.Path.rooted (Url.Path.segmentsOf true (written name))).text)) ∨
    ¬s.client.url.IsBare ∧ ∃ path : List Char, ∀ name, s.AgreesOn name ↔
      path = (Url.Path.rooted (Url.Path.segmentsOf true (written name))).text := by
  obtain ⟨a, rest, hrest, hparts, hagrees⟩ := exists_rest hsettings h hweb
  by_cases hopen : (Url.splitPath rest).2 = []
  · obtain ⟨done, hdone, hgoes⟩ := Url.Path.behindAuthority_append hrest
    refine Or.inl ⟨done, ?_, ?_⟩
    · rw [hparts]
      exact Url.isBare_ofParts_iff hopen hdone
    · intro name huncut
      have hall := List.forall_mem_append.2 ⟨Url.uncut_of_splitPath hopen, huncut⟩
      rw [hagrees, Url.splitPath_of_uncut hall, hgoes]
  · refine Or.inr ⟨?_, (Url.Path.behindAuthority true (Url.splitPath rest).1).text, fun name => ?_⟩
    · intro hbare
      rw [hparts] at hbare
      exact hopen ((Url.splitPath_ofParts_iff _ _ _).2 ⟨hbare.query, hbare.fragment⟩)
    · rw [hagrees, Url.splitPath_append hopen]

/-- The ways of a service to its store meet for all names without the marks of queries and fragments
exactly if the URL of the store tells a server and no more. -/
theorem agreesOn_all_iff_isBare (hsettings : settings.Configured) (h : ofSettings settings = .ok s)
    (hweb : Url.IsWeb s.client.url.scheme) :
    (∀ name, name ≠ "" → '?' ∉ name.toList → '#' ∉ name.toList → s.AgreesOn name) ↔
      s.client.url.IsBare := by
  rcases agreesOn_cases hsettings h hweb with ⟨done, hbare, hagrees⟩ | ⟨hnot, path, hagrees⟩
  · rw [hbare]
    constructor
    · intro hall
      have hplain : ∀ segment ∈ ["a".toList, "_query".toList], Url.Path.IsPlain segment := by
        decide +kernel
      have hname := (hagrees "a" (uncut_written (by decide) (by decide))).1
        (hall "a" (by decide) (by decide) (by decide))
      have hsegments := Url.Path.resolve_of_isPlain done hplain
      have halone := Url.Path.segmentsOf_of_isPlain hplain
      apply Url.Path.text_append_eq_iff.1
      rw [← hsegments, ← halone]
      exact hname
    · intro hnil name _ hquery hfragment
      subst hnil
      exact (hagrees name (uncut_written hquery hfragment)).2 rfl
  · constructor
    · intro hall
      have hfirst := (hagrees "a").1 (hall "a" (by decide) (by decide) (by decide))
      have hsecond := (hagrees "b").1 (hall "b" (by decide) (by decide) (by decide))
      exact absurd (hfirst.symm.trans hsecond) (by decide)
    · intro hbare
      exact absurd hbare hnot

/-- What a service has by default is a server and no more. -/
theorem agreesOn_by_default :
    Settings.Configured {} ∧ ∃ s, ofSettings {} = .ok s ∧ Url.IsWeb s.client.url.scheme ∧
      s.client.url.IsBare ∧ s.AgreesOn "..\\a%2Fb//c d" := by
  have hmade : ofSettings {} = .ok ⟨⟨"http://localhost:3133/"⟩, Client.atLocalStore⟩ :=
    ofSettings_eq_ok_iff.2 ⟨rfl, Client.make_localStore⟩
  have hbare : Client.atLocalStore.url.IsBare := ⟨rfl, rfl, rfl⟩
  have hall := (agreesOn_all_iff_isBare .defaults hmade (Or.inl rfl)).2 hbare
  exact ⟨.defaults, _, hmade, Or.inl rfl, hbare, hall _ (by decide) (by decide) (by decide)⟩

/-- Behind a path of the store's URL, and with a mark that cuts the name, the ways part. -/
theorem agreesOn_fails :
    (∃ s, ofSettings (Settings.withStore {} "http://localhost:3133/base") = .ok s ∧
      Url.IsWeb s.client.url.scheme ∧ ¬s.AgreesOn "metrics") ∧
    ∃ s, ofSettings {} = .ok s ∧ Url.IsWeb s.client.url.scheme ∧ ¬s.AgreesOn "a?b" := by
  have hbase : Client.make "http://localhost:3133/base/" =
      .ok ⟨{ Client.atLocalStore.url with path := .rooted ["base".toList, []] }⟩ := by
    decide +kernel
  refine ⟨⟨⟨⟨"http://localhost:3133/base/"⟩, _⟩, ofSettings_eq_ok_iff.2 ⟨rfl, hbase⟩, Or.inl rfl, ?_⟩,
    ⟨⟨"http://localhost:3133/"⟩, Client.atLocalStore⟩,
      ofSettings_eq_ok_iff.2 ⟨rfl, Client.make_localStore⟩, Or.inl rfl, ?_⟩
  · rw [agreesOn_iff]
    decide +kernel
  · rw [agreesOn_iff]
    decide +kernel

end Service

end SeriesGateway
