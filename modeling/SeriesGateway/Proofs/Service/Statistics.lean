import SeriesGateway.Proofs.DatabaseInfo
import SeriesGateway.Proofs.Service.SeriesEndpoint
import SeriesGateway.Proofs.Store.Calls

namespace SeriesGateway

open Json

namespace Arrival

/-- A success with the whole of its body, which is the UTF-8 of a text. -/
inductive Carries : Arrival → List Char → Prop
  | whole {body : Body} {cs : List Char} (h : body.complete = true)
    (htext : Utf8.decode? body.bytes.toList = some cs) : Carries (.answered 200 body) cs

theorem Carries.readJson_eq {α : Type} {a : Arrival} {cs : List Char} (h : a.Carries cs)
    (wanted : String) (read? : Raw → Option α) :
    readJson wanted read? a = orUnreadable wanted ((Raw.ofText? cs).bind read?) := by
  cases h with
  | @whole body cs hcomplete htext =>
    have hwhole : body.whole = .ok body.bytes := by rw [Body.whole, if_pos hcomplete]
    simp only [readJson, success, bind, Except.bind, hwhole, Raw.ofBytes?, htext]

end Arrival

/-- Statistics with a name, which is the one asked for if they have none. -/
def DatabaseInfo.under (d : DatabaseInfo) (name : String) : DatabaseInfo :=
  if d.name = "" then { d with name } else d

theorem Ask.answer_info {a : Arrival} {cs : List Char} {d : DatabaseInfo} (ha : a.Carries cs)
    (hread : DatabaseInfo.ofText? cs = some d) (c : Client) (name : String) :
    ((Ask.info c name).read a).answer = .ok (d.under name) := by
  have hjson : readJson "object of statistics" DatabaseInfo.ofRaw? a = .ok d := by
    rw [DatabaseInfo.ofText?] at hread
    rw [ha.readJson_eq, hread]
    rfl
  change (do let info ← readJson "object of statistics" DatabaseInfo.ofRaw? a; _) = _
  rw [hjson, DatabaseInfo.under]
  by_cases hname : d.name = ""
  · simp [hname, bind, Except.bind, pure, Except.pure]
  · simp [hname, bind, Except.bind, pure, Except.pure]

/-- A request for the statistics of a database. -/
def Target.AsksStatistics (t : Target) (name : String) : Prop :=
  ∃ segment ≠ "", t.segments = ["", "dbs", segment] ∧ readName segment = .ok name

/-- The answer to the outcome of asking for statistics. -/
def Answer.ofStatistics : Except Failure DatabaseInfo → Answer
  | .ok info => .json 200 info.text
  | .error f => .ofFailure f

namespace Service

/-- A request for statistics is answered by their text, or by the failure to get them. -/
theorem handle_statistics {m : Type → Type} [Monad m] [LawfulMonad m] [StoreLink m] (s : Service)
    {t : Target} {name : String} (h : t.AsksStatistics name) :
    s.handle (m := m) "GET" t = Answer.ofStatistics <$> (s.client.info name).run := by
  obtain ⟨segment, hne, hsegments, hname⟩ := h
  have hresource : Resource.ofSegments? t.segments = some (.database segment) := by
    rw [hsegments]
    simp [Resource.ofSegments?, Resource.named?, hne]
  have hallows : (Resource.database segment).allows "GET" = true := rfl
  have hsettled : settled (s.database (m := m) segment) =
      Answer.ofStatistics <$> (s.client.info name).run := by
    rw [database, required_eq, settled_liftExcept_bind, hname]
    dsimp only [Except.mapError]
    rw [settled_asked_bind]
    refine congrArg (· <$> _) (funext fun r => ?_)
    cases r <;> rfl
  rw [handle, if_neg (by decide)]
  simp only [hresource, hallows, respond, hsettled, Bool.not_true, Bool.false_eq_true, if_false]
  simp

/-- What the store tells is passed on, with a name. -/
theorem handle_of_carries (s : Service) {t : Target} {name : String} {scene : Scene}
    {cs : List Char} {d : DatabaseInfo} (h : t.AsksStatistics name)
    (hcarries : (scene.network.exchange ⟨.get, s.client.databaseUrl name⟩).1.Carries cs)
    (hread : DatabaseInfo.ofText? cs = some d) :
    ∃ after, s.handle (m := Act) "GET" t scene = (.json 200 (d.under name).text, after) := by
  have hanswer : ((s.client.info (m := Act) name).run scene).1 = .ok (d.under name) :=
    Ask.answer_info hcarries hread s.client name
  refine ⟨((s.client.info (m := Act) name).run scene).2, ?_⟩
  rw [handle_statistics s h]
  exact congrArg (fun r => (Answer.ofStatistics r, _)) hanswer

end Service

/-- Statistics in an answer of the service are read as they are. -/
theorem Answer.ofText?_json (d : DatabaseInfo) :
    DatabaseInfo.ofText? (Answer.json 200 d.text).body.toList = some d := by
  rw [Answer.json, String.toList_ofList, DatabaseInfo.ofText?_text]

/-- Statistics that are read from any text are written as a text that is read as the same, whatever
their name, counts and error. So the service passes them on unchanged: what it answers with is read
as what the store has told, under the name asked for if the store tells none. -/
theorem statistics_read_back :
    (∀ d : DatabaseInfo, DatabaseInfo.ofText? d.text = some d) ∧
    ∀ cs d, DatabaseInfo.ofText? cs = some d →
      DatabaseInfo.ofText? d.text = some d ∧
      ∀ (s : Service) (t : Target) (name : String) (scene : Scene), t.AsksStatistics name →
        (scene.network.exchange ⟨.get, s.client.databaseUrl name⟩).1.Carries cs →
        ∃ a after, s.handle (m := Act) "GET" t scene = (a, after) ∧ a.status = 200 ∧
          a.contentType = some "application/json" ∧
          DatabaseInfo.ofText? a.body.toList =
            some (if d.name = "" then { d with name } else d) := by
  refine ⟨DatabaseInfo.ofText?_text, fun cs d hread => ⟨d.ofText?_text, ?_⟩⟩
  intro s t name scene hasks hcarries
  obtain ⟨after, hhandle⟩ := s.handle_of_carries hasks hcarries hread
  exact ⟨_, after, hhandle, rfl, rfl, Answer.ofText?_json (d.under name)⟩

/-- The service without settings. -/
def Service.atLocalStore : Service :=
  ⟨⟨"http://localhost:3133/"⟩, Client.atLocalStore⟩

theorem Service.ofSettings_atLocalStore : Service.ofSettings {} = .ok Service.atLocalStore :=
  Service.ofSettings_eq_ok_iff.2 ⟨rfl, Client.make_localStore⟩

theorem asksStatistics_metrics :
    (Target.ofText "/dbs/metrics".toList).AsksStatistics "metrics" :=
  ⟨"metrics", by decide, by decide +kernel, by decide +kernel⟩

/-- An error of a quote, a control character and a letter beyond ASCII, the greatest count, and a
member that is not known. -/
theorem statistics_read_back_of_escapes :
    let body :=
      "\x7b\"Error\":\"\\\"\\u0000é\",\"extra\":[1],\"doc_count\":18446744073709551615\x7d"
    let d : DatabaseInfo := { documentCount := 18446744073709551615, error := some "\"\x00é" }
    DatabaseInfo.ofText? body.toList = some d ∧
      ∃ s, Service.ofSettings {} = .ok s ∧ ∃ a after,
        s.handle (m := Act) "GET" (.ofText "/dbs/metrics".toList) (.answering body) = (a, after) ∧
        a.status = 200 ∧
        DatabaseInfo.ofText? a.body.toList = some { d with name := "metrics" } := by
  intro body d
  have hread : DatabaseInfo.ofText? body.toList = some d := by decide +kernel
  have htext : Utf8.decode? (Body.bytes ⟨[body.toUTF8], true⟩).toList = some body.toList := by
    decide +kernel
  obtain ⟨a, after, hhandle, hstatus, -, hread'⟩ := (statistics_read_back.2 _ d hread).2
    Service.atLocalStore _ "metrics" (.answering body) asksStatistics_metrics (.whole rfl htext)
  exact ⟨hread, _, Service.ofSettings_atLocalStore, a, after, hhandle, hstatus, hread'⟩

/-- A store that tells nothing is passed on under the name asked for. -/
theorem statistics_of_nameless_store :
    let body := "\x7b\x7d"
    DatabaseInfo.ofText? body.toList = some {} ∧
      ∃ s, Service.ofSettings {} = .ok s ∧ ∃ a after,
        s.handle (m := Act) "GET" (.ofText "/dbs/metrics".toList) (.answering body) = (a, after) ∧
        a.status = 200 ∧ DatabaseInfo.ofText? a.body.toList = some { name := "metrics" } ∧
        DatabaseInfo.ofText? a.body.toList ≠ DatabaseInfo.ofText? body.toList := by
  intro body
  have hread : DatabaseInfo.ofText? body.toList = some {} := by decide +kernel
  have htext : Utf8.decode? (Body.bytes ⟨[body.toUTF8], true⟩).toList = some body.toList := by
    decide +kernel
  have hcarries : ((Scene.answering body).network.exchange
      ⟨.get, Service.atLocalStore.client.databaseUrl "metrics"⟩).1.Carries body.toList :=
    .whole rfl htext
  obtain ⟨after, hhandle⟩ :=
    Service.atLocalStore.handle_of_carries asksStatistics_metrics hcarries hread
  have hanswer := Answer.ofText?_json (DatabaseInfo.under {} "metrics")
  refine ⟨hread, _, Service.ofSettings_atLocalStore, _, after, hhandle, rfl, hanswer, ?_⟩
  rw [hanswer, hread]
  decide

end SeriesGateway
