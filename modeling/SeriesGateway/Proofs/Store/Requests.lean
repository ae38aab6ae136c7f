import SeriesGateway.Proofs.Store.DumpRange
import SeriesGateway.Proofs.Url.Web

namespace SeriesGateway

namespace Url

/-- Two URLs ask the same party: over the same scheme, in the same name, at the same host and
port. -/
structure SameServer (u v : Url) : Prop where
  scheme : u.scheme = v.scheme
  authority : u.authority = v.authority

end Url

namespace Client

/-- The requests about a database, by what their paths have behind its name. -/
inductive Asks (c : Client) (name : String) : List (List Char) → Url → Prop where
  | info : c.Asks name [] (Ask.info c name).request.url
  | compact : c.Asks name ["_compact".toList] (Ask.compact c name).request.url
  | dump {sink : Sink} {earliest latest : Option String} {ask : Ask (Except Failure Nat × Sink)}
      (prepared : Ask.dump c name sink earliest latest = .ok ask) :
      c.Asks name ["_dump".toList] ask.request.url
  | query {q : Query} {ask : Ask (Except Failure Rows)} (prepared : Ask.query c name q = .ok ask) :
      c.Asks name ["_query".toList] ask.request.url

end Client

namespace Ask

variable {c : Client} {name : String}

theorem query_of_validate {q : Query} (h : q.validate = .ok ()) (c : Client) (name : String) :
    ∃ ask, query c name q = .ok ask ∧
      ask.request.url = (c.endpointUrl name "_query").withPairs q.pairs := by
  rw [query, h]
  exact ⟨_, rfl, rfl⟩

theorem url_of_query {q : Query} {ask : Ask (Except Failure Rows)}
    (h : query c name q = .ok ask) :
    ask.request.url = (c.endpointUrl name "_query").withPairs q.pairs := by
  obtain ⟨⟨⟩, -, h⟩ := bind_eq_ok_iff.1 h
  cases h
  rfl

theorem url_of_dump {sink : Sink} {earliest latest : Option String}
    {ask : Ask (Except Failure Nat × Sink)} (h : dump c name sink earliest latest = .ok ask) :
    ask.request.url = c.endpointUrl name "_dump" ∨
      ∃ pairs, ask.request.url = (c.endpointUrl name "_dump").withPairs pairs := by
  obtain ⟨first, -, h⟩ := bind_eq_ok_iff.1 h
  obtain ⟨last, -, h⟩ := bind_eq_ok_iff.1 h
  cases h
  dsimp only
  split_ifs
  · exact Or.inl rfl
  · exact Or.inr ⟨_, rfl⟩

end Ask

namespace Client

variable {c : Client} {name : String} {endpoint : List (List Char)} {u : Url}

theorem Asks.sameServer (h : c.Asks name endpoint u) : u.SameServer c.url := by
  cases h with
  | info => exact ⟨rfl, rfl⟩
  | compact => exact ⟨rfl, rfl⟩
  | dump prepared =>
    rcases Ask.url_of_dump prepared with hurl | ⟨pairs, hurl⟩ <;> rw [hurl] <;> exact ⟨rfl, rfl⟩
  | query prepared =>
    rw [Ask.url_of_query prepared]
    exact ⟨rfl, rfl⟩

/-- A client of a web URL, which has a path of segments. -/
structure IsWeb (c : Client) : Prop where
  scheme : Url.IsWeb c.url.scheme
  rooted : ∃ segments, c.url.path = .rooted segments

theorem make_eq_ok_iff {address : String} {c : Client} :
    make address = .ok c ↔ Url.read address.toList = .ok c.url := by
  unfold make
  split
  · rename_i url hread
    rw [hread, Except.ok.injEq, Except.ok.injEq]
    exact ⟨fun h => h ▸ rfl, fun h => by rw [h]⟩
  · rename_i fault hread
    rw [hread]
    simp

theorem isWeb_of_make {address : String} (h : make address = .ok c)
    (hscheme : Url.IsWeb c.url.scheme) : c.IsWeb :=
  ⟨hscheme, Url.exists_rooted_of_read (make_eq_ok_iff.1 h) hscheme⟩

theorem IsWeb.path_databaseUrl (h : c.IsWeb) (name : String) :
    (c.databaseUrl name).path = .rooted (Url.Path.segmentsOf true (Url.unbroken name.toList)) := by
  obtain ⟨segments, hsegments⟩ := h.rooted
  exact Url.path_withPath h.scheme hsegments name.toList

theorem IsWeb.path_endpointUrl (h : c.IsWeb) (name endpoint : String) :
    (c.endpointUrl name endpoint).path = .rooted
      (Url.Path.segmentsOf true (Url.unbroken (name.toList ++ '/' :: endpoint.toList))) :=
  Url.path_withPath (u := c.databaseUrl name) h.scheme (h.path_databaseUrl name) _

/-- The path of a request has the name of the database and what is asked of it, however the client
was given its URL. -/
theorem IsWeb.path_of_asks (hc : c.IsWeb) (h : c.Asks name endpoint u) :
    u.path = .rooted (Url.Path.segmentsOf true
      (Url.unbroken (name.toList ++ endpoint.flatMap ('/' :: ·)))) := by
  cases h with
  | info =>
    rw [List.flatMap_nil, List.append_nil]
    exact hc.path_databaseUrl name
  | compact => exact hc.path_endpointUrl name "_compact"
  | dump prepared =>
    rcases Ask.url_of_dump prepared with hurl | ⟨pairs, hurl⟩ <;> rw [hurl] <;>
      exact hc.path_endpointUrl name "_dump"
  | query prepared =>
    rw [Ask.url_of_query prepared]
    exact hc.path_endpointUrl name "_query"

end Client

end SeriesGateway
