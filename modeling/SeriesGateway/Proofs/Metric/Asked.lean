import SeriesGateway.Proofs.Metric.Range
import SeriesGateway.Proofs.Url.Query

namespace SeriesGateway.Metric

/-- An address without `?` and `#` asks nothing of its own. -/
theorem query_of_uncut_address {m : Metric} {b : Url} (h : Url.read m.address.toList = .ok b)
    (hbase : ∀ c ∈ m.source.base.toList, c ≠ '?' ∧ c ≠ '#')
    (hdatabase : ∀ c ∈ m.database.toList, c ≠ '?' ∧ c ≠ '#') : b.query = none := by
  apply Url.query_eq_none_of_uncut h
  have hendpoint : ∀ c ∈ "/_query".toList, c ≠ '?' ∧ c ≠ '#' := by simp
  intro c hc
  rw [address, String.toList_append, String.toList_append, List.mem_append, List.mem_append] at hc
  rcases hc with (hc | hc) | hc
  · exact hbase c hc
  · exact hdatabase c hc
  · exact hendpoint c hc

/-- The query of the URL of a metric ends in its pointer, its reducer and the numbers of the window
in decimal. In front of them stands what the address asks by itself: nothing, unless there is a `?`
or a `#` in the base or in the name of the database. -/
theorem decode_query_of_url {m : Metric} {w : Window} {u : Url} (h : m.url w = .ok u) :
    ∃ query earlier, u.query = some query ∧
      Form.decode query = earlier ++
        [("ptr", m.pointer), ("reducer", m.reducer), ("from", int64Text w.start),
          ("to", int64Text w.stop), ("group", int64Text w.step)] ∧
      (∃ b, Url.read m.address.toList = .ok b ∧ b.QueryIsOf (Url.clean m.address.toList) ∧
        earlier = b.pairs) ∧
      ((∀ c ∈ m.source.base.toList, c ≠ '?' ∧ c ≠ '#') →
        (∀ c ∈ m.database.toList, c ≠ '?' ∧ c ≠ '#') → earlier = []) := by
  obtain ⟨b, hread, rfl⟩ := url_eq_ok_iff.1 h
  refine ⟨_, b.pairs, rfl, Form.decode_append _ _, ⟨b, hread, Url.queryIsOf_of_read hread, rfl⟩, ?_⟩
  intro hbase hdatabase
  rw [Url.pairs, query_of_uncut_address hread hbase hdatabase]
  rfl

/-- Names full of marks, first behind an address that asks something already. -/
theorem decode_query_of_marks :
    let busy := (Source.mk "http://db:3133/a?k=v+w&flag&").metric "m#x" "/a&b=c+d%26 é#" "" none
    let plain := (Source.mk "http://db:3133/").metric "m x" "/a&b=c+d%26 é#" "" none
    ∃ w u v, makeWindow (-1000) 9000 500 = .ok w ∧ busy.url w = .ok u ∧ plain.url w = .ok v ∧
      u.query.map Form.decode = some ([("k", "v w"), ("flag", ""), ("m", "")] ++
        [("ptr", "/a&b=c+d%26 é#"), ("reducer", ""), ("from", "-1000"), ("to", "9000"),
          ("group", "500")]) ∧
      (∀ c ∈ "http://db:3133/".toList, c ≠ '?' ∧ c ≠ '#') ∧
      (∀ c ∈ "m x".toList, c ≠ '?' ∧ c ≠ '#') ∧
      v.query.map Form.decode = some [("ptr", "/a&b=c+d%26 é#"), ("reducer", ""), ("from", "-1000"),
        ("to", "9000"), ("group", "500")] := by
  intro busy plain
  obtain ⟨w, hw⟩ : ∃ w, makeWindow (-1000) 9000 500 = .ok w := ⟨_, rfl⟩
  obtain ⟨-, hstart, hstop, hstep⟩ := makeWindow_eq_ok_iff.1 hw
  have hfrom : int64Text w.start = "-1000" := by
    rw [hstart]
    decide +kernel
  have hto : int64Text w.stop = "9000" := by
    rw [hstop]
    decide +kernel
  have hgroup : int64Text w.step = "500" := by
    rw [hstep]
    decide +kernel
  obtain ⟨u, hu⟩ := busy.exists_url_of_isOk (by decide +kernel) w
  obtain ⟨v, hv⟩ := plain.exists_url_of_isOk (by decide +kernel) w
  have hbase : ∀ c ∈ "http://db:3133/".toList, c ≠ '?' ∧ c ≠ '#' := by simp
  have hdatabase : ∀ c ∈ "m x".toList, c ≠ '?' ∧ c ≠ '#' := by simp
  refine ⟨w, u, v, hw, hu, hv, ?_, hbase, hdatabase, ?_⟩
  · obtain ⟨query, earlier, hquery, hdecode, ⟨b, hread, -, rfl⟩, -⟩ := decode_query_of_url hu
    have hearlier : (Url.read busy.address.toList).map Url.pairs =
        .ok [("k", "v w"), ("flag", ""), ("m", "")] := by decide +kernel
    rw [hread] at hearlier
    rw [hquery, Option.map_some, hdecode, Except.ok.inj hearlier, hfrom, hto, hgroup]
    rfl
  · obtain ⟨query, earlier, hquery, hdecode, -, hnone⟩ := decode_query_of_url hv
    rw [hquery, Option.map_some, hdecode, hnone hbase hdatabase, hfrom, hto, hgroup]
    rfl

end SeriesGateway.Metric
