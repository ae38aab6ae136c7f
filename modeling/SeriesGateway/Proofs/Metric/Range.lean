import SeriesGateway.Metric
import SeriesGateway.Proofs.Failure
import SeriesGateway.Proofs.Text.Form
import SeriesGateway.Proofs.Timestamp.Magnitude

namespace SeriesGateway

theorem Url.pairs_withPairs (u : Url) (pairs : List (String × String)) :
    (u.withPairs pairs).pairs = u.pairs ++ pairs :=
  Form.decode_append (u.query.getD []) pairs

/-- The texts of the range that a URL asks for, behind whatever its base already held. -/
def Url.askedRange? (u : Url) : Option (String × String) :=
  match u.pairs.reverse with
  | ("group", _) :: ("to", till) :: ("from", since) :: _ => some (since, till)
  | _ => none

namespace Metric

theorem url_eq_ok_iff {m : Metric} {w : Window} {u : Url} :
    m.url w = .ok u ↔ ∃ b, Url.read m.address.toList = .ok b ∧ u = b.withPairs (m.pairs w) := by
  unfold url
  split
  · rename_i b hread
    rw [hread, Except.ok.injEq]
    constructor
    · intro h
      exact ⟨b, rfl, h.symm⟩
    · intro ⟨b', hb, hu⟩
      cases hb
      exact hu.symm
  · rename_i fault hread
    rw [hread]
    simp

/-- What a base already asks for stays in front of the pairs of the metric. -/
theorem exists_base_of_url {m : Metric} {w : Window} {u : Url} (h : m.url w = .ok u) :
    ∃ base, Url.read m.address.toList = .ok base ∧ u.pairs = base.pairs ++ m.pairs w := by
  obtain ⟨base, hbase, hu⟩ := url_eq_ok_iff.1 h
  subst hu
  exact ⟨base, hbase, Url.pairs_withPairs base _⟩

theorem askedRange?_of_url {m : Metric} {w : Window} {u : Url} (h : m.url w = .ok u) :
    u.askedRange? = some (int64Text w.start, int64Text w.stop) := by
  obtain ⟨base, -, hpairs⟩ := exists_base_of_url h
  rw [Url.askedRange?, hpairs, List.reverse_append]
  rfl

theorem readInstant_int64Text_iff (t : Int64) :
    readInstant (int64Text t) = .ok (.ofMilliseconds t.toInt) ↔
      2147483647 < t.toInt ∧ t.toInt ≤ 2147483647000 := by
  rw [readInstant_eq_ok_iff]
  exact Timestamp.read_intText_eq_ofMilliseconds_iff t

/-- An end of a window reads back as itself exactly where bare numbers count as milliseconds:
later than 1970-01-25T20:31:23.647Z, and not later than 2038-01-19T03:14:07Z. -/
theorem asked_range_reads_back_iff {start stop step : Int64} {w : Window} {m : Metric} {u : Url}
    (hw : makeWindow start stop step = .ok w) (hu : m.url w = .ok u) :
    ∃ since till, u.askedRange? = some (since, till) ∧
      (readInstant since = .ok (.ofMilliseconds start.toInt) ↔
        2147483647 < start.toInt ∧ start.toInt ≤ 2147483647000) ∧
      (readInstant till = .ok (.ofMilliseconds stop.toInt) ↔
        2147483647 < stop.toInt ∧ stop.toInt ≤ 2147483647000) := by
  obtain ⟨-, hstart, hstop, -⟩ := makeWindow_eq_ok_iff.1 hw
  refine ⟨int64Text w.start, int64Text w.stop, askedRange?_of_url hu, ?_, ?_⟩
  · rw [hstart]
    exact readInstant_int64Text_iff start
  · rw [hstop]
    exact readInstant_int64Text_iff stop

theorem exists_url_of_isOk {m : Metric} (h : (Url.read m.address.toList).isOk = true) (w : Window) :
    ∃ u, m.url w = .ok u := by
  cases hread : Url.read m.address.toList with
  | ok base => exact ⟨base.withPairs (m.pairs w), by rw [url, hread]⟩
  | error fault =>
    rw [hread] at h
    cases h

/-- A metric of a store on this machine. -/
def sample : Metric :=
  (Source.mk "http://localhost:3133/").metric "cpu" "/usage" "avg" none

theorem exists_url_sample (w : Window) : ∃ u, sample.url w = .ok u :=
  exists_url_of_isOk (by decide +kernel) w

/-- Five minutes of the year 2012 come back. -/
theorem asked_range_of_2012 :
    ∃ w u, makeWindow 1346189075374 1346189375374 10000 = .ok w ∧ sample.url w = .ok u ∧
      ∃ since till, u.askedRange? = some (since, till) ∧
        readInstant since = .ok (.ofMilliseconds 1346189075374) ∧
        readInstant till = .ok (.ofMilliseconds 1346189375374) := by
  obtain ⟨w, hw⟩ : ∃ w, makeWindow 1346189075374 1346189375374 10000 = .ok w := ⟨_, rfl⟩
  obtain ⟨u, hu⟩ := exists_url_sample w
  obtain ⟨since, till, hrange, hsince, htill⟩ := asked_range_reads_back_iff hw hu
  exact ⟨w, u, hw, hu, since, till, hrange, hsince.2 (by decide), htill.2 (by decide)⟩

/-- From the second day of 1970 to the year 2100: one end comes back in seconds, the other in
nanoseconds. -/
theorem asked_range_across_ages :
    ∃ w u, makeWindow 86400000 4102444800000 1000000000 = .ok w ∧ sample.url w = .ok u ∧
      u.askedRange? = some ("86400000", "4102444800000") ∧
      readInstant "86400000" = .ok (.ofSeconds 86400000) ∧
      readInstant "86400000" ≠ .ok (.ofMilliseconds 86400000) ∧
      readInstant "4102444800000" = .ok (.ofNanoseconds 4102444800000) ∧
      readInstant "4102444800000" ≠ .ok (.ofMilliseconds 4102444800000) := by
  obtain ⟨w, hw⟩ : ∃ w, makeWindow 86400000 4102444800000 1000000000 = .ok w := ⟨_, rfl⟩
  obtain ⟨u, hu⟩ := exists_url_sample w
  obtain ⟨-, hstart, hstop, -⟩ := makeWindow_eq_ok_iff.1 hw
  have hsince : int64Text 86400000 = "86400000" := by decide +kernel
  have htill : int64Text 4102444800000 = "4102444800000" := by decide +kernel
  refine ⟨w, u, hw, hu, ?_, ?_, ?_, ?_, ?_⟩
  · rw [askedRange?_of_url hu, hstart, hstop, hsince, htill]
  · rw [← hsince, readInstant_eq_ok_iff]
    exact Timestamp.read_intText 86400000
  · intro h
    rw [← hsince] at h
    cases ((readInstant_int64Text_iff 86400000).1 h).1
  · rw [← htill, readInstant_eq_ok_iff]
    exact Timestamp.read_intText 4102444800000
  · intro h
    rw [← htill] at h
    cases ((readInstant_int64Text_iff 4102444800000).1 h).2

end Metric

end SeriesGateway
