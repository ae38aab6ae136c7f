import SeriesGateway.Proofs.Metric.Range
import SeriesGateway.Store.Client

namespace SeriesGateway

theorem Instant.toInt_of_nanoseconds? {t : Instant} {n : Int64} (h : t.nanoseconds? = some n) :
    n.toInt = t.nanoseconds := by
  unfold nanoseconds? at h
  split_ifs at h with hfits
  cases h
  exact Int64.toInt_ofInt_of_le hfits.1 hfits.2

namespace Ask

theorem bound_some {given : String} (h : given ≠ "") (name : String) :
    bound name (some given) = (do
      match (← readInstant given).nanoseconds? with
      | some nanos => return [(name, Metric.int64Text nanos)]
      | none => throw (.timestamp s!"{name} out of range: {given}")) := by
  unfold bound
  split
  · rename_i hnone
    cases hnone
  · rename_i hempty
    exact absurd (Option.some.inj hempty) h
  · rename_i hgiven
    cases hgiven
    rfl

/-- A bound that is read is sent if 64 bits hold its nanoseconds. -/
theorem bound_of_readInstant {given : String} {t : Instant} (h : given ≠ "")
    (hread : readInstant given = .ok t) (name : String) :
    bound name (some given) =
      match t.nanoseconds? with
      | some nanos => .ok [(name, Metric.int64Text nanos)]
      | none => .error (.timestamp s!"{name} out of range: {given}") := by
  rw [bound_some h, hread]
  simp only [bind, Except.bind]
  cases t.nanoseconds? <;> rfl

/-- A text that a dump takes for a bound, and the instant that it stands for. -/
structure IsBound (given : String) (t : Instant) : Prop where
  nonempty : given ≠ ""
  reads : readInstant given = .ok t
  fits : t.nanoseconds?.isSome = true

/-- The number that is sent for a bound, in nanoseconds. -/
theorem IsBound.exists_sent {given : String} {t : Instant} (h : IsBound given t) :
    ∃ n : Int64, n.toInt = t.nanoseconds ∧
      ∀ name, bound name (some given) = .ok [(name, Metric.int64Text n)] := by
  obtain ⟨n, hn⟩ := Option.isSome_iff_exists.1 h.fits
  refine ⟨n, Instant.toInt_of_nanoseconds? hn, fun name => ?_⟩
  rw [bound_of_readInstant h.nonempty h.reads, hn]

/-- The bounds stand behind what the URL of the client asks for. -/
theorem exists_dump_of_bounds {earliest latest : Option String}
    {first last : List (String × String)} (hfirst : bound "from" earliest = .ok first)
    (hlast : bound "to" latest = .ok last) (c : Client) (name : String) (sink : Sink) :
    ∃ ask, dump c name sink earliest latest = .ok ask ∧
      ask.request.url.pairs = (c.endpointUrl name "_dump").pairs ++ (first ++ last) := by
  rw [dump, hfirst, hlast]
  refine ⟨_, rfl, ?_⟩
  dsimp only
  split_ifs with hempty
  · rw [List.isEmpty_iff.1 hempty, List.append_nil]
  · exact Url.pairs_withPairs _ _

theorem readInstant_nanoseconds_iff {t : Instant} {n : Int64} (h : n.toInt = t.nanoseconds) :
    readInstant (Metric.int64Text n) = .ok t ↔
      t.nanos < 1_000_000_000 ∧ 2147483647000 < t.nanoseconds := by
  rw [readInstant_eq_ok_iff, ← h]
  exact Timestamp.read_intText_nanoseconds_iff h.symm

/-- Whatever is accepted for a bound of a dump is sent in nanoseconds, and the number is read back
as the bound exactly if that is later than 1970-01-01T00:35:47.483647Z and in no leap second. -/
theorem dump_bound_reads_back_iff {given : String} {t : Instant} (h : IsBound given t) :
    ∃ n : Int64, n.toInt = t.nanoseconds ∧
      (readInstant (Metric.int64Text n) = .ok t ↔
        t.nanos < 1_000_000_000 ∧ 2147483647000 < t.nanoseconds) ∧
      ∀ (c : Client) (name : String) (sink : Sink) (other : Option String)
        (pairs : List (String × String)),
        (bound "to" other = .ok pairs → ∃ ask, dump c name sink (some given) other = .ok ask ∧
          ask.request.url.pairs =
            (c.endpointUrl name "_dump").pairs ++ ("from", Metric.int64Text n) :: pairs) ∧
        (bound "from" other = .ok pairs → ∃ ask, dump c name sink other (some given) = .ok ask ∧
          ask.request.url.pairs =
            (c.endpointUrl name "_dump").pairs ++ (pairs ++ [("to", Metric.int64Text n)])) := by
  obtain ⟨n, hn, hbound⟩ := h.exists_sent
  refine ⟨n, hn, readInstant_nanoseconds_iff hn, fun c name sink other pairs => ?_⟩
  exact ⟨fun hother => exists_dump_of_bounds (hbound "from") hother c name sink,
    fun hother => exists_dump_of_bounds hother (hbound "to") c name sink⟩

/-- A bound in the year 2012 comes back. -/
theorem dump_bound_of_2012 :
    IsBound "2012-08-28T21:24:35.374Z" ⟨1346189075, 374000000⟩ ∧
      readInstant "1346189075374000000" = .ok ⟨1346189075, 374000000⟩ ∧
      ∀ c name sink, ∃ ask, dump c name sink (some "2012-08-28T21:24:35.374Z") none = .ok ask ∧
        ask.request.url.pairs =
          (c.endpointUrl name "_dump").pairs ++ [("from", "1346189075374000000")] := by
  have h : IsBound "2012-08-28T21:24:35.374Z" ⟨1346189075, 374000000⟩ :=
    ⟨by decide, rfl, by decide⟩
  obtain ⟨n, hn, hread, hsent⟩ := dump_bound_reads_back_iff h
  have htext : Metric.int64Text n = "1346189075374000000" := by
    rw [Metric.int64Text, hn]
    decide +kernel
  rw [htext] at hread
  refine ⟨h, hread.2 (by decide), fun c name sink => ?_⟩
  rw [← htext]
  exact (hsent c name sink none []).1 rfl

/-- The start of 1970 is sent as a number that is read as nothing, a second later as one that is
read as seconds, up to the year 2001, and a leap second as the second behind it. -/
theorem dump_bound_of_other_ages :
    (IsBound "1970-01-01T00:00:00Z" ⟨0, 0⟩ ∧
      (∀ c name sink, ∃ ask, dump c name sink (some "1970-01-01T00:00:00Z") none = .ok ask ∧
        ask.request.url.pairs = (c.endpointUrl name "_dump").pairs ++ [("from", "0")]) ∧
      readInstant "0" = .error (.timestamp "0")) ∧
    (IsBound "1970-01-01T00:00:01Z" ⟨1, 0⟩ ∧
      (∀ c name sink, ∃ ask, dump c name sink (some "1970-01-01T00:00:01Z") none = .ok ask ∧
        ask.request.url.pairs = (c.endpointUrl name "_dump").pairs ++ [("from", "1000000000")]) ∧
      readInstant "1000000000" = .ok ⟨1000000000, 0⟩) ∧
    (IsBound "2012-06-30T23:59:60Z" ⟨1341100799, 1000000000⟩ ∧
      (∀ c name sink, ∃ ask, dump c name sink (some "2012-06-30T23:59:60Z") none = .ok ask ∧
        ask.request.url.pairs =
          (c.endpointUrl name "_dump").pairs ++ [("from", "1341100800000000000")]) ∧
      readInstant "1341100800000000000" = .ok ⟨1341100800, 0⟩) := by
  have hepoch : bound "from" (some "1970-01-01T00:00:00Z") = .ok [("from", "0")] := rfl
  have hfirst : bound "from" (some "1970-01-01T00:00:01Z") = .ok [("from", "1000000000")] := rfl
  have hleap : bound "from" (some "2012-06-30T23:59:60Z") =
      .ok [("from", "1341100800000000000")] := rfl
  exact ⟨⟨⟨by decide, rfl, by decide⟩, exists_dump_of_bounds hepoch rfl, rfl⟩,
    ⟨⟨by decide, rfl, by decide⟩, exists_dump_of_bounds hfirst rfl, rfl⟩,
    ⟨⟨by decide, rfl, by decide⟩, exists_dump_of_bounds hleap rfl, rfl⟩⟩

end Ask

end SeriesGateway
