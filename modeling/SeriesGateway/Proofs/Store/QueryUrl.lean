import SeriesGateway.Proofs.Query.Distinct
import SeriesGateway.Proofs.Store.Requests

namespace SeriesGateway

namespace Url

/-- The query stands between parts of the text that do not depend on it. -/
theorem render_withPairs_inj {u : Url} {ps qs : List (String × String)}
    (h : (u.withPairs ps).render = (u.withPairs qs).render) : ps = qs := by
  have hchars := String.ofList_injective h
  have hquery : Form.append (u.query.getD []) ps = Form.append (u.query.getD []) qs :=
    (List.cons.inj (List.append_cancel_left (List.append_cancel_right hchars))).2
  have hpairs := congrArg Form.decode hquery
  rw [Form.decode_append, Form.decode_append] at hpairs
  exact List.append_cancel_left hpairs

end Url

namespace Ask

/-- Two queries of one database are sent to the same URL exactly if they ask the same. -/
theorem query_url_eq_iff {p q : Query} (hp : p.validate = .ok ()) (hq : q.validate = .ok ())
    (hptimes : p.HasClockTimes) (hqtimes : q.HasClockTimes) (c : Client) (name : String) :
    ∃ first second, query c name p = .ok first ∧ query c name q = .ok second ∧
      (first.request.url.render = second.request.url.render ↔ p.SameAs q) := by
  obtain ⟨first, hfirst, hfirstUrl⟩ := query_of_validate hp c name
  obtain ⟨second, hsecond, hsecondUrl⟩ := query_of_validate hq c name
  refine ⟨first, second, hfirst, hsecond, ?_⟩
  rw [hfirstUrl, hsecondUrl, ← Query.pairs_eq_iff hptimes hqtimes]
  constructor
  · intro hrender
    exact Url.render_withPairs_inj hrender
  · intro hpairs
    rw [hpairs]

/-- One filter whose text has the marks of pairs is not two filters. -/
theorem query_url_of_marks_in_filter :
    let p : Query :=
      { group := ⟨60, 0⟩, latest := some ⟨1341100799, 1000000500⟩, fields := [⟨"/a#b c", "max"⟩]
        filters := [⟨"", "x&f=&fv=y"⟩] }
    let q : Query := { p with filters := [⟨"", "x"⟩, ⟨"", "y"⟩] }
    p.validate = .ok () ∧ q.validate = .ok () ∧ p.HasClockTimes ∧ q.HasClockTimes ∧
      ∀ c name, ∃ first second, query c name p = .ok first ∧ query c name q = .ok second ∧
        first.request.url.render ≠ second.request.url.render := by
  intro p q
  have htime : Instant.IsClockTime ⟨1341100799, 1000000500⟩ := ⟨by decide, by decide⟩
  have hptimes : p.HasClockTimes := ⟨by simp [p], by simpa [p] using htime⟩
  have hqtimes : q.HasClockTimes := ⟨by simp [p, q], by simpa [p, q] using htime⟩
  refine ⟨by decide, by decide, hptimes, hqtimes, fun c name => ?_⟩
  obtain ⟨first, second, hfirst, hsecond, hurls⟩ :=
    query_url_eq_iff (p := p) (q := q) (by decide) (by decide) hptimes hqtimes c name
  refine ⟨first, second, hfirst, hsecond, fun hsame => ?_⟩
  have hfilters : p.filters = q.filters := (hurls.1 hsame).filters
  simp [p, q] at hfilters

end Ask

end SeriesGateway
