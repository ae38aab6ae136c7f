import SeriesGateway.Proofs.Service.SeriesEndpoint
import SeriesGateway.Proofs.Store.Calls

namespace SeriesGateway

open Json

/-- Beyond every number, on either side. -/
def Binary64.isInfinite (x : Binary64) : Bool :=
  !x.isNan && !x.isFinite

def Json.Raw.isNull : Raw → Bool
  | .null => true
  | _ => false

theorem Binary64.isFinite_eq_false_iff {x : Binary64} :
    x.isFinite = false ↔ x.isNan = true ∨ x.isInfinite = true := by
  cases x <;> simp [isFinite, isNan, isInfinite]

theorem Json.Raw.isNull_iff {v : Raw} : v.isNull = true ↔ v = .null := by
  cases v <;> simp [isNull]

/-- A number is written as null exactly if it is not finite. -/
theorem Json.Raw.ofReal_eq_null_iff {x : Binary64} : Raw.ofReal x = .null ↔ x.isFinite = false := by
  refine ⟨fun h => ?_, Raw.ofReal_of_not_isFinite⟩
  rw [← Bool.not_eq_true]
  intro hfinite
  obtain ⟨n, hn, -⟩ := Raw.ofReal_of_isFinite hfinite
  rw [hn] at h
  cases h

namespace Series

/-- The nulls of a series are its missing samples and its infinite ones. -/
theorem countP_isNull (s : Series) :
    (s.map Raw.ofReal).countP Raw.isNull =
      s.countP Binary64.isNan + s.countP Binary64.isInfinite := by
  induction s with
  | nil => rfl
  | cons x s ih =>
    have hx : (Raw.ofReal x).isNull = true ↔ x.isNan = true ∨ x.isInfinite = true := by
      rw [Raw.isNull_iff, Raw.ofReal_eq_null_iff, Binary64.isFinite_eq_false_iff]
    have hapart : ¬(x.isNan = true ∧ x.isInfinite = true) := by
      cases x <;> simp [Binary64.isNan, Binary64.isInfinite]
    simp only [List.map_cons, List.countP_cons, ih, hx]
    split_ifs <;> first | omega | tauto

/-- Nulls stand in the places of the missing samples, and nowhere else, as long as no sample is
infinite. -/
theorem getElem?_eq_null_iff (s : Series) :
    (∀ k : Nat, (s.map Raw.ofReal)[k]? = some .null ↔ s[k]? = some .nan) ↔
      ∀ x ∈ s, x.isInfinite = false := by
  have hnull (k : Nat) : (s.map Raw.ofReal)[k]? = some .null ↔
      ∃ x, s[k]? = some x ∧ (x.isNan = true ∨ x.isInfinite = true) := by
    simp only [List.getElem?_map, Option.map_eq_some_iff, Raw.ofReal_eq_null_iff,
      Binary64.isFinite_eq_false_iff]
  constructor
  · intro h x hx
    obtain ⟨k, hk⟩ := List.mem_iff_getElem?.1 hx
    rw [← Bool.not_eq_true]
    intro hinfinite
    have hnan := (h k).1 ((hnull k).2 ⟨x, hk, Or.inr hinfinite⟩)
    cases hk.symm.trans hnan
    cases hinfinite
  · intro h k
    rw [hnull]
    constructor
    · rintro ⟨x, hx, hnan | hinfinite⟩
      · cases x with
        | nan => exact hx
        | signed => cases hnan
      · rw [h x (List.mem_of_getElem? hx)] at hinfinite
        cases hinfinite
    · exact fun hnan => ⟨_, hnan, Or.inl rfl⟩

end Series

/-- After a fetch with a series the counter has grown by what is missing in that. -/
theorem Metric.missing_of_fetch {metric : Metric} {w : Window} {scene after : Scene}
    {values : Series} (h : (metric.fetch (m := Act) w).run scene = (.ok values, after)) :
    after.counters.missing = scene.counters.missing + values.countP Binary64.isNan := by
  have hmissing := ((StoreCall.series metric w).leaves_run scene).missing
  have hrun : (StoreCall.series metric w).run scene = (.ok values, after) := h
  rw [hrun] at hmissing
  exact hmissing

theorem Failure.answerStatus_ne (f : Failure) : f.answerStatus ≠ 200 := by
  cases f <;> simp [answerStatus]

namespace Service

/-- What is answered at once is no success. -/
theorem status_of_prepare {s : Service} {segment : String} {pairs : List (String × String)}
    {a : Answer} (h : s.prepare segment pairs = .error a) : a.status ≠ 200 := by
  rw [prepare] at h
  cases hname : readName segment with
  | error fault =>
    rw [hname] at h
    cases h
    simp [Answer.plain]
  | ok name =>
    rw [hname] at h
    cases hread : SeriesRequest.read pairs with
    | error fault =>
      rw [hread] at h
      cases h
      simp [Answer.plain]
    | ok request =>
      rw [hread] at h
      simp only [bind, Except.bind, Except.mapError] at h
      cases hw : request.window with
      | error f =>
        rw [hw] at h
        cases h
        exact f.answerStatus_ne
      | ok w =>
        rw [hw] at h
        cases h

/-- Only what a fetch has returned is answered with success. -/
theorem exists_fetch_of_success {s : Service} {t : Target} {segment : String} {scene after : Scene}
    {a : Answer} (hsegments : t.segments = ["", "series", segment])
    (h : s.handle (m := Act) "GET" t scene = (a, after)) (hstatus : a.status = 200) :
    ∃ (metric : Metric) (w : Window) (values : Series),
      s.prepare segment t.pairs = .ok (metric, w) ∧
      (metric.fetch (m := Act) w).run scene = (.ok values, after) ∧
      a.body = SeriesAnswer.render ⟨metric.label, w.start, w.stop, w.step, values⟩ := by
  by_cases hne : segment = ""
  · have hresource : Resource.ofSegments? t.segments = none := by
      rw [hsegments, hne]
      rfl
    rw [handle, if_neg (by decide), hresource] at h
    cases h
    cases hstatus
  rw [handle_series s hsegments hne] at h
  cases hprepare : s.prepare segment t.pairs with
  | error early =>
    rw [hprepare] at h
    cases h
    exact absurd hstatus (status_of_prepare hprepare)
  | ok prepared =>
    obtain ⟨metric, w⟩ := prepared
    rw [hprepare] at h
    obtain ⟨ha, hafter⟩ := Prod.mk.inj h
    cases hr : ((metric.fetch (m := Act) w).run scene).1 with
    | error f =>
      have hfailed : Answer.ofFetch metric.label w (.error f) = a := hr ▸ ha
      rw [← hfailed] at hstatus
      exact absurd hstatus f.answerStatus_ne
    | ok values =>
      have hshown : Answer.ofFetch metric.label w (.ok values) = a := hr ▸ ha
      refine ⟨metric, w, values, rfl, Prod.ext hr hafter, ?_⟩
      rw [← hshown]
      rfl

end Service

/-- A null in a series that is shown is a sample that is missing or infinite, and any other sample
is a numeral that reads back as it. What a service answers with success is the series that its fetch
has returned. By the samples of that which are missing the counter has grown; the nulls of the
answer are these, and as many more as there are infinite samples. -/
theorem nulls_of_served_series (shown : SeriesAnswer) (s : Service) :
    (∃ items,
      IsSeriesText shown.text shown.label shown.start shown.stop shown.step items ∧
      items.length = shown.values.length ∧
      (∀ (k : Nat) (x : Binary64), shown.values[k]? = some x →
        (items[k]? = some Raw.null ↔ x.isNan = true ∨ x.isInfinite = true) ∧
        (x.isFinite = true → ∃ n, items[k]? = some (Raw.number n) ∧
          Binary64.ofText? n.text = some x)) ∧
      ((∀ k : Nat, items[k]? = some Raw.null ↔ shown.values[k]? = some .nan) ↔
        ∀ x ∈ shown.values, x.isInfinite = false)) ∧
    ∀ (t : Target) (segment : String) (scene after : Scene) (a : Answer),
      t.segments = ["", "series", segment] →
      s.handle (m := Act) "GET" t scene = (a, after) → a.status = 200 →
      ∃ (metric : Metric) (w : Window) (values : Series) (items : List Raw),
        s.prepare segment t.pairs = .ok (metric, w) ∧
        (metric.fetch (m := Act) w).run scene = (.ok values, after) ∧
        a.body = SeriesAnswer.render ⟨metric.label, w.start, w.stop, w.step, values⟩ ∧
        IsSeriesText a.body.toList metric.label w.start w.stop w.step items ∧
        after.counters.missing = scene.counters.missing + values.countP Binary64.isNan ∧
        items.countP Raw.isNull =
          values.countP Binary64.isNan + values.countP Binary64.isInfinite ∧
        (after.counters.missing = scene.counters.missing + items.countP Raw.isNull ↔
          ∀ x ∈ values, x.isInfinite = false) := by
  refine ⟨⟨_, shown.isSeriesText_text, List.length_map _, ?_, ?_⟩, ?_⟩
  · intro k x hx
    rw [List.getElem?_map, hx, Option.map_some, Option.some.injEq, Raw.ofReal_eq_null_iff,
      Binary64.isFinite_eq_false_iff]
    refine ⟨Iff.rfl, fun hfinite => ?_⟩
    obtain ⟨n, hn, -, -, hread⟩ := Raw.ofReal_of_isFinite hfinite
    exact ⟨n, congrArg some hn, hread⟩
  · exact shown.values.getElem?_eq_null_iff
  · intro t segment scene after a hsegments hhandle hstatus
    obtain ⟨metric, w, values, hprepare, hfetch, hbody⟩ :=
      Service.exists_fetch_of_success hsegments hhandle hstatus
    have hmissing := Metric.missing_of_fetch hfetch
    have hnulls := values.countP_isNull
    refine ⟨metric, w, values, values.map Raw.ofReal, hprepare, hfetch, hbody, ?_, hmissing,
      hnulls, ?_⟩
    · rw [hbody, SeriesAnswer.render, String.toList_ofList]
      exact SeriesAnswer.isSeriesText_text _
    · have hnone : (∀ x ∈ values, x.isInfinite = false) ↔
          values.countP Binary64.isInfinite = 0 := by
        simp only [List.countP_eq_zero, Bool.not_eq_true]
      rw [hmissing, hnulls, hnone]
      omega

/-- A store that tells this for the database `cpu`. -/
def Scene.telling (row : Value) : Scene where
  network := { script := ⟨[("GET /cpu/_query", [{ body := row.render }])]⟩ }

/-- A request for as many points of that database. -/
def Target.cpu (stop : String) : Target :=
  ⟨"/series/cpu".toList, ("ptr=x&reducer=avg&label=m&start=0&step=1&stop=" ++ stop).toList⟩

/-- What is fetched for such a request. -/
def fetchedCpu (s : Service) (stop : String) (row : Value) :
    Except Answer (String × Except Failure Series) :=
  (s.prepare "cpu" (Target.cpu stop).pairs).map fun (metric, w) =>
    (metric.label, ((metric.fetch (m := Act) w).run (.telling row)).1)

/-- A point without an entry is null, and a sample beside it is a number; a store that has one of
two points is answered for with its one null counted. -/
theorem nulls_of_served_series_of_gap :
    let shown : SeriesAnswer := ⟨"m", 0, 2, 1, [.nan, .ofInt (-7)]⟩
    let s : Service := ⟨⟨"http://localhost:3133/"⟩, .atLocalStore⟩
    let scene : Scene := .telling (.object [("1", .array [.integer (-7)])])
    (∃ items n, IsSeriesText shown.text "m" 0 2 1 items ∧ items.length = 2 ∧
      items[0]? = some .null ∧ items[1]? = some (.number n) ∧
      Binary64.ofText? n.text = some (.ofInt (-7))) ∧
    ∃ (a : Answer) (after : Scene) (w : Window) (items : List Raw),
      s.handle (m := Act) "GET" (.cpu "2") scene = (a, after) ∧ a.status = 200 ∧
      a.body = SeriesAnswer.render ⟨"m", w.start, w.stop, w.step, [.nan, .ofInt (-7)]⟩ ∧
      IsSeriesText a.body.toList "m" w.start w.stop w.step items ∧
      items.countP Raw.isNull = 1 ∧ scene.counters.missing = 0 ∧ after.counters.missing = 1 := by
  intro shown s scene
  have hnulls := nulls_of_served_series shown s
  obtain ⟨items, htext, hlength, hsamples, -⟩ := hnulls.1
  have hnull := (hsamples 0 .nan rfl).1.2 (Or.inl rfl)
  obtain ⟨n, hn, hread⟩ := (hsamples 1 (.ofInt (-7)) rfl).2 (by decide +kernel)
  refine ⟨⟨items, n, htext, hlength, hnull, hn, hread⟩, ?_⟩
  have hsegments : (Target.cpu "2").segments = ["", "series", "cpu"] := by decide +kernel
  have hstatus : (s.handle (m := Act) "GET" (.cpu "2") scene).1.status = 200 := by decide +kernel
  have hfetched : fetchedCpu s "2" (.object [("1", .array [.integer (-7)])]) =
      .ok ("m", .ok [.nan, .ofInt (-7)]) := by
    decide +kernel
  rcases hhandle : s.handle (m := Act) "GET" (.cpu "2") scene with ⟨a, after⟩
  rw [hhandle] at hstatus
  obtain ⟨metric, w, values, items, hprepare, hfetch, hbody, htext, hgrowth, hcount, -⟩ :=
    hnulls.2 _ "cpu" scene after a hsegments hhandle hstatus
  rw [fetchedCpu, hprepare] at hfetched
  obtain ⟨hlabel, hvalues⟩ := Prod.mk.inj (Except.ok.inj hfetched)
  obtain rfl : values = [.nan, .ofInt (-7)] :=
    Except.ok.inj ((congrArg Prod.fst hfetch).symm.trans hvalues)
  rw [hlabel] at hbody htext
  refine ⟨a, after, w, items, rfl, hstatus, hbody, htext, hcount.trans ?_, rfl, hgrowth.trans ?_⟩
  · decide +kernel
  · decide +kernel

/-- An entry whose text spells infinity makes a sample that is a number and null in the answer. The
answer of a service with it has a null, and nothing is counted as missing. -/
theorem infinite_sample_is_null :
    let w : Window := ⟨0, 1, 1, by decide⟩
    let row : Value := .object [("0", .array [.string "inf"])]
    let values := Series.densify w row
    let s : Service := ⟨⟨"http://localhost:3133/"⟩, .atLocalStore⟩
    let scene : Scene := .telling row
    values = [.signed false .infinite] ∧ values.countP Binary64.isNan = 0 ∧
      IsSeriesText (SeriesAnswer.text ⟨"m", 0, 1, 1, values⟩) "m" 0 1 1 [.null] ∧
      ∃ (a : Answer) (after : Scene), s.handle (m := Act) "GET" (.cpu "1") scene = (a, after) ∧
        a.status = 200 ∧ a.body = SeriesAnswer.render ⟨"m", 0, 1, 1, values⟩ ∧
        after.counters.missing = scene.counters.missing := by
  intro w row values s scene
  have hvalues : values = [.signed false .infinite] := by
    change Series.densify ⟨0, 1, 1, _⟩ (.object [("0", .array [.string "inf"])]) = _
    cbv
  refine ⟨hvalues, by rw [hvalues]; rfl, ?_, _, _, rfl, ?_, ?_, ?_⟩
  · rw [hvalues]
    exact SeriesAnswer.isSeriesText_text ⟨"m", 0, 1, 1, [.signed false .infinite]⟩
  · decide +kernel
  · rw [hvalues]
    decide +kernel
  · decide +kernel

end SeriesGateway
