import SeriesGateway.Proofs.Metric.Range
import SeriesGateway.Proofs.Series.Rows
import SeriesGateway.Scene
import SeriesGateway.Store.Fetch

namespace SeriesGateway

open Json

namespace Text

/-- White space and nothing else. -/
def IsBlank (cs : List Char) : Prop :=
  ∀ c ∈ cs, isBlank c = true

theorem isEmpty_trim_iff {cs : List Char} : (trim cs).isEmpty = true ↔ IsBlank cs := by
  refine ⟨all_isBlank_of_trim_isEmpty, fun h => ?_⟩
  have hstart : trimStart cs = [] := List.dropWhile_eq_nil_iff.2 h
  rw [trim, hstart]
  rfl

end Text

/-- Values that carry no data: null, false, the empty string, and zero as an integer or of either
sign. -/
inductive Json.Value.IsVoid : Value → Prop
  | null : IsVoid .null
  | no : IsVoid (.boolean false)
  | integer : IsVoid (.integer 0)
  | real (negative : Bool) : IsVoid (.real (.signed negative .zero))
  | string : IsVoid (.string "")

namespace Series

theorem isBlankAnswer_iff {v : Value} : isBlankAnswer v = true ↔ v.IsVoid := by
  constructor
  · intro h
    match v with
    | .null => exact .null
    | .boolean b =>
      obtain rfl : b = false := by simpa [isBlankAnswer] using h
      exact .no
    | .integer n =>
      obtain rfl : n = 0 := by simpa [isBlankAnswer] using h
      exact .integer
    | .real .nan => cases h
    | .real (.signed negative m) =>
      have hm : m = .zero := by
        cases m
        simp only [isBlankAnswer, Binary64.isZero, beq_iff_eq] at h
        cases h
        rfl
      rw [hm]
      exact .real negative
    | .string s =>
      obtain rfl : s = "" := by simpa [isBlankAnswer] using h
      exact .string
    | .array _ => cases h
    | .object _ => cases h
  · intro h
    cases h <;> rfl

/-- A text of white space is no JSON text, and no error either. -/
theorem readSeriesBody_of_isBlank {body : List Char} (h : Text.IsBlank body) :
    readSeriesBody body = .ok none := by
  rw [readSeriesBody, readBody, if_pos (Text.isEmpty_trim_iff.2 h)]
  rfl

theorem not_isBlank_of_ofText? {body : List Char} {v : Value} (h : Value.ofText? body = some v) :
    ¬Text.IsBlank body := by
  intro hblank
  rw [Value.ofText?, Raw.ofText?_of_all_isBlank hblank] at h
  cases h

theorem readSeriesBody_of_ofText? {body : List Char} {v : Value}
    (h : Value.ofText? body = some v) :
    readSeriesBody body = .ok (if isBlankAnswer v then none else some v) := by
  rw [readSeriesBody, readBody, if_neg (Text.isEmpty_trim_iff.not.2 (not_isBlank_of_ofText? h)), h]
  rfl

theorem readSeriesBody_of_unreadable {body : List Char} (hblank : ¬Text.IsBlank body)
    (h : Value.ofText? body = none) :
    readSeriesBody body = .error (.unreadable "the body is no JSON text") := by
  rw [readSeriesBody, readBody, if_neg (Text.isEmpty_trim_iff.not.2 hblank), h]
  rfl

end Series

namespace Arrival

/-- No whole answer: nothing arrives, or the body of a success breaks off. -/
inductive IsBroken : Arrival → Prop
  | lost : IsBroken .lost
  | cut {body : Body} (h : body.complete = false) : IsBroken (.answered 200 body)

/-- An answer of another status than success, whatever its body. -/
inductive Refuses : Arrival → Nat → Prop
  | head {status : Nat} {body : Body} (h : status ≠ 200) : Refuses (.answered status body) status

/-- A success with the whole of its body, and the text of that. -/
inductive Brings : Arrival → List Char → Prop
  | whole {body : Body} (h : body.complete = true) :
    Brings (.answered 200 body) (textOfBytes body.bytes)

theorem cases (a : Arrival) : a.IsBroken ∨ (∃ status, a.Refuses status) ∨ ∃ text, a.Brings text := by
  match a with
  | .lost => exact Or.inl .lost
  | .answered status body =>
    by_cases hstatus : status = 200
    · subst hstatus
      cases hcomplete : body.complete with
      | true => exact Or.inr (Or.inr ⟨_, .whole hcomplete⟩)
      | false => exact Or.inl (.cut hcomplete)
    · exact Or.inr (Or.inl ⟨_, .head hstatus⟩)

theorem IsBroken.not_refuses {a : Arrival} (h : a.IsBroken) (s : Nat) : ¬a.Refuses s := by
  cases h with
  | lost => rintro ⟨⟩
  | cut => rintro ⟨hstatus⟩; exact hstatus rfl

theorem IsBroken.not_brings {a : Arrival} (h : a.IsBroken) (text : List Char) :
    ¬a.Brings text := by
  cases h with
  | lost => rintro ⟨⟩
  | cut hcut => rintro ⟨hwhole⟩; rw [hcut] at hwhole; cases hwhole

theorem Refuses.not_brings {a : Arrival} {s : Nat} (h : a.Refuses s) (text : List Char) :
    ¬a.Brings text := by
  cases h with
  | head hstatus => rintro ⟨⟩; exact hstatus rfl

theorem Refuses.refuses_iff {a : Arrival} {s : Nat} (h : a.Refuses s) (t : Nat) :
    a.Refuses t ↔ s = t := by
  cases h with
  | head hstatus =>
    refine ⟨?_, ?_⟩
    · rintro ⟨⟩
      rfl
    · rintro rfl
      exact .head hstatus

theorem Brings.not_isBroken {a : Arrival} {text : List Char} (h : a.Brings text) : ¬a.IsBroken :=
  fun hbroken => hbroken.not_brings text h

theorem Brings.not_refuses {a : Arrival} {text : List Char} (h : a.Brings text) (s : Nat) :
    ¬a.Refuses s :=
  fun hrefuses => hrefuses.not_brings text h

theorem Brings.brings_iff {a : Arrival} {text : List Char} (h : a.Brings text)
    (other : List Char) : a.Brings other ↔ other = text := by
  cases h with
  | whole hwhole =>
    refine ⟨?_, ?_⟩
    · rintro ⟨⟩
      rfl
    · rintro rfl
      exact .whole hwhole

theorem IsBroken.exists_transport {a : Arrival} (h : a.IsBroken) :
    ∃ detail, a.success >>= Body.whole = .error (.transport detail) := by
  cases h with
  | lost => exact ⟨_, rfl⟩
  | @cut body hcut =>
    refine ⟨"the body of the answer broke off", ?_⟩
    change body.whole = _
    rw [Body.whole, if_neg (by simp [hcut])]

theorem Refuses.success_eq {a : Arrival} {s : Nat} (h : a.Refuses s) :
    a.success >>= Body.whole = .error (.status s) := by
  cases h with
  | head hstatus =>
    unfold success
    split
    · rename_i heq
      cases heq
    · rename_i heq
      cases heq
      exact absurd rfl hstatus
    · rename_i heq
      cases heq
      rfl

theorem Brings.exists_bytes {a : Arrival} {text : List Char} (h : a.Brings text) :
    ∃ bytes, a.success >>= Body.whole = .ok bytes ∧ textOfBytes bytes = text := by
  cases h with
  | @whole body hwhole =>
    refine ⟨body.bytes, ?_, rfl⟩
    change body.whole = _
    rw [Body.whole, if_pos hwhole]

end Arrival

/-- Which outcome of a fetch over a window goes with which arrival, where `u` was asked. -/
structure Metric.Outcome (u : Url) (w : Window) (a : Arrival) (r : Except Failure Series) :
    Prop where
  transport : (∃ detail, r = .error (.transport detail)) ↔ a.IsBroken
  status : ∀ s, r = .error (.status s) ↔ a.Refuses s
  unreadable : (∃ detail, r = .error (.unreadable detail)) ↔
    ∃ text, a.Brings text ∧ ¬Text.IsBlank text ∧ Value.ofText? text = none
  noData : ∀ url, r = .error (.noData url) ↔ url = u.render ∧
    ∃ text, a.Brings text ∧ (Text.IsBlank text ∨ ∃ v, Value.ofText? text = some v ∧ v.IsVoid)
  series : ∀ s, r = .ok s ↔
    ∃ text v, a.Brings text ∧ Value.ofText? text = some v ∧ ¬v.IsVoid ∧ s = Series.densify w v
  length : ∀ s, r = .ok s → s.length = w.length
  only : (∃ detail, r = .error (.transport detail)) ∨ (∃ s, r = .error (.status s)) ∨
    (∃ detail, r = .error (.unreadable detail)) ∨ r = .error (.noData u.render) ∨ ∃ s, r = .ok s

namespace Metric.Outcome

variable {u : Url} {w : Window} {a : Arrival}

theorem of_isBroken (h : a.IsBroken) (detail : String) :
    Outcome u w a (.error (.transport detail)) := by
  constructor <;> simp [h, h.not_refuses, h.not_brings]

theorem of_refuses {s : Nat} (h : a.Refuses s) : Outcome u w a (.error (.status s)) := by
  have hbroken : ¬a.IsBroken := fun hbroken => hbroken.not_refuses s h
  constructor <;> simp [h.refuses_iff, h.not_brings, hbroken]

section Brings

variable {text : List Char} (h : a.Brings text)
include h

theorem of_unreadable (hblank : ¬Text.IsBlank text) (hread : Value.ofText? text = none)
    (detail : String) : Outcome u w a (.error (.unreadable detail)) := by
  constructor <;> simp [h.brings_iff, h.not_isBroken, h.not_refuses, hblank, hread]

theorem of_isBlank (hblank : Text.IsBlank text) : Outcome u w a (.error (.noData u.render)) := by
  have hread : Value.ofText? text = none := by
    rw [Option.eq_none_iff_forall_ne_some]
    exact fun v hread => Series.not_isBlank_of_ofText? hread hblank
  constructor <;> simp [h.brings_iff, h.not_isBroken, h.not_refuses, hblank, hread, eq_comm]

theorem of_isVoid {v : Value} (hread : Value.ofText? text = some v) (hvoid : v.IsVoid) :
    Outcome u w a (.error (.noData u.render)) := by
  constructor <;> simp [h.brings_iff, h.not_isBroken, h.not_refuses, hread, hvoid, eq_comm]

theorem of_series {v : Value} (hread : Value.ofText? text = some v) (hvoid : ¬v.IsVoid) :
    Outcome u w a (.ok (Series.densify w v)) := by
  have hblank := Series.not_isBlank_of_ofText? hread
  constructor <;>
    simp [h.brings_iff, h.not_isBroken, h.not_refuses, hblank, hread, hvoid,
      Series.length_densify, eq_comm]

end Brings

end Metric.Outcome

namespace Ask

variable {metric : Metric} {w : Window} {u : Url}

/-- The one request of a fetch, and what is read from each arrival for it. -/
theorem exists_series_of_url (h : metric.url w = .ok u) :
    ∃ ask, Ask.series metric w = .ok ask ∧ ask.operation = .series ∧ ask.request = ⟨.get, u⟩ ∧
      ∀ a, Metric.Outcome u w a (ask.read a).answer := by
  rw [Ask.series, h]
  refine ⟨_, rfl, rfl, rfl, fun a => ?_⟩
  dsimp only
  rcases a.cases with hbroken | ⟨s, hrefuses⟩ | ⟨text, hbrings⟩
  · obtain ⟨detail, hdetail⟩ := hbroken.exists_transport
    rw [hdetail]
    exact .of_isBroken hbroken detail
  · rw [hrefuses.success_eq]
    exact .of_refuses hrefuses
  · obtain ⟨bytes, hbytes, htext⟩ := hbrings.exists_bytes
    rw [hbytes]
    dsimp only
    rw [htext]
    by_cases hblank : Text.IsBlank text
    · rw [Series.readSeriesBody_of_isBlank hblank]
      exact .of_isBlank hbrings hblank
    cases hread : Value.ofText? text with
    | none =>
      rw [Series.readSeriesBody_of_unreadable hblank hread]
      exact .of_unreadable hbrings hblank hread _
    | some v =>
      rw [Series.readSeriesBody_of_ofText? hread]
      by_cases hvoid : v.IsVoid
      · rw [if_pos (Series.isBlankAnswer_iff.2 hvoid)]
        exact .of_isVoid hbrings hread hvoid
      · rw [if_neg (Series.isBlankAnswer_iff.not.2 hvoid)]
        exact .of_series hbrings hread hvoid

end Ask

namespace Metric

theorem isInvalidUrl_of_url {metric : Metric} {w : Window} {f : Failure}
    (h : metric.url w = .error f) : ∃ detail, f = .invalidUrl detail := by
  unfold url at h
  split at h
  · cases h
  · cases h
    exact ⟨_, rfl⟩

section

variable {metric : Metric} {w : Window} {m : Type → Type} [Monad m] [StoreLink m]

/-- A fetch is its one request. -/
theorem fetch_of_series {ask : Ask (Except Failure Series)} (h : Ask.series metric w = .ok ask) :
    metric.fetch w = (perform ask : ExceptT Failure m Series) := by
  rw [fetch, h]
  rfl

/-- Without a URL there is no request. -/
theorem fetch_of_failure {f : Failure} (h : metric.url w = .error f) :
    metric.fetch w = (throw f : ExceptT Failure m Series) := by
  rw [fetch, Ask.series, h]
  rfl

end

theorem attempts_perform {α : Type} (scene : Scene) (ask : Ask α) :
    (scene.perform ask).2.attempts = scene.attempts ++ [(ask.operation, ask.request)] :=
  rfl

/-- What is sent of a URL that is asked over a plain connection. -/
theorem seen_of_exchange {n : Network} {u : Url} (hup : n.isUp = true) (hscheme : u.scheme = "http") :
    (n.exchange ⟨.get, u⟩).2.seen = n.seen ++ ["GET " ++ (Network.sentUrl u).render] := by
  rw [Network.exchange, if_neg (by simp [hup])]
  cases n.others ⟨.get, u⟩ with
  | some arrival => rfl
  | none =>
    dsimp only
    rw [if_pos hscheme]
    rfl

/-- A fetch sends one request, the URL of the metric, and its outcome is told by what arrives for
that; every arrival has its outcome, and only one. Without a URL nothing is sent and nothing is
counted. -/
theorem fetch_outcome (metric : Metric) (w : Window) :
    (∀ u, metric.url w = .ok u → ∃ ask : Ask (Except Failure Series),
      ask.operation = .series ∧ ask.request = ⟨.get, u⟩ ∧
      (∀ a, Outcome u w a (ask.read a).answer) ∧
      (∀ {m : Type → Type} [Monad m] [StoreLink m],
        metric.fetch w = (perform ask : ExceptT Failure m Series)) ∧
      ∀ scene : Scene, ∃ after : Scene,
        (metric.fetch (m := Act) w).run scene =
          ((ask.read (scene.network.exchange ⟨.get, u⟩).1).answer, after) ∧
        after.attempts = scene.attempts ++ [(.series, ⟨.get, u⟩)] ∧
        (scene.network.isUp = true → u.scheme = "http" → after.network.seen =
          scene.network.seen ++ ["GET " ++ (Network.sentUrl u).render])) ∧
    ∀ f, metric.url w = .error f → (∃ detail, f = .invalidUrl detail) ∧
      (∀ {m : Type → Type} [Monad m] [StoreLink m],
        metric.fetch w = (throw f : ExceptT Failure m Series)) ∧
      ∀ scene : Scene, (metric.fetch (m := Act) w).run scene = (.error f, scene) := by
  refine ⟨fun u hu => ?_, fun f hf => ?_⟩
  · obtain ⟨ask, hask, hoperation, hrequest, houtcome⟩ := Ask.exists_series_of_url hu
    refine ⟨ask, hoperation, hrequest, houtcome, fetch_of_series hask, ?_⟩
    intro scene
    refine ⟨(scene.perform ask).2, ?_, ?_, ?_⟩
    · rw [fetch_of_series hask, ← hrequest]
      rfl
    · rw [attempts_perform, hoperation, hrequest]
    · intro hup hscheme
      rw [← seen_of_exchange hup hscheme, ← hrequest]
      rfl
  · refine ⟨isInvalidUrl_of_url hf, fetch_of_failure hf, fun scene => ?_⟩
    rw [fetch_of_failure hf]
    rfl

/-- A number below all others but zero carries no data, and a broken answer of another status than
success is refused for its status. A base that is no URL is not asked. -/
theorem fetch_outcome_of_least_number :
    let w : Window := ⟨0, 3, 1, by decide⟩
    let nowhere : Metric := { sample with source := ⟨"/"⟩ }
    ∃ u, sample.url w = .ok u ∧ u.scheme = "http" ∧
      (∃ ask : Ask (Except Failure Series), ask.request = ⟨.get, u⟩ ∧
        (ask.read (.answered 200 ⟨["1e-400".toUTF8], true⟩)).answer =
          .error (.noData u.render) ∧
        (ask.read (.answered 503 ⟨["1e-400".toUTF8], false⟩)).answer = .error (.status 503)) ∧
      ∃ detail, ∀ scene : Scene,
        (nowhere.fetch (m := Act) w).run scene = (.error (.invalidUrl detail), scene) := by
  intro w nowhere
  have hread : Url.read sample.address.toList = .ok
      { scheme := "http"
        authority := some ⟨[], [], .name "localhost".toList, some 3133⟩
        isSetOff := false, path := .rooted ["cpu".toList, "_query".toList]
        query := none, fragment := none } := by
    decide +kernel
  have hurl := (url_eq_ok_iff (w := w)).2 ⟨_, hread, rfl⟩
  have hzero : NumberText.real? ⟨false, ['1'], none, some (true, ['4', '0', '0'])⟩ =
      some (.signed false .zero) := by
    decide +kernel
  have hraw : Raw.ofText? "1e-400".toList =
      some (.number ⟨false, ['1'], none, some (true, ['4', '0', '0'])⟩) := by
    cbv
  have hvalue : Value.ofText? "1e-400".toList = some (.real (.signed false .zero)) := by
    rw [Value.ofText?, hraw, Option.bind_some, Raw.value?, NumberText.value?, hzero]
    rfl
  have htext : textOfBytes (Body.bytes ⟨["1e-400".toUTF8], true⟩) = "1e-400".toList := by
    decide +kernel
  refine ⟨_, hurl, rfl, ?_, ?_⟩
  · obtain ⟨ask, -, hrequest, houtcome, -⟩ := (fetch_outcome sample w).1 _ hurl
    refine ⟨ask, hrequest, ?_, ?_⟩
    · rw [(houtcome _).noData]
      exact ⟨rfl, _, .whole rfl, Or.inr ⟨_, htext ▸ hvalue, .real false⟩⟩
    · rw [(houtcome _).status]
      exact .head (by decide)
  · cases hnowhere : nowhere.url w with
    | ok u =>
      obtain ⟨b, hb, -⟩ := url_eq_ok_iff.1 hnowhere
      have hrelative : (Url.read nowhere.address.toList).isOk = false := by decide +kernel
      rw [hb] at hrelative
      cases hrelative
    | error f =>
      obtain ⟨⟨detail, rfl⟩, -, hscene⟩ := (fetch_outcome nowhere w).2 f hnowhere
      exact ⟨detail, hscene⟩

end Metric

end SeriesGateway
