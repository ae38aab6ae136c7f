import SeriesGateway.Proofs.Store.DumpRange

namespace SeriesGateway

namespace Ask

/-- A bound that is given, and is no timestamp whose nanoseconds 64 bits hold. -/
def IsUnsendable (bound : Option String) : Prop :=
  ∃ given, bound = some given ∧ given ≠ "" ∧ ∀ t, readInstant given = .ok t →
    ¬(-0x8000000000000000 ≤ t.nanoseconds ∧ t.nanoseconds < 0x8000000000000000)

/-- What is sent for a bound, if it can be sent. -/
inductive SendsBound (name : String) : Option String → List (String × String) → Prop
  | none : SendsBound name none []
  | empty : SendsBound name (some "") []
  | given {given : String} {t : Instant} (hne : given ≠ "") (hread : readInstant given = .ok t) :
      SendsBound name (some given)
        [(name, .ofList (Numeral.intText (t.seconds * 1_000_000_000 + t.nanos)))]

/-- No bound is sent in two ways. -/
theorem SendsBound.unique {name : String} {bound? : Option String}
    {pairs others : List (String × String)} (h : SendsBound name bound? pairs)
    (hothers : SendsBound name bound? others) : pairs = others := by
  cases h with
  | none =>
    cases hothers
    rfl
  | empty =>
    cases hothers with
    | empty => rfl
    | given hne => exact absurd rfl hne
  | given hne hread =>
    cases hothers with
    | empty => exact absurd rfl hne
    | given _ hagain =>
      obtain rfl := Except.ok.inj (hread.symm.trans hagain)
      rfl

theorem not_isUnsendable_none : ¬IsUnsendable none := by
  rintro ⟨given, hgiven, -⟩
  cases hgiven

theorem not_isUnsendable_empty : ¬IsUnsendable (some "") := by
  rintro ⟨given, hgiven, hne, -⟩
  exact hne (Option.some.inj hgiven).symm

theorem isUnsendable_some_iff {given : String} (h : given ≠ "") :
    IsUnsendable (some given) ↔ ∀ t, readInstant given = .ok t → t.nanoseconds? = none := by
  have hnone (t : Instant) : t.nanoseconds? = none ↔
      ¬(-0x8000000000000000 ≤ t.nanoseconds ∧ t.nanoseconds < 0x8000000000000000) := by
    simp [Instant.nanoseconds?]
  simp only [hnone]
  constructor
  · rintro ⟨_, ⟨⟩, -, hall⟩
    exact hall
  · exact fun hall => ⟨given, rfl, h, hall⟩

/-- A bound is sent in nanoseconds, or it fails as a timestamp. -/
theorem bound_sends_or_fails (name : String) (bound? : Option String) :
    (¬IsUnsendable bound? ∧ ∃ pairs, SendsBound name bound? pairs ∧ bound name bound? = .ok pairs) ∨
      (IsUnsendable bound? ∧ ∃ detail, bound name bound? = .error (.timestamp detail)) := by
  cases bound? with
  | none => exact Or.inl ⟨not_isUnsendable_none, [], .none, rfl⟩
  | some given =>
    by_cases hne : given = ""
    · subst hne
      exact Or.inl ⟨not_isUnsendable_empty, [], .empty, rfl⟩
    · rw [isUnsendable_some_iff hne]
      cases hread : readInstant given with
      | error f =>
        obtain ⟨detail, rfl⟩ := isTimestamp_of_readInstant hread
        rw [bound_some hne, hread]
        exact Or.inr ⟨nofun, detail, rfl⟩
      | ok t =>
        rw [bound_of_readInstant hne hread]
        cases hnanos : t.nanoseconds? with
        | none =>
          refine Or.inr ⟨?_, _, rfl⟩
          rintro _ ⟨⟩
          exact hnanos
        | some n =>
          refine Or.inl ⟨fun hall => ?_, _, .given hne hread, ?_⟩
          · rw [hall t rfl] at hnanos
            cases hnanos
          · dsimp only
            rw [Metric.int64Text, Instant.toInt_of_nanoseconds? hnanos]
            rfl

variable {earliest latest : Option String} {first last : List (String × String)}

/-- The bounds make a query of their own, or go on that of the URL of the client. -/
theorem request_of_bounds (hfirst : bound "from" earliest = .ok first)
    (hlast : bound "to" latest = .ok last) (c : Client) (name : String) (sink : Sink) :
    let url := c.endpointUrl name "_dump"
    ∃ ask, dump c name sink earliest latest = .ok ask ∧ ask.operation = .dump ∧
      ask.request = ⟨.get, if (first ++ last).isEmpty then url else url.withPairs (first ++ last)⟩ ∧
      ask.request.url.pairs = url.pairs ++ (first ++ last) := by
  obtain ⟨ask, hask, hpairs⟩ := exists_dump_of_bounds hfirst hlast c name sink
  refine ⟨ask, hask, ?_, ?_, hpairs⟩ <;>
  · rw [dump, hfirst, hlast] at hask
    cases hask
    rfl

/-- A dump is asked for unless one of its bounds cannot be sent. -/
theorem dump_asks_or_fails (earliest latest : Option String) :
    (¬(IsUnsendable earliest ∨ IsUnsendable latest) ∧
      ∃ first last, SendsBound "from" earliest first ∧ SendsBound "to" latest last ∧
        bound "from" earliest = .ok first ∧ bound "to" latest = .ok last) ∨
    ((IsUnsendable earliest ∨ IsUnsendable latest) ∧
      ∃ detail, ∀ (c : Client) (name : String) (sink : Sink),
        dump c name sink earliest latest = .error (.timestamp detail)) := by
  rcases bound_sends_or_fails "from" earliest with
    ⟨hearliest, first, hfirst, hbound⟩ | ⟨hearliest, detail, hbound⟩
  · rcases bound_sends_or_fails "to" latest with
      ⟨hlatest, last, hlast, hbound'⟩ | ⟨hlatest, detail, hbound'⟩
    · exact Or.inl ⟨not_or.2 ⟨hearliest, hlatest⟩, first, last, hfirst, hlast, hbound, hbound'⟩
    · refine Or.inr ⟨Or.inr hlatest, detail, fun c name sink => ?_⟩
      rw [dump, hbound, hbound']
      rfl
  · refine Or.inr ⟨Or.inl hearliest, detail, fun c name sink => ?_⟩
    rw [dump, hbound]
    rfl

end Ask

end SeriesGateway
