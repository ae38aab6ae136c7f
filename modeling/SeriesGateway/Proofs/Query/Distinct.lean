import SeriesGateway.Proofs.Query.Clock

namespace SeriesGateway

namespace Query

/-- The values that stand under a name, in order. -/
def valuesOf (name : String) (pairs : List (String × String)) : List String :=
  (pairs.filter (·.1 = name)).map Prod.snd

theorem valuesOf_cons (name other value : String) (pairs : List (String × String)) :
    valuesOf name ((other, value) :: pairs) =
      if other = name then value :: valuesOf name pairs else valuesOf name pairs := by
  simp only [valuesOf, List.filter_cons, decide_eq_true_eq]
  split_ifs <;> rfl

theorem valuesOf_append (name : String) (front back : List (String × String)) :
    valuesOf name (front ++ back) = valuesOf name front ++ valuesOf name back := by
  simp [valuesOf]

theorem valuesOf_timePair (name other : String) (t : Option Instant) :
    valuesOf name (timePair other t) =
      if other = name then t.toList.map Timestamp.Rfc3339.text else [] := by
  cases t with
  | none => simp [valuesOf, timePair]
  | some t => exact valuesOf_cons name other _ []

/-- Items that are written as a pair of pairs each. -/
theorem valuesOf_flatMap {α : Type} {first second : String} (hne : first ≠ second) (f g : α → String)
    (name : String) (items : List α) :
    valuesOf name (items.flatMap fun item => [(first, f item), (second, g item)]) =
      if first = name then items.map f else if second = name then items.map g else [] := by
  induction items with
  | nil => simp [valuesOf]
  | cons item items ih =>
    rw [List.flatMap_cons, valuesOf_append, ih, valuesOf_cons, valuesOf_cons]
    split_ifs with hfirst hsecond
    · exact absurd (hfirst.trans hsecond.symm) hne
    all_goals rfl

/-- No part of a query shares its names with another. -/
theorem valuesOf_pairs (name : String) (q : Query) :
    valuesOf name q.pairs =
      (if "group" = name then [integerText q.group.milliseconds] else []) ++
      (if "from" = name then q.earliest.toList.map Timestamp.Rfc3339.text else []) ++
      (if "to" = name then q.latest.toList.map Timestamp.Rfc3339.text else []) ++
      (if "ptr" = name then q.fields.map (·.pointer)
        else if "reducer" = name then q.fields.map (·.reducer) else []) ++
      (if "f" = name then q.filters.map (·.pointer)
        else if "fv" = name then q.filters.map (·.wanted) else []) := by
  have hgroup : valuesOf name [("group", integerText q.group.milliseconds)] =
      if "group" = name then [integerText q.group.milliseconds] else [] := valuesOf_cons ..
  have hfields := valuesOf_flatMap (by decide : "ptr" ≠ "reducer") Field.pointer Field.reducer name
    q.fields
  have hfilters := valuesOf_flatMap (by decide : "f" ≠ "fv") Filter.pointer Filter.wanted name
    q.filters
  rw [← hgroup, ← valuesOf_timePair, ← valuesOf_timePair, ← hfields, ← hfilters,
    ← valuesOf_append, ← valuesOf_append, ← valuesOf_append, ← valuesOf_append]
  rfl

theorem eq_of_map_eq {α β γ : Type} {f : α → β} {g : α → γ} (hinj : ∀ a b, f a = f b → g a = g b → a = b)
    {as bs : List α} (hf : as.map f = bs.map f) (hg : as.map g = bs.map g) : as = bs := by
  have hzip : as.map (fun a => (f a, g a)) = bs.map fun a => (f a, g a) := by
    rw [← List.zip_map', hf, hg, List.zip_map']
  exact List.map_injective_iff.2 (fun a b h => hinj a b (Prod.mk.inj h).1 (Prod.mk.inj h).2) hzip

/-- The times of a query are times of the clock. -/
def HasClockTimes (q : Query) : Prop :=
  (∀ t ∈ q.earliest, t.IsClockTime) ∧ ∀ t ∈ q.latest, t.IsClockTime

theorem time_inj {s t : Option Instant} (hs : ∀ i ∈ s, i.IsClockTime) (ht : ∀ i ∈ t, i.IsClockTime)
    (h : s.toList.map Timestamp.Rfc3339.text = t.toList.map Timestamp.Rfc3339.text) : s = t := by
  cases s <;> cases t
  · rfl
  · cases h
  · cases h
  · rename_i s t
    rw [Timestamp.Rfc3339.text_inj (hs s rfl) (ht t rfl) (List.cons.inj h).1]

/-- Two queries ask the same: groups of one length, the same range, fields and filters. -/
structure SameAs (p q : Query) : Prop where
  milliseconds : p.group.milliseconds = q.group.milliseconds
  earliest : p.earliest = q.earliest
  latest : p.latest = q.latest
  fields : p.fields = q.fields
  filters : p.filters = q.filters

theorem pairs_eq_iff {p q : Query} (hp : p.HasClockTimes) (hq : q.HasClockTimes) :
    p.pairs = q.pairs ↔ p.SameAs q := by
  constructor
  · intro h
    have hvalues (name : String) := congrArg (valuesOf name) h
    simp only [valuesOf_pairs] at hvalues
    refine ⟨?_, time_inj hp.1 hq.1 ?_, time_inj hp.2 hq.2 ?_, ?_, ?_⟩
    · have hgroup := hvalues "group"
      simp at hgroup
      exact Numeral.intText_injective (String.ofList_injective hgroup)
    · simpa using hvalues "from"
    · simpa using hvalues "to"
    · apply eq_of_map_eq (f := Field.pointer) (g := Field.reducer)
      · rintro ⟨pointer, reducer⟩ ⟨_, _⟩ rfl rfl
        rfl
      · simpa using hvalues "ptr"
      · simpa using hvalues "reducer"
    · apply eq_of_map_eq (f := Filter.pointer) (g := Filter.wanted)
      · rintro ⟨pointer, reducer⟩ ⟨_, _⟩ rfl rfl
        rfl
      · simpa using hvalues "f"
      · simpa using hvalues "fv"
  · rintro ⟨hgroup, hearliest, hlatest, hfields, hfilters⟩
    rw [pairs, pairs, hgroup, hearliest, hlatest, hfields, hfilters]

end Query

end SeriesGateway
