import SeriesGateway.Proofs.Json.Value
import SeriesGateway.Proofs.Text.Blank
import SeriesGateway.Proofs.Window.Grid
import SeriesGateway.Store.Client

namespace SeriesGateway

open Json

namespace Series

theorem toList_key (t : Int64) : (key t).toList = Numeral.intText t.toInt :=
  String.toList_ofList

theorem key_injective : Function.Injective key := by
  intro s t h
  have htext := congrArg String.toList h
  rw [toList_key, toList_key] at htext
  exact Int64.toInt.inj (Numeral.intText_injective htext)

/-- Under the text of a timestamp stands what stands under the timestamp. -/
theorem lookup_key {α β : Type} (f : α → β) (t : Int64) (entries : List (Int64 × α)) :
    (entries.map fun entry => (key entry.1, f entry.2)).lookup (key t) =
      (entries.lookup t).map f := by
  induction entries with
  | nil => rfl
  | cons entry rest ih =>
    rw [List.map_cons, Ordered.lookup_cons_eq_if, Ordered.lookup_cons_eq_if, ih]
    by_cases h : t = entry.1
    · rw [if_pos h, if_pos (congrArg key h)]
      rfl
    · rw [if_neg h, if_neg (fun hkey => h (key_injective hkey))]

/-- A sample of a series is read under the text of its point. -/
theorem getElem?_densify (w : Window) (data : Value) {k : Nat} (hk : k < w.length) :
    ∃ t : Int64, t.toInt = w.start.toInt + k * w.step.toInt ∧
      (densify w data)[k]? = some (((data.member? (key t)).map firstSample).getD .nan) := by
  obtain ⟨t, ht, hpoint⟩ := w.getElem?_timestamps hk
  refine ⟨t, hpoint, ?_⟩
  rw [densify, List.getElem?_map, ht]
  rfl

theorem eq_pair_of_getElem? {α : Type} {list : List α} {a b : α} (hlength : list.length = 2)
    (hfirst : list[0]? = some a) (hsecond : list[1]? = some b) : list = [a, b] := by
  obtain ⟨c, d, rfl⟩ := List.length_eq_two.1 hlength
  cases hfirst
  cases hsecond
  rfl

theorem length_densify (w : Window) (data : Value) : (densify w data).length = w.length := by
  rw [densify, List.length_map, w.length_timestamps]

/-- A body with an object in it carries data. -/
theorem readSeriesBody_of_object {body : List Char} {members : List (String × Value)}
    (h : Value.ofText? body = some (.object members)) :
    readSeriesBody body = .ok (some (.object members)) := by
  have hblank : (Text.trim body).isEmpty = false := by
    cases hb : (Text.trim body).isEmpty with
    | false => rfl
    | true =>
      rw [Value.ofText?, Raw.ofText?_of_all_isBlank (Text.all_isBlank_of_trim_isEmpty hb)] at h
      cases h
  rw [readSeriesBody, readBody, hblank, h]
  rfl

end Series

/-- The keys of rows are exactly the plain decimals of timestamps. -/
theorem rowKey?_eq_some_iff {source : List Char} {t : Int64} :
    rowKey? source = some t ↔ source = Numeral.intText t.toInt := by
  rw [rowKey?, Option.filter_eq_some_iff]
  constructor
  · rintro ⟨-, h⟩
    exact (eq_of_beq h).symm
  · rintro rfl
    exact ⟨Numeral.int64?_intText t, beq_self_eq_true _⟩

theorem eq_array_of_row? {entry : List Char × Raw} {row : Int64 × List Value}
    (h : row? entry = some row) :
    entry.1 = Numeral.intText row.1.toInt ∧
      ∃ items, entry.2 = .array items ∧ Raw.values? (depthLimit - 2) items = some row.2 := by
  obtain ⟨source, item⟩ := entry
  simp only [row?, Option.bind_eq_bind, Option.bind_eq_some_iff] at h
  obtain ⟨t, ht, h⟩ := h
  split at h
  · rename_i items
    obtain ⟨values, hvalues, he⟩ := Option.bind_eq_some_iff.1 h
    cases he
    exact ⟨rowKey?_eq_some_iff.1 ht, items, rfl, hvalues⟩
  · cases h

/-- An entry that makes a row is a member with the text of its timestamp and its list. -/
theorem members?_of_rows {members : List (List Char × Raw)} {rows : List (Int64 × List Value)}
    (h : members.mapM row? = some rows) :
    Raw.members? (depthLimit - 1) members =
      some (rows.map fun row => (Series.key row.1, .array row.2)) := by
  induction members generalizing rows with
  | nil =>
    cases h
    rfl
  | cons entry rest ih =>
    rw [List.mapM_cons] at h
    obtain ⟨row, hrow, h⟩ := Option.bind_eq_some_iff.1 h
    obtain ⟨later, hlater, he⟩ := Option.bind_eq_some_iff.1 h
    cases he
    obtain ⟨source, item⟩ := entry
    obtain ⟨hsource, items, hitem, hvalues⟩ := eq_array_of_row? hrow
    dsimp only at hsource hitem
    subst hsource hitem
    have hname : Raw.text? (Numeral.intText row.1.toInt) = some (Series.key row.1) :=
      Raw.text?_of_isPlain (isPlain_intText _)
    have hitem : Raw.value? (depthLimit - 1) (.array items) = some (.array row.2) := by
      rw [Raw.value?, if_neg (by decide)]
      exact congrArg (Option.map Value.array) hvalues
    rw [Raw.members?, hname, hitem, ih hlater]
    rfl

/-- What the structured reader takes is an object, and under each timestamp it holds the list of
the row there. -/
theorem exists_object_of_readRows? {body : List Char} {rows : Rows}
    (h : readRows? body = some rows) :
    ∃ members, Value.ofText? body = some (.object members) ∧ Ordered.Increasing rows ∧
      ∀ t, (Value.object members).member? (Series.key t) = (rows.lookup t).map .array := by
  unfold readRows? at h
  split at h
  · rename_i members hraw
    obtain ⟨entries, hentries, rfl⟩ := Option.map_eq_some_iff.1 h
    refine ⟨Ordered.ofList (entries.map fun row => (Series.key row.1, .array row.2)), ?_,
      Ordered.increasing_ofList entries, ?_⟩
    · rw [Value.ofText?, hraw, Option.bind_some, Raw.value?, if_neg (by decide),
        members?_of_rows hentries]
      rfl
    · intro t
      rw [Value.member?_object_ofList, ← List.map_reverse, Series.lookup_key,
        Ordered.lookup_ofList]
  · cases h

/-- An answer that the structured reader takes carries data, and in every window the series of it
has the first sample of the row at each point and is missing where no row is. -/
theorem densify_of_readRows? {body : List Char} {rows : Rows} (h : readRows? body = some rows) :
    ∃ v, readSeriesBody body = .ok (some v) ∧ ∀ w : Window,
      (Series.densify w v).length = w.length ∧
      ∀ k < w.length,
        (∀ t row, (t, row) ∈ rows → t.toInt = w.start.toInt + k * w.step.toInt →
          (Series.densify w v)[k]? = some (Series.firstSample (.array row))) ∧
        ((∀ entry ∈ rows, entry.1.toInt ≠ w.start.toInt + k * w.step.toInt) →
          (Series.densify w v)[k]? = some .nan) := by
  obtain ⟨members, hvalue, hincreasing, hmember⟩ := exists_object_of_readRows? h
  refine ⟨.object members, Series.readSeriesBody_of_object hvalue, ?_⟩
  intro w
  refine ⟨Series.length_densify w _, ?_⟩
  intro k hk
  obtain ⟨t, hpoint, hsample⟩ := Series.getElem?_densify w (.object members) hk
  rw [hmember] at hsample
  refine ⟨?_, ?_⟩
  · intro s row hrow hs
    obtain rfl : s = t := Int64.toInt.inj (hs.trans hpoint.symm)
    rw [hsample, Ordered.lookup_of_mem hincreasing.nodup_keys hrow]
    rfl
  · intro hnone
    have hlookup : rows.lookup t = none := by
      apply Ordered.lookup_eq_none
      rintro entry hentry rfl
      exact hnone entry hentry hpoint
    rw [hsample, hlookup]
    rfl

/-- Of two members under one key both readers take the last, here a list that starts with null. -/
theorem densify_of_repeated_key :
    readRows? "\x7b\"1\":[7], \"1\":[null,2],\"-1\":[3]\x7d".toList =
        some [(-1, [.integer 3]), (1, [.null, .integer 2])] ∧
      ∃ v, readSeriesBody "\x7b\"1\":[7], \"1\":[null,2],\"-1\":[3]\x7d".toList = .ok (some v) ∧
        Series.densify ⟨-1, 2, 2, by decide⟩ v = [.ofInt 3, .nan] := by
  have hrows : readRows? "\x7b\"1\":[7], \"1\":[null,2],\"-1\":[3]\x7d".toList =
      some [(-1, [.integer 3]), (1, [.null, .integer 2])] := by cbv
  obtain ⟨v, hv, hseries⟩ := densify_of_readRows? hrows
  obtain ⟨hlength, hpoints⟩ := hseries ⟨-1, 2, 2, by decide⟩
  refine ⟨hrows, v, hv, ?_⟩
  have hfirst := (hpoints 0 (by decide)).1 (-1) _ List.mem_cons_self (by decide)
  have hsecond := (hpoints 1 (by decide)).1 1 _ (List.mem_cons_of_mem _ List.mem_cons_self)
    (by decide)
  exact Series.eq_pair_of_getElem? hlength hfirst hsecond

end SeriesGateway
