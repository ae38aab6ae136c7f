import SeriesGateway.Proofs.Binary64.Exact
import SeriesGateway.Proofs.Series.Rows

namespace SeriesGateway.Series

open Json

/-- What a store keeps for a timestamp: at least one integer or null, none too great for a binary64
number to hold. -/
structure Cells where
  list : List (Option Int)
  list_ne_nil : list ≠ []
  natAbs_le : ∀ n, some n ∈ list → n.natAbs ≤ 2 ^ 53

namespace Cells

/-- The element that a chart shows. -/
def first (cells : Cells) : Option Int :=
  cells.list.head cells.list_ne_nil

def rawOf : Option Int → Raw
  | none => .null
  | some n => .number (.ofInt n)

def valueOf : Option Int → Value
  | none => .null
  | some n => .integer n

/-- The structure that is written for a timestamp. -/
def raw (cells : Cells) : Raw :=
  .array (cells.list.map rawOf)

def values (cells : Cells) : List Value :=
  cells.list.map valueOf

end Cells

/-- A list that has each timestamp of a map once, in some order. -/
structure Lists (m : Int64 → Option Cells) (entries : List (Int64 × Cells)) : Prop where
  nodup : (entries.map Prod.fst).Nodup
  mem_iff : ∀ t cells, (t, cells) ∈ entries ↔ m t = some cells

/-- Entries without a repeated timestamp are a list of the map that looks them up. -/
theorem lists_lookup {entries : List (Int64 × Cells)} (h : (entries.map Prod.fst).Nodup) :
    Lists (fun t => entries.lookup t) entries where
  nodup := h
  mem_iff t cells := by
    refine ⟨Ordered.lookup_of_mem h, ?_⟩
    intro hfound
    obtain ⟨front, behind, rfl, -⟩ := List.lookup_eq_some_iff.1 hfound
    exact List.mem_append_right _ List.mem_cons_self

/-- The object that has a list of cells under the decimal text of each timestamp. -/
def answer (entries : List (Int64 × Cells)) : Raw :=
  .object (entries.map fun entry => (Numeral.intText entry.1.toInt, entry.2.raw))

/-- The sample of a cell; null is a missing one. -/
def cellSample : Option Int → Binary64
  | none => .nan
  | some n => .ofInt n

/-- A list of nulls and small integers is read item by item. -/
theorem values?_cells (depth : Nat) {list : List (Option Int)}
    (h : ∀ n, some n ∈ list → n.natAbs ≤ 2 ^ 53) :
    Raw.values? depth (list.map Cells.rawOf) = some (list.map Cells.valueOf) := by
  induction list with
  | nil => rfl
  | cons cell rest ih =>
    have hrest := ih fun n hn => h n (List.mem_cons_of_mem _ hn)
    have hcell : Raw.value? depth (Cells.rawOf cell) = some (Cells.valueOf cell) := by
      cases cell with
      | none => rfl
      | some n =>
        have hn := h n List.mem_cons_self
        exact NumberText.value?_ofInt (by omega) (by omega)
    simp only [List.map_cons, Raw.values?, hcell, hrest]
    rfl

theorem row?_cells (t : Int64) (cells : Cells) :
    row? (Numeral.intText t.toInt, cells.raw) = some (t, cells.values) := by
  simp only [row?, rowKey?_eq_some_iff.2 rfl, Cells.raw, values?_cells _ cells.natAbs_le]
  rfl

theorem mapM_row?_cells (entries : List (Int64 × Cells)) :
    (entries.map fun entry => (Numeral.intText entry.1.toInt, entry.2.raw)).mapM row? =
      some (entries.map fun entry => (entry.1, entry.2.values)) := by
  induction entries with
  | nil => rfl
  | cons entry rest ih =>
    simp only [List.map_cons, List.mapM_cons, row?_cells, ih]
    rfl

/-- The text of an answer is one that the structured reader takes, whatever its layout. -/
theorem readRows?_of_layout {entries : List (Int64 × Cells)} {body : List Char}
    (h : Layout (answer entries).tokens body) :
    readRows? body =
      some (Ordered.ofList (entries.map fun entry => (entry.1, entry.2.values))) := by
  rw [readRows?, Raw.ofText?_of_layout h, answer]
  simp only [mapM_row?_cells, Option.map_some]

/-- What the map has at a timestamp is what is found there, in whatever order it was written. -/
theorem lookup_of_lists {m : Int64 → Option Cells} {entries : List (Int64 × Cells)}
    (h : Lists m entries) (t : Int64) :
    (Ordered.ofList (entries.map fun entry => (entry.1, entry.2.values))).lookup t =
      (m t).map Cells.values := by
  rw [Ordered.lookup_ofList, ← List.map_reverse]
  cases hm : m t with
  | none =>
    apply Ordered.lookup_eq_none
    intro entry hentry he
    obtain ⟨⟨s, cells⟩, hmem, rfl⟩ := List.mem_map.1 hentry
    have hs := (h.mem_iff s cells).1 (List.mem_reverse.1 hmem)
    rw [show s = t from he, hm] at hs
    cases hs
  | some cells =>
    apply Ordered.lookup_of_mem
    · rw [List.map_map, List.map_reverse, List.nodup_reverse]
      exact h.nodup
    · exact List.mem_map.2 ⟨(t, cells), List.mem_reverse.2 ((h.mem_iff t cells).2 hm), rfl⟩

theorem firstSample_cells (cells : Cells) :
    firstSample (.array cells.values) = cellSample cells.first := by
  obtain ⟨list, hne, hbound⟩ := cells
  cases list with
  | nil => exact absurd rfl hne
  | cons cell rest =>
    cases cell with
    | none => rfl
    | some n => rfl

theorem natAbs_first_le {cells : Cells} {n : Int} (h : cells.first = some n) :
    n.natAbs ≤ 2 ^ 53 :=
  cells.natAbs_le n (h ▸ List.head_mem cells.list_ne_nil)

/-- A map written in any order and with any space is read back as data, and in every window the
series has at each point the first cell that the map has there: the binary64 number that is that
integer, or a missing sample for null and for a timestamp without cells. -/
theorem densify_of_layout {m : Int64 → Option Cells} {entries : List (Int64 × Cells)}
    (hlists : Lists m entries) {body : List Char}
    (hbody : Layout (answer entries).tokens body) :
    ∃ v, readSeriesBody body = .ok (some v) ∧ ∀ w : Window,
      (densify w v).length = w.length ∧
      ∀ k < w.length, ∃ t : Int64, t.toInt = w.start.toInt + k * w.step.toInt ∧
        (∀ n, (m t).bind Cells.first = some n →
          (densify w v)[k]? = some (.ofInt n) ∧ (Binary64.ofInt n).toRat? = some (n : ℚ)) ∧
        ((m t).bind Cells.first = none → (densify w v)[k]? = some .nan) := by
  obtain ⟨members, hvalue, -, hmember⟩ := exists_object_of_readRows? (readRows?_of_layout hbody)
  refine ⟨.object members, readSeriesBody_of_object hvalue, ?_⟩
  intro w
  refine ⟨length_densify w _, ?_⟩
  intro k hk
  obtain ⟨t, hpoint, hsample⟩ := getElem?_densify w (.object members) hk
  rw [hmember, lookup_of_lists hlists] at hsample
  refine ⟨t, hpoint, ?_⟩
  cases hm : m t with
  | none =>
    rw [hm] at hsample
    refine ⟨?_, fun _ => hsample⟩
    intro n hn
    cases hn
  | some cells =>
    have hfirst : (densify w (.object members))[k]? = some (cellSample cells.first) := by
      rw [hm] at hsample
      rw [hsample, ← firstSample_cells]
      rfl
    rw [Option.bind_some]
    refine ⟨?_, ?_⟩
    · intro n hn
      rw [hn] at hfirst
      exact ⟨hfirst, Binary64.toRat?_ofInt (natAbs_first_le hn)⟩
    · intro hnull
      rw [hnull] at hfirst
      exact hfirst

/-- Entries against the order of time, with space around some tokens: null behind a key hides the
five that follows it. -/
theorem densify_of_spaced_text :
    ∃ (m : Int64 → Option Cells) (entries : List (Int64 × Cells)), Lists m entries ∧
      Layout (answer entries).tokens " \x7b\"1\": [null,5] ,\n\"-1\":[-3]\x7d".toList ∧
      ∃ v, readSeriesBody " \x7b\"1\": [null,5] ,\n\"-1\":[-3]\x7d".toList = .ok (some v) ∧
        densify ⟨-1, 3, 2, by decide⟩ v = [.ofInt (-3), .nan] := by
  let late : Cells := ⟨[none, some 5], by simp, by simp⟩
  let early : Cells := ⟨[some (-3)], by simp, by simp⟩
  have hlists : Lists (fun t => [((1 : Int64), late), (-1, early)].lookup t) _ :=
    lists_lookup (by decide)
  have hbody : Layout (answer [(1, late), (-1, early)]).tokens
      " \x7b\"1\": [null,5] ,\n\"-1\":[-3]\x7d".toList := by
    have hnone : ∀ c ∈ ([] : List Char), isSpace c = true := by simp
    have hblank : ∀ c ∈ [' '], isSpace c = true := by simp [isSpace]
    have hline : ∀ c ∈ ['\n'], isSpace c = true := by simp [isSpace]
    have hlayout := Layout.next hblank .braceOpen <|
      .next hnone (.string (isPlain_intText 1)) <| .next hnone .colon <|
      .next hblank .bracketOpen <| .next hnone .null <| .next hnone .comma <|
      .next hnone (.integer 5) <| .next hnone .bracketClose <| .next hblank .comma <|
      .next hline (.string (isPlain_intText (-1))) <| .next hnone .colon <|
      .next hnone .bracketOpen <| .next hnone (.integer (-3)) <| .next hnone .bracketClose <|
      .next hnone .braceClose <| .done hnone
    convert hlayout using 1
    · rfl
    · decide +kernel
  obtain ⟨v, hv, hseries⟩ := densify_of_layout hlists hbody
  refine ⟨_, _, hlists, hbody, v, hv, ?_⟩
  obtain ⟨hlength, hpoints⟩ := hseries ⟨-1, 3, 2, by decide⟩
  obtain ⟨s, hs, hfirst, -⟩ := hpoints 0 (by decide)
  obtain ⟨t, ht, -, hsecond⟩ := hpoints 1 (by decide)
  obtain rfl : s = -1 := Int64.toInt.inj hs
  obtain rfl : t = 1 := Int64.toInt.inj ht
  exact eq_pair_of_getElem? hlength (hfirst (-3) rfl).1 (hsecond rfl)

end SeriesGateway.Series
