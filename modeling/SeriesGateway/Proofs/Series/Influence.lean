import SeriesGateway.Proofs.Series.Rows

namespace SeriesGateway

open Json

namespace Window

/-- The plain decimal of a point, where points are counted from the start. -/
def pointName (w : Window) (k : ℕ) : String :=
  .ofList (Numeral.intText (w.start.toInt + k * w.step.toInt))

/-- No point of the window has that name. -/
def IsOffGrid (w : Window) (name : String) : Prop :=
  ∀ k < w.length, name ≠ w.pointName k

end Window

namespace Series

/-- The number that a value is or spells. -/
inductive Spells : Value → Binary64 → Prop
  | integer (n : ℤ) : Spells (.integer n) (.ofInt n)
  | real (x : Binary64) : Spells (.real x) x
  | string {s : String} {x : Binary64} (h : Binary64.ofText? (Text.trim s.toList) = some x) :
    Spells (.string s) x

/-- Values that are no numbers and spell none. -/
inductive IsNoNumber : Value → Prop
  | null : IsNoNumber .null
  | boolean (b : Bool) : IsNoNumber (.boolean b)
  | string {s : String}
    (h : ∀ x, Binary64.ofText? (Text.trim s.toList) = some x → x.isNan = true) :
    IsNoNumber (.string s)
  | array (items : List Value) : IsNoNumber (.array items)
  | object (members : List (String × Value)) : IsNoNumber (.object members)

/-- What stands under a name without being a sample: nothing, no list, a list of nothing, or one
that does not start with a number. -/
inductive IsMissing : Option Value → Prop
  | absent : IsMissing none
  | noList {v : Value} (h : ∀ items, v ≠ .array items) : IsMissing (some v)
  | empty : IsMissing (some (.array []))
  | noNumber {first : Value} (h : IsNoNumber first) (rest : List Value) :
    IsMissing (some (.array (first :: rest)))

/-- Entries that show the same: lists with one first element, or two that are no samples. -/
inductive Alike : Option Value → Option Value → Prop
  | first (v : Value) (rest rest' : List Value) :
    Alike (some (.array (v :: rest))) (some (.array (v :: rest')))
  | missing {entry entry' : Option Value} (h : IsMissing entry) (h' : IsMissing entry') :
    Alike entry entry'

/-- The sample that an entry shows. -/
def shown (entry : Option Value) : Binary64 :=
  (entry.map firstSample).getD .nan

theorem Spells.sample_eq {v : Value} {x : Binary64} (h : Spells v x) : sample v = x := by
  cases h with
  | integer n => rfl
  | real x => rfl
  | string h => rw [sample, h, Option.getD_some]

theorem eq_nan_of_isNan {x : Binary64} (h : x.isNan = true) : x = .nan := by
  cases x with
  | nan => rfl
  | _ => cases h

theorem IsNoNumber.sample_eq {v : Value} (h : IsNoNumber v) : sample v = .nan := by
  cases h with
  | @string s h =>
    rw [sample]
    cases hx : Binary64.ofText? (Text.trim s.toList) with
    | none => rfl
    | some x => exact eq_nan_of_isNan (h x hx)
  | _ => rfl

theorem IsMissing.shown_eq {entry : Option Value} (h : IsMissing entry) : shown entry = .nan := by
  cases h with
  | absent => rfl
  | empty => rfl
  | @noList v h =>
    cases v with
    | array items => exact absurd rfl (h items)
    | _ => rfl
  | noNumber h rest => exact h.sample_eq

theorem Alike.shown_eq {entry entry' : Option Value} (h : Alike entry entry') :
    shown entry = shown entry' := by
  cases h with
  | first v rest rest' => rfl
  | missing h h' => rw [h.shown_eq, h'.shown_eq]

/-- A series is what the entries under the points of the window show. -/
theorem densify_eq_map (w : Window) (data : Value) :
    densify w data = (List.range w.length).map fun k => shown (data.member? (w.pointName k)) := by
  apply List.ext_getElem?
  intro k
  by_cases hk : k < w.length
  · obtain ⟨t, ht, hsample⟩ := getElem?_densify w data hk
    rw [hsample, key, ht, List.getElem?_map, List.getElem?_range hk]
    rfl
  · rw [List.getElem?_eq_none, List.getElem?_eq_none]
    · rw [List.length_map, List.length_range]
      omega
    · rw [length_densify]
      omega

theorem getElem?_densify_shown (data : Value) {w : Window} {k : ℕ} (hk : k < w.length) :
    (densify w data)[k]? = some (shown (data.member? (w.pointName k))) := by
  rw [densify_eq_map, List.getElem?_map, List.getElem?_range hk, Option.map_some]

theorem densify_congr {w : Window} {v v' : Value}
    (h : ∀ k < w.length, shown (v.member? (w.pointName k)) = shown (v'.member? (w.pointName k))) :
    densify w v = densify w v' := by
  rw [densify_eq_map, densify_eq_map]
  exact List.map_congr_left fun k hk => h k (List.mem_range.1 hk)

/-- A name that is read as an integer, with space around it, but is written in another way than
the plain one, is the name of no point. -/
theorem isOffGrid_of_spelling (w : Window) {name : String} {n : ℤ}
    (hread : Numeral.signed? (Text.trim name.toList) = some n)
    (hplain : name.toList ≠ Numeral.intText n) : w.IsOffGrid name := by
  rintro k - rfl
  rw [Window.pointName, String.toList_ofList] at hread hplain
  rw [Text.trim_intText, Numeral.signed?_intText] at hread
  exact hplain (congrArg _ (Option.some.inj hread))

/-- A series depends on what stands first in the list under each point and on nothing else: not on
members under other names, such as other spellings of a timestamp, not on the order of members, and
not on what follows in a list. An answer that is no object has no samples. -/
theorem densify_depends_on_first_elements (w : Window) :
    (∀ v v', (∀ k < w.length, Alike (v.member? (w.pointName k)) (v'.member? (w.pointName k))) →
      (densify w v).length = w.length ∧ (densify w v').length = w.length ∧
        densify w v = densify w v') ∧
    (∀ v k first rest x, k < w.length → v.member? (w.pointName k) = some (.array (first :: rest)) →
      Spells first x → (densify w v)[k]? = some x) ∧
    (∀ before after name value, w.IsOffGrid name →
      densify w (.object (before ++ (name, value) :: after)) =
        densify w (.object (before ++ after))) ∧
    (∀ name n, Numeral.signed? (Text.trim name.toList) = some n →
      name.toList ≠ Numeral.intText n → w.IsOffGrid name) ∧
    (∀ members members', members.Perm members' → (members.map Prod.fst).Nodup →
      densify w (.object members) = densify w (.object members')) ∧
    ∀ v, (∀ members, v ≠ .object members) → densify w v = List.replicate w.length .nan := by
  refine ⟨fun v v' h => ?_, fun v k first rest x hk hentry hspells => ?_,
    fun before after name value hname => ?_, fun name n => isOffGrid_of_spelling w,
    fun members members' hperm hnodup => ?_, fun v hv => ?_⟩
  · exact ⟨length_densify w v, length_densify w v', densify_congr fun k hk => (h k hk).shown_eq⟩
  · rw [getElem?_densify_shown v hk, hentry]
    exact congrArg some hspells.sample_eq
  · refine densify_congr fun k hk => ?_
    exact congrArg shown (Ordered.lookup_append_cons (hname k hk).symm value before after)
  · exact densify_congr fun k _ => congrArg shown (Ordered.lookup_of_perm hperm hnodup _)
  · have hmember (name : String) : v.member? name = none := by
      cases v with
      | object members => exact absurd rfl (hv members)
      | _ => rfl
    rw [densify_eq_map]
    simp only [hmember]
    rw [List.map_const', List.length_range]
    rfl

/-- An answer in which everything but the sample at -1 has been changed. -/
theorem densify_of_changed_answer :
    let w : Window := ⟨-1, 4, 1, by decide⟩
    let v : Value := .object [("-1", .array [.integer 7, .integer 9]), ("0", .array [.null]),
      ("1", .array []), ("2", .integer 4), ("3", .array [.string "n/a"])]
    let v' : Value := .object [("+1", .array [.integer 1]), ("-0", .array [.integer 2]),
      ("-1", .array [.integer 7]), ("1", .array [.object [("v", .integer 1)]]), ("4", .null)]
    (∀ k < w.length, Alike (v.member? (w.pointName k)) (v'.member? (w.pointName k))) ∧
      densify w v = densify w v' := by
  intro w v v'
  have halike : ∀ k < w.length, Alike (v.member? (w.pointName k)) (v'.member? (w.pointName k)) := by
    intro k hk
    have hlength : w.length = 5 := by decide
    have hnames : w.pointName 0 = "-1" ∧ w.pointName 1 = "0" ∧ w.pointName 2 = "1" ∧
        w.pointName 3 = "2" ∧ w.pointName 4 = "3" := by decide +kernel
    rw [hlength] at hk
    interval_cases k
    · rw [hnames.1]
      exact .first (.integer 7) [.integer 9] []
    · rw [hnames.2.1]
      exact .missing (.noNumber .null []) .absent
    · rw [hnames.2.2.1]
      exact .missing .empty (.noNumber (.object _) [])
    · rw [hnames.2.2.2.1]
      exact .missing (.noList nofun) .absent
    · rw [hnames.2.2.2.2]
      exact .missing (.noNumber (.string (s := "n/a") (by decide)) []) .absent
  exact ⟨halike, ((densify_depends_on_first_elements w).1 v v' halike).2.2⟩

end Series

end SeriesGateway
