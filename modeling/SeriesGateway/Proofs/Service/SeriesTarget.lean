import SeriesGateway.Metric
import SeriesGateway.Proofs.Text.Form
import SeriesGateway.Proofs.Text.Numeral
import SeriesGateway.Service.Target

namespace SeriesGateway

/-- A target asks for the series of a metric over a window: its path names the database, its query
has each field of the request once, and the numbers are written in decimal. -/
structure Target.AsksSeries (t : Target) (database pointer reducer : String)
    (label : Option String) (start stop step : Int64) : Prop where
  segment : ∃ segment, segment ≠ "" ∧ t.segments = ["", "series", segment] ∧
    readName segment = .ok database
  pointer : SeriesRequest.value? t.pairs "ptr" = .ok (some pointer)
  reducer : SeriesRequest.value? t.pairs "reducer" = .ok (some reducer)
  label : SeriesRequest.value? t.pairs "label" = .ok label
  start : ∃ text, SeriesRequest.value? t.pairs "start" = .ok (some text) ∧
    Numeral.int64? text.toList = some start
  stop : ∃ text, SeriesRequest.value? t.pairs "stop" = .ok (some text) ∧
    Numeral.int64? text.toList = some stop
  step : ∃ text, SeriesRequest.value? t.pairs "step" = .ok (some text) ∧
    Numeral.int64? text.toList = some step

namespace SeriesRequest

theorem value_of_value? {pairs : List (String × String)} {name found : String}
    (h : value? pairs name = .ok (some found)) : value pairs name = .ok found := by
  rw [value, h]
  rfl

theorem readMoment_of_int64? {text : String} {t : Int64} (h : Numeral.int64? text.toList = some t) :
    readMoment text = .ok t := by
  rw [readMoment, h]

theorem step?_of_int64? {text : String} {t : Int64} (h : Numeral.int64? text.toList = some t) :
    step? text = .ok t := by
  rw [step?, h]

end SeriesRequest

namespace Percent

/-- What an escaped text is written with. -/
theorem mem_encode {escaped : Char → Bool} {cs : List Char} {d : Char} (h : d ∈ encode escaped cs) :
    d = '%' ∨ d.isAlphanum = true ∨ escaped d = false := by
  obtain ⟨c, -, hd⟩ := List.mem_flatMap.1 h
  unfold encodeChar at hd
  split at hd
  · rename_i hkept
    obtain rfl := List.mem_singleton.1 hd
    simp only [Bool.and_eq_true, Bool.not_eq_true'] at hkept
    exact Or.inr (Or.inr hkept.2)
  · obtain ⟨b, -, hb⟩ := List.mem_flatMap.1 hd
    rcases eq_percent_or_isAlphanum_of_mem_encodeByte hb with rfl | halnum
    · exact Or.inl rfl
    · exact Or.inr (Or.inl halnum)

theorem decode_encode_of_mark {escaped : Char → Bool} (hmark : escaped '%' = true)
    (cs : List Char) : decode (encode escaped cs) = Utf8.encode cs := by
  induction cs with
  | nil => rfl
  | cons c cs ih => rw [encode, List.flatMap_cons, decode_encodeChar hmark, ← encode, ih,
      ← Utf8.encode_cons]

theorem encode_ne_nil {escaped : Char → Bool} (hmark : escaped '%' = true) {cs : List Char}
    (h : cs ≠ []) : encode escaped cs ≠ [] := by
  intro hnil
  have hbytes := decode_encode_of_mark hmark cs
  rw [hnil] at hbytes
  have hread := Utf8.decode?_encode cs
  rw [← hbytes] at hread
  exact h (Option.some.inj (hread.symm.trans (Utf8.decode?_encode [])))

end Percent

namespace Form

/-- No text of pairs has the mark of a fragment. -/
theorem not_mem_encode (pairs : List (String × String)) : '#' ∉ encode pairs := by
  have htext (cs : List Char) : '#' ∉ encodeText cs := by
    intro h
    obtain ⟨c, -, hc⟩ := List.mem_flatMap.1 h
    unfold encodeChar at hc
    split at hc
    · cases List.mem_singleton.1 hc
    · rcases eq_percent_or_keeps_of_mem hc with h | h <;> cases h
  have hpair (pair : String × String) : '#' ∉ encodePair pair := by
    simp [encodePair, htext]
  rw [encode]
  induction pairs with
  | nil => simp
  | cons pair rest ih =>
    cases rest with
    | nil => simpa using hpair pair
    | cons next rest =>
      rw [List.map_cons] at ih
      rw [List.map_cons, List.map_cons, List.intercalate_cons_cons]
      simp [hpair pair, ih]

end Form

/-- The pairs of a request for a series. -/
def SeriesRequest.asked (pointer reducer : String) (label : Option String)
    (start stop step : Int64) : List (String × String) :=
  [("ptr", pointer), ("reducer", reducer), ("start", Metric.int64Text start),
    ("stop", Metric.int64Text stop), ("step", Metric.int64Text step)] ++
    label.toList.map fun given => ("label", given)

/-- The path to the series of a database, with some set of characters escaped in its name. -/
def Target.seriesPath (escaped : Char → Bool) (database : String) : List Char :=
  ['/'].intercalate [[], "series".toList, Percent.encode escaped database.toList]

/-- A request for a series as the text of a target. -/
def Target.seriesText (escaped : Char → Bool) (database : String) (pairs : List (String × String)) :
    List Char :=
  seriesPath escaped database ++ '?' :: Form.encode pairs

namespace Target

theorem seriesPath_eq (escaped : Char → Bool) (database : String) :
    seriesPath escaped database =
      '/' :: ("series/".toList ++ Percent.encode escaped database.toList) := by
  simp [seriesPath, List.intercalate_cons_cons]

theorem not_mem_encode {escaped : Char → Bool} {mark : Char} (hmark : escaped mark = true)
    (hplain : mark.isAlphanum = false) (hne : mark ≠ '%') (cs : List Char) :
    mark ∉ Percent.encode escaped cs := by
  intro h
  rcases Percent.mem_encode h with heq | halnum | hkept
  · exact hne heq
  · rw [hplain] at halnum
    cases halnum
  · rw [hmark] at hkept
    cases hkept

theorem ofText_seriesText {escaped : Char → Bool} (hfragment : escaped '#' = true)
    (hquery : escaped '?' = true) (database : String) (pairs : List (String × String)) :
    ofText (seriesText escaped database pairs) =
      ⟨seriesPath escaped database, Form.encode pairs⟩ := by
  have hpath {mark : Char} (hmark : escaped mark = true) (hplain : mark.isAlphanum = false)
      (hne : mark ≠ '%') (hslash : mark ≠ '/') : mark ∉ seriesPath escaped database := by
    have hseries : "series/".toList.all (fun c => c.isAlphanum || c == '/') = true := by decide
    rw [seriesPath_eq, List.mem_cons, List.mem_append]
    rintro (heq | hfixed | hname)
    · exact hslash heq
    · have hmark := List.all_eq_true.1 hseries mark hfixed
      rw [hplain, Bool.false_or, beq_iff_eq] at hmark
      exact hslash hmark
    · exact not_mem_encode hmark hplain hne _ hname
  have hlocal : localPart (seriesText escaped database pairs) =
      seriesText escaped database pairs := by
    rw [localPart, if_pos]
    rw [seriesText, seriesPath_eq]
    rfl
  have hshown : (seriesText escaped database pairs).takeWhile (· != '#') =
      seriesText escaped database pairs := by
    rw [List.takeWhile_eq_self_iff]
    intro c hc
    rw [bne_iff_ne]
    rintro rfl
    rw [seriesText, List.mem_append, List.mem_cons] at hc
    rcases hc with hc | hc | hc
    · exact hpath hfragment rfl (by decide) (by decide) hc
    · cases hc
    · exact Form.not_mem_encode pairs hc
  have hbefore : ∀ c ∈ seriesPath escaped database, (c != '?') = true := by
    intro c hc
    rw [bne_iff_ne]
    rintro rfl
    exact hpath hquery rfl (by decide) (by decide) hc
  rw [ofText, hlocal, hshown, seriesText, List.takeWhile_append_of_pos hbefore,
    List.dropWhile_append_of_pos hbefore, List.takeWhile_cons_of_neg (by decide),
    List.dropWhile_cons_of_neg (by decide), List.append_nil, List.drop_succ_cons, List.drop_zero]

/-- Every request for a series can be written, in any set of escapes that has the marks of a
path. -/
theorem asksSeries_seriesText {escaped : Char → Bool}
    (hmarks : ∀ c ∈ ['/', '?', '#', '%'], escaped c = true) {database : String}
    (hdatabase : database ≠ "") (pointer reducer : String) (label : Option String)
    (start stop step : Int64) :
    (ofText (seriesText escaped database
      (SeriesRequest.asked pointer reducer label start stop step))).AsksSeries
        database pointer reducer label start stop step := by
  have hslash : escaped '/' = true := hmarks _ (by simp)
  have hpercent : escaped '%' = true := hmarks _ (by simp)
  rw [ofText_seriesText (hmarks _ (by simp)) (hmarks _ (by simp))]
  have hsegments : Target.segments ⟨seriesPath escaped database,
      Form.encode (SeriesRequest.asked pointer reducer label start stop step)⟩ =
      ["", "series", .ofList (Percent.encode escaped database.toList)] := by
    rw [segments, seriesPath, List.splitOn_intercalate]
    · rfl
    · simp only [List.forall_mem_cons, List.not_mem_nil, false_imp_iff, implies_true, and_true]
      exact ⟨not_false, by decide +kernel, not_mem_encode hslash rfl (by decide) _⟩
    · simp
  have hpairs : Target.pairs ⟨seriesPath escaped database,
      Form.encode (SeriesRequest.asked pointer reducer label start stop step)⟩ =
      SeriesRequest.asked pointer reducer label start stop step := Form.decode_encode _
  have hnumber (n : Int64) : Numeral.int64? (Metric.int64Text n).toList = some n := by
    rw [Metric.int64Text, String.toList_ofList, Numeral.int64?_intText]
  constructor
  · refine ⟨_, ?_, hsegments, ?_⟩
    · intro hempty
      have hnil := congrArg String.toList hempty
      rw [String.toList_ofList] at hnil
      exact Percent.encode_ne_nil hpercent (by simpa using hdatabase) hnil
    · rw [readName, String.toList_ofList, Percent.decode_encode_of_mark hpercent,
        Utf8.decode?_encode]
      exact congrArg Except.ok String.ofList_toList
  all_goals rw [hpairs]
  · cases label <;> simp [SeriesRequest.asked, SeriesRequest.value?]
  · cases label <;> simp [SeriesRequest.asked, SeriesRequest.value?]
  · cases label <;> simp [SeriesRequest.asked, SeriesRequest.value?]
  · refine ⟨Metric.int64Text start, ?_, hnumber start⟩
    cases label <;> simp [SeriesRequest.asked, SeriesRequest.value?]
  · refine ⟨Metric.int64Text stop, ?_, hnumber stop⟩
    cases label <;> simp [SeriesRequest.asked, SeriesRequest.value?]
  · refine ⟨Metric.int64Text step, ?_, hnumber step⟩
    cases label <;> simp [SeriesRequest.asked, SeriesRequest.value?]

end Target

end SeriesGateway
