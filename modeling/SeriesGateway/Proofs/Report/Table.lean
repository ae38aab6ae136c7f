import SeriesGateway.Proofs.Text.Numeral
import SeriesGateway.Report.Summary

namespace SeriesGateway.Report

theorem newline_not_mem_text (n : ℕ) : '\n' ∉ Numeral.text n :=
  Numeral.not_mem_text rfl n

theorem mem_or_eq_of_mem_grouped {c : Char} {cs : List Char} (h : c ∈ grouped cs) :
    c ∈ cs ∨ c = ',' := by
  induction cs with
  | nil => cases h
  | cons d rest ih =>
    rw [grouped] at h
    split_ifs at h <;> grind

theorem newline_not_mem_withCommas (n : UInt64) : '\n' ∉ (withCommas n).toList := by
  rw [withCommas, String.toList_ofList]
  intro h
  rcases mem_or_eq_of_mem_grouped h with htext | hcomma
  · exact newline_not_mem_text _ htext
  · cases hcomma

theorem newline_not_mem_amountText (m : Binary64.Magnitude) : '\n' ∉ amountText m := by
  have hpoint : '\n' ≠ '.' := by decide
  rw [amountText]
  split_ifs
  · simp [Binary64.Magnitude.tenths, newline_not_mem_text]
  · exact newline_not_mem_text _

theorem newline_not_mem_unit (rank : ℕ) : '\n' ∉ (byteUnits.getD rank "").toList := by
  have hunits : ∀ unit ∈ byteUnits, '\n' ∉ unit.toList := by decide
  rcases lt_or_ge rank byteUnits.length with hlt | hge
  · rw [List.getD_eq_getElem _ _ hlt]
    exact hunits _ (List.getElem_mem hlt)
  · rw [List.getD_eq_default _ _ hge]
    decide

theorem newline_not_mem_byteCount (n : UInt64) : '\n' ∉ (byteCount n).toList := by
  rw [byteCount, String.toList_ofList, byteCountText]
  split_ifs
  · simp [newline_not_mem_text]
  · have hunit := newline_not_mem_unit (climbUnits n.toNat 1 0).2
    have hamount := newline_not_mem_amountText (inTenths n.toNat (climbUnits n.toNat 1 0).1)
    simpa [-List.getD_eq_getElem?_getD] using ⟨hamount, hunit⟩

/-- A column is two characters wider than its longest cell, and eight wide at least. -/
def IsWidth (column : List (List Char)) (width : ℕ) : Prop :=
  ∃ longest, IsGreatest {length | ∃ cell ∈ column, cell.length = length} longest ∧
    width = max 8 (2 + longest)

theorem isWidth_columnWidth {column : List (List Char)} (h : column ≠ []) :
    IsWidth column (columnWidth column) := by
  obtain ⟨longest, hlongest⟩ : ∃ longest, (column.map List.length).max? = some longest :=
    Option.isSome_iff_exists.1 (by simpa [List.isSome_max?_iff] using h)
  obtain ⟨hmem, hmost⟩ := List.max?_eq_some_iff.1 hlongest
  refine ⟨longest, ⟨List.mem_map.1 hmem, ?_⟩, ?_⟩
  · rintro _ ⟨cell, hcell, rfl⟩
    exact hmost _ (List.mem_map_of_mem hcell)
  · rw [columnWidth, List.foldl_max, hlongest, Option.getD_some, Nat.zero_max, Nat.add_comm]
    rfl

theorem IsWidth.length_add_two_le {column : List (List Char)} {width : ℕ}
    (h : IsWidth column width) {cell : List Char} (hcell : cell ∈ column) :
    cell.length + 2 ≤ width := by
  obtain ⟨longest, ⟨-, hmost⟩, rfl⟩ := h
  have hle : cell.length ≤ longest := hmost ⟨cell, hcell, rfl⟩
  omega

theorem IsWidth.unique {column : List (List Char)} {a b : ℕ} (ha : IsWidth column a)
    (hb : IsWidth column b) : a = b := by
  obtain ⟨longest, hlongest, rfl⟩ := ha
  obtain ⟨other, hother, rfl⟩ := hb
  rw [hlongest.unique hother]

/-- A text that shows the cells of a line: the first two with blanks behind them, up to the widths
of their columns. So each column starts at one place, behind two blanks or more. -/
structure Line.StandsIn (l : Line) (first second : ℕ) (text : List Char) : Prop where
  text_eq : text = l.first ++ List.replicate (first - l.first.length) ' ' ++
    (l.second ++ List.replicate (second - l.second.length) ' ') ++ l.third
  first_gap : l.first.length + 2 ≤ first
  second_gap : l.second.length + 2 ≤ second
  second_at : l.second <+: text.drop first
  third_at : text.drop (first + second) = l.third

/-- A line without its end. -/
def Line.body (first second : ℕ) (l : Line) : List Char :=
  padTo first l.first ++ padTo second l.second ++ l.third

theorem length_padTo {width : ℕ} {cell : List Char} (h : cell.length ≤ width) :
    (padTo width cell).length = width := by
  rw [padTo, List.length_append, List.length_replicate]
  omega

theorem Line.standsIn_body {l : Line} {first second : ℕ} (hfirst : l.first.length + 2 ≤ first)
    (hsecond : l.second.length + 2 ≤ second) : l.StandsIn first second (l.body first second) := by
  have hlength : (padTo first l.first).length = first := length_padTo (by omega)
  have hlengths : (padTo first l.first ++ padTo second l.second).length = first + second := by
    rw [List.length_append, hlength, length_padTo (by omega)]
  refine ⟨rfl, hfirst, hsecond, ?_, ?_⟩
  · rw [Line.body, List.append_assoc, List.drop_left' hlength, padTo, List.append_assoc]
    exact List.prefix_append _ _
  · rw [Line.body, List.drop_left' hlengths]

/-- Texts that each end with a mark are found again between the marks. -/
theorem splitOn_flatMap {mark : Char} {texts : List (List Char)} (h : ∀ text ∈ texts, mark ∉ text) :
    (texts.flatMap fun text => text ++ [mark]).splitOn mark = texts ++ [[]] := by
  induction texts with
  | nil => exact List.splitOn_eq_singleton List.not_mem_nil
  | cons text rest ih =>
    rw [List.flatMap_cons, List.append_assoc, List.singleton_append,
      List.splitOn_append_cons_self, List.splitOn_eq_singleton (h text List.mem_cons_self),
      ih fun t ht => h t (List.mem_cons_of_mem _ ht)]
    rfl

theorem align_eq (lines : List Line) :
    align lines = (lines.map (Line.body (columnWidth (lines.map Line.first))
      (columnWidth (lines.map Line.second)))).flatMap fun text => text ++ ['\n'] := by
  rw [align, List.flatMap_map]
  rfl

theorem Line.StandsIn.newline_not_mem {l : Line} {first second : ℕ} {text : List Char}
    (h : l.StandsIn first second text) (hfirst : '\n' ∉ l.first) (hsecond : '\n' ∉ l.second)
    (hthird : '\n' ∉ l.third) : '\n' ∉ text := by
  have hblank : '\n' ≠ ' ' := by decide
  simp [h.text_eq, hfirst, hsecond, hthird, hblank]

theorem newline_not_mem_of_standsIn {lines : List Line} {first second : ℕ}
    {texts : List (List Char)}
    (htexts : List.Forall₂ (fun l text => l.StandsIn first second text) lines texts)
    (h : ∀ l ∈ lines, '\n' ∉ l.first ∧ '\n' ∉ l.second ∧ '\n' ∉ l.third) :
    ∀ text ∈ texts, '\n' ∉ text := by
  induction htexts with
  | nil => exact List.forall_mem_nil _
  | cons hline _ ih =>
    obtain ⟨⟨hfirst, hsecond, hthird⟩, h⟩ := List.forall_mem_cons.1 h
    exact List.forall_mem_cons.2 ⟨hline.newline_not_mem hfirst hsecond hthird, ih h⟩

/-- A text with a line for each of these, in order and with an end behind each, that stand in
columns of the same two widths. -/
def IsTable (lines : List Line) (text : List Char) : Prop :=
  ∃ first second texts,
    IsWidth (lines.map Line.first) first ∧ IsWidth (lines.map Line.second) second ∧
    text = texts.flatMap (fun line => line ++ ['\n']) ∧
    List.Forall₂ (fun l line => l.StandsIn first second line) lines texts

theorem isTable_align {lines : List Line} (h : lines ≠ []) : IsTable lines (align lines) := by
  have hfirst : IsWidth (lines.map Line.first) _ := isWidth_columnWidth (by simpa using h)
  have hsecond : IsWidth (lines.map Line.second) _ := isWidth_columnWidth (by simpa using h)
  refine ⟨_, _, _, hfirst, hsecond, align_eq lines, ?_⟩
  rw [List.forall₂_map_right_iff, List.forall₂_same]
  intro l hl
  exact Line.standsIn_body (hfirst.length_add_two_le (List.mem_map_of_mem hl))
    (hsecond.length_add_two_le (List.mem_map_of_mem hl))

/-- The lines of a table of databases: a head, a rule, and for each database its name, its count of
documents and its size. -/
def tableLines (rows : List (String × DatabaseInfo)) : List Line :=
  ⟨"dbname".toList, "docs".toList, "bytes".toList⟩ ::
  ⟨"-----".toList, "-----".toList, "-----".toList⟩ ::
  rows.map fun row => ⟨row.1.toList, (withCommas row.2.documentCount).toList,
    (byteCount row.2.spaceUsed).toList⟩

theorem rowLine_eq (row : String × DatabaseInfo) :
    rowLine row = ⟨row.1.toList, (withCommas row.2.documentCount).toList,
      (byteCount row.2.spaceUsed).toList⟩ := by
  rw [rowLine, withCommas, byteCount, String.toList_ofList, String.toList_ofList]

theorem isTable_table (rows : List (String × DatabaseInfo)) :
    IsTable (tableLines rows) (table rows).toList := by
  rw [table, String.toList_ofList, List.map_congr_left fun row _ => rowLine_eq row]
  exact isTable_align (List.cons_ne_nil _ _)

theorem newline_not_mem_tableLines {rows : List (String × DatabaseInfo)}
    (h : ∀ row ∈ rows, '\n' ∉ row.1.toList) {l : Line} (hl : l ∈ tableLines rows) :
    '\n' ∉ l.first ∧ '\n' ∉ l.second ∧ '\n' ∉ l.third := by
  rcases List.mem_cons.1 hl with rfl | hl
  · decide
  · rcases List.mem_cons.1 hl with rfl | hl
    · decide
    · obtain ⟨row, hrow, rfl⟩ := List.mem_map.1 hl
      exact ⟨h row hrow, newline_not_mem_withCommas _, newline_not_mem_byteCount _⟩

/-- A table of databases without line ends in their names has a head, a rule, and then one line for
each database, in order. All of these have their three cells in columns of the same widths. -/
theorem table_is_aligned (rows : List (String × DatabaseInfo))
    (h : ∀ row ∈ rows, '\n' ∉ row.1.toList) :
    let lines : List Line :=
      ⟨"dbname".toList, "docs".toList, "bytes".toList⟩ ::
      ⟨"-----".toList, "-----".toList, "-----".toList⟩ ::
      rows.map fun row => ⟨row.1.toList, (withCommas row.2.documentCount).toList,
        (byteCount row.2.spaceUsed).toList⟩
    ∃ first second texts,
      IsWidth (lines.map Line.first) first ∧ IsWidth (lines.map Line.second) second ∧
      (table rows).toList.splitOn '\n' = texts ++ [[]] ∧
      List.Forall₂ (fun l text => l.StandsIn first second text) lines texts := by
  intro lines
  obtain ⟨first, second, texts, hfirst, hsecond, htext, htexts⟩ := isTable_table rows
  have hsafe : ∀ text ∈ texts, '\n' ∉ text :=
    newline_not_mem_of_standsIn htexts fun l hl => newline_not_mem_tableLines h hl
  exact ⟨first, second, texts, hfirst, hsecond, htext ▸ splitOn_flatMap hsafe, htexts⟩

/-- A name in another script counts by its letters: the second column starts at the tenth, and the
third at the twenty-first. -/
theorem table_is_aligned_of_hangul :
    let rows : List (String × DatabaseInfo) :=
      [("데이터베이스 2", { spaceUsed := 8192, documentCount := 1234567 })]
    (∀ row ∈ rows, '\n' ∉ row.1.toList) ∧
      ∃ head rule line, (table rows).toList.splitOn '\n' = [head, rule, line, []] ∧
        "docs".toList <+: head.drop 10 ∧ "1,234,567".toList <+: line.drop 10 ∧
        head.drop 21 = "bytes".toList ∧ line.drop 21 = "8.2 kB".toList := by
  intro rows
  have hnames : ∀ row ∈ rows, '\n' ∉ row.1.toList := by decide
  obtain ⟨first, second, texts, hfirst, hsecond, htable, hlines⟩ := table_is_aligned rows hnames
  have hfirst := hfirst.unique (isWidth_columnWidth (List.cons_ne_nil _ _))
  have hsecond := hsecond.unique (isWidth_columnWidth (List.cons_ne_nil _ _))
  obtain ⟨rfl, rfl⟩ : first = 10 ∧ second = 11 :=
    ⟨hfirst.trans (by decide +kernel), hsecond.trans (by decide +kernel)⟩
  cases hlines with
  | cons hhead hlines =>
    cases hlines with
    | cons hrule hlines =>
      cases hlines with
      | cons hline hlines =>
        cases hlines
        have hdocs : (withCommas 1234567).toList = "1,234,567".toList := by decide +kernel
        have hbytes : (byteCount 8192).toList = "8.2 kB".toList := by decide +kernel
        have hmiddle := hline.second_at
        have hlast := hline.third_at
        dsimp only at hmiddle hlast
        rw [hdocs] at hmiddle
        rw [hbytes] at hlast
        exact ⟨hnames, _, _, _, htable, hhead.second_at, hmiddle, hhead.third_at, hlast⟩

end SeriesGateway.Report
