import SeriesGateway.Proofs.Report.Table

namespace SeriesGateway.Report

/-- A line that shows a figure under a label: the label between two blanks and a colon, more blanks,
and the figure from the twentieth character to the end. -/
structure ShowsFigure (label figure : String) (line : List Char) : Prop where
  text_eq : ∃ gap, 0 < gap ∧
    line = ' ' :: ' ' :: label.toList ++ ':' :: List.replicate gap ' ' ++ figure.toList
  figure_at : line.drop 20 = figure.toList
  newline_not_mem : '\n' ∉ line

/-- The figures of a paragraph and their labels, in order. -/
def figures (d : DatabaseInfo) : List (String × String) :=
  [("Space Used", byteCount d.spaceUsed), ("Last Sequence", withCommas d.lastSequence),
    ("Header Position", withCommas d.headerPosition),
    ("Document Count", withCommas d.documentCount), ("Deleted Count", withCommas d.deletedCount)]

/-- A text that shows a database by itself: its name and a colon, a line for each of its figures,
and an empty line. -/
def IsParagraph (name : String) (d : DatabaseInfo) (text : List Char) : Prop :=
  ∃ lines, List.Forall₂ (fun figure line => ShowsFigure figure.1 figure.2 line) (figures d) lines ∧
    text = name.toList ++ [':', '\n'] ++ lines.flatMap (fun line => line ++ ['\n']) ++ ['\n']

/-- A label as it stands in its line, with blanks up to the twentieth character. -/
def labelText (label : String) : List Char :=
  ' ' :: ' ' :: label.toList ++ ':' :: List.replicate (17 - label.length) ' '

def figureLine (label figure : String) : List Char :=
  labelText label ++ figure.toList

theorem showsFigure_figureLine {label figure : String} (hshort : label.length < 17)
    (hlabel : '\n' ∉ label.toList) (hfigure : '\n' ∉ figure.toList) :
    ShowsFigure label figure (figureLine label figure) := by
  have hlength : (labelText label).length = 20 := by
    simp only [labelText, List.length_append, List.length_cons, List.length_replicate,
      String.length_toList]
    omega
  have hblank : '\n' ≠ ' ' := by decide
  have hcolon : '\n' ≠ ':' := by decide
  refine ⟨⟨17 - label.length, by omega, rfl⟩, List.drop_left' hlength, ?_⟩
  simp [figureLine, labelText, hlabel, hfigure, hblank, hcolon]

theorem toList_paragraph (name : String) (d : DatabaseInfo) :
    (paragraph name d).toList = name.toList ++ [':', '\n'] ++
      ((figures d).map fun figure => figureLine figure.1 figure.2).flatMap
        (fun line => line ++ ['\n']) ++ ['\n'] := by
  have hlabels : labelText "Space Used" = "  Space Used:       ".toList ∧
      labelText "Last Sequence" = "  Last Sequence:    ".toList ∧
      labelText "Header Position" = "  Header Position:  ".toList ∧
      labelText "Document Count" = "  Document Count:   ".toList ∧
      labelText "Deleted Count" = "  Deleted Count:    ".toList := by decide
  have hends : ":\n".toList = [':', '\n'] ∧ "\n".toList = ['\n'] ∧ "\n\n".toList = ['\n', '\n'] := by
    decide
  -- The equation of `paragraph` is slow to make, as it puts the texts together.
  delta paragraph
  simp only [figures, figureLine, hlabels, hends, String.toList_append, List.map_cons,
    List.map_nil, List.flatMap_cons, List.flatMap_nil, List.append_assoc, List.nil_append,
    List.cons_append]

theorem isParagraph_paragraph (name : String) (d : DatabaseInfo) :
    IsParagraph name d (paragraph name d).toList := by
  refine ⟨_, ?_, toList_paragraph name d⟩
  rw [List.forall₂_map_right_iff, List.forall₂_same]
  simp only [figures, List.forall_mem_cons]
  refine ⟨?_, ?_, ?_, ?_, ?_, List.forall_mem_nil _⟩
  · exact showsFigure_figureLine (by decide) (by decide) (newline_not_mem_byteCount _)
  all_goals exact showsFigure_figureLine (by decide) (by decide) (newline_not_mem_withCommas _)

/-- A text that shows each of these databases, one behind the other. -/
def IsParagraphs (rows : List (String × DatabaseInfo)) (text : List Char) : Prop :=
  ∃ parts, List.Forall₂ (fun row part => IsParagraph row.1 row.2 part) rows parts ∧
    text = parts.flatten

theorem isParagraphs_paragraphs (rows : List (String × DatabaseInfo)) :
    IsParagraphs rows (paragraphs rows).toList := by
  refine ⟨rows.map fun row => (paragraph row.1 row.2).toList, ?_, ?_⟩
  · rw [List.forall₂_map_right_iff, List.forall₂_same]
    exact fun row _ => isParagraph_paragraph row.1 row.2
  · rw [paragraphs, String.toList_join, List.flatMap_map]
    rfl

end SeriesGateway.Report
