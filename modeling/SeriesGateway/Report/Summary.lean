import SeriesGateway.DatabaseInfo
import SeriesGateway.Report.Figures

namespace SeriesGateway.Report

/-- A database with its figures, a line for each. -/
def paragraph (name : String) (d : DatabaseInfo) : String :=
  name ++ ":\n" ++
  "  Space Used:       " ++ byteCount d.spaceUsed ++ "\n" ++
  "  Last Sequence:    " ++ withCommas d.lastSequence ++ "\n" ++
  "  Header Position:  " ++ withCommas d.headerPosition ++ "\n" ++
  "  Document Count:   " ++ withCommas d.documentCount ++ "\n" ++
  "  Deleted Count:    " ++ withCommas d.deletedCount ++ "\n\n"

def paragraphs (rows : List (String × DatabaseInfo)) : String :=
  .join (rows.map fun (name, info) => paragraph name info)

/-- A line of a table of three columns. -/
structure Line where
  first : List Char
  second : List Char
  third : List Char
  deriving DecidableEq, Repr

def leastWidth : Nat := 8

def padding : Nat := 2

/-- The width of a column with given cells: the longest of them and two blanks, and eight characters
at least. -/
def columnWidth (cells : List (List Char)) : Nat :=
  max leastWidth ((cells.map List.length).foldl max 0 + padding)

/-- A cell with blanks behind it, up to a width. -/
def padTo (width : Nat) (cell : List Char) : List Char :=
  cell ++ List.replicate (width - cell.length) ' '

def Line.text (first second : Nat) (l : Line) : List Char :=
  padTo first l.first ++ padTo second l.second ++ l.third ++ ['\n']

def align (lines : List Line) : List Char :=
  lines.flatMap
    (Line.text (columnWidth (lines.map Line.first)) (columnWidth (lines.map Line.second)))

def headLines : List Line :=
  [⟨"dbname".toList, "docs".toList, "bytes".toList⟩,
    ⟨"-----".toList, "-----".toList, "-----".toList⟩]

def rowLine (row : String × DatabaseInfo) : Line :=
  ⟨row.1.toList, groupedText row.2.documentCount.toNat, byteCountText row.2.spaceUsed.toNat⟩

/-- A head, a rule and a line for each database, in columns. -/
def table (rows : List (String × DatabaseInfo)) : String :=
  .ofList (align (headLines ++ rows.map rowLine))

end SeriesGateway.Report
