import SeriesGateway.Instant
import SeriesGateway.Text.Numeral

namespace SeriesGateway.Report.ArchiveName

/-- What a directive stands for. -/
def directive (name : List Char) (c : Civil) : Char → List Char
  | '%' => ['%']
  | 'n' => name
  | 'Y' | 'y' => Numeral.intText c.date.year
  | 'm' => Numeral.text c.date.month
  | 'd' => Numeral.text c.date.day
  | 'H' => Numeral.twoDigits c.hour
  | 'M' => Numeral.twoDigits c.minute
  | 'S' => Numeral.twoDigits c.second
  | _ => []

/-- A pattern is copied except for its directives, each a percent sign and a character. A directive
that is not known is nothing, and so is a percent sign at the end. -/
def expand (name : List Char) (c : Civil) : List Char → List Char
  | [] => []
  | ['%'] => []
  | '%' :: d :: rest => directive name c d ++ expand name c rest
  | d :: rest => d :: expand name c rest

end ArchiveName

/-- The name of an archive of a database, made at an instant. -/
def archiveName (pattern name : String) (t : Instant) : String :=
  .ofList (ArchiveName.expand name.toList t.civil pattern.toList)

end SeriesGateway.Report
