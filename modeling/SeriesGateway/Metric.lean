import SeriesGateway.Failure
import SeriesGateway.Url.Basic

namespace SeriesGateway

/-- Where the samples of a chart come from. Names of databases are put behind the base as they
are, so it usually ends in a slash. -/
structure Source where
  base : String
  deriving DecidableEq, Repr

/-- A value in the documents of a database, and how it is reduced per step of a window. -/
structure Metric where
  source : Source
  database : String
  pointer : String
  reducer : String
  label : String
  deriving DecidableEq, Repr

/-- The label of a metric that is given none. -/
def Metric.defaultLabel (database pointer reducer : String) : String :=
  s!"{database} - {reducer}@{pointer}"

/-- A metric of a source; an empty label is none. -/
def Source.metric (s : Source) (database pointer reducer : String) (label : Option String) :
    Metric where
  source := s
  database := database
  pointer := pointer
  reducer := reducer
  label := match label with
    | none | some "" => Metric.defaultLabel database pointer reducer
    | some given => given

namespace Metric

def int64Text (n : Int64) : String :=
  .ofList (Numeral.intText n.toInt)

/-- What is asked of the store over a window. -/
def pairs (m : Metric) (w : Window) : List (String × String) :=
  [("ptr", m.pointer), ("reducer", m.reducer), ("from", int64Text w.start),
    ("to", int64Text w.stop), ("group", int64Text w.step)]

/-- The address that a metric is read from, before it is read as a URL. -/
def address (m : Metric) : String :=
  m.source.base ++ m.database ++ "/_query"

/-- The URL that answers with the samples of a metric over a window. -/
def url (m : Metric) (w : Window) : Except Failure Url :=
  match Url.read m.address.toList with
  | .ok u => .ok (u.withPairs (m.pairs w))
  | .error fault => .error (.invalidUrl s!"{m.address}: {fault.message}")

end Metric

end SeriesGateway
