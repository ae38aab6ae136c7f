import SeriesGateway.Failure

namespace SeriesGateway

namespace Query

/-- A JSON pointer, and the reducer for the values there. -/
structure Field where
  pointer : String
  reducer : String
  deriving DecidableEq, Repr

/-- The text that must stand at a JSON pointer. -/
structure Filter where
  pointer : String
  wanted : String
  deriving DecidableEq, Repr

end Query

/-- Which fields to reduce over groups of how many milliseconds, and in which range and under which
filters. -/
structure Query where
  group : Duration
  earliest : Option Instant := none
  latest : Option Instant := none
  fields : List Query.Field := []
  filters : List Query.Filter := []
  deriving DecidableEq, Repr

namespace Query

/-- The reducers that a store knows. -/
def reducers : List String :=
  ["identity", "any", "count", "sum", "sumsq", "max", "min", "avg"]

inductive Fault where
  | group (milliseconds : Int)
  | noField
  | reducer (name : String)
  deriving DecidableEq, Repr

def Fault.message : Fault → String
  | .group milliseconds => s!"grouping value must be >0ms, was {milliseconds}ms"
  | .noField => "need at least one field"
  | .reducer name => s!"invalid reducer: {name}"

/-- The first fault of a query. -/
def fault? (q : Query) : Option Fault :=
  if q.group.milliseconds < 1 then some (.group q.group.milliseconds)
  else if q.fields.isEmpty then some .noField
  else (q.fields.find? fun field => !reducers.contains field.reducer).map fun field =>
    .reducer field.reducer

def validate (q : Query) : Except Failure Unit :=
  match q.fault? with
  | some fault => .error (.invalidQuery fault.message)
  | none => .ok ()

def integerText (n : Int) : String :=
  .ofList (Numeral.intText n)

def timePair (name : String) (t : Option Instant) : List (String × String) :=
  t.toList.map fun t => (name, Timestamp.Rfc3339.text t)

def fieldPairs (field : Field) : List (String × String) :=
  [("ptr", field.pointer), ("reducer", field.reducer)]

def filterPairs (filter : Filter) : List (String × String) :=
  [("f", filter.pointer), ("fv", filter.wanted)]

/-- What is asked, in the order in which a store reads it. -/
def pairs (q : Query) : List (String × String) :=
  ("group", integerText q.group.milliseconds) :: timePair "from" q.earliest ++
    timePair "to" q.latest ++ q.fields.flatMap fieldPairs ++ q.filters.flatMap filterPairs

end Query

end SeriesGateway
