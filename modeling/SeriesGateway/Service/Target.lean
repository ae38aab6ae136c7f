import SeriesGateway.Failure
import SeriesGateway.Text.Form

namespace SeriesGateway

/-- The path and the query of a request, as they are sent. -/
structure Target where
  path : List Char
  query : List Char
  deriving DecidableEq, Repr

namespace Target

/-- Drops the scheme and the host of a target that is a whole URL. -/
def localPart (cs : List Char) : List Char :=
  let behind := cs.dropWhile (· != ':')
  if cs.head? = some '/' then cs
  else if behind.take 3 = [':', '/', '/'] then
    let rest := (behind.drop 3).dropWhile fun c => c != '/' && c != '?' && c != '#'
    if rest.head? = some '/' then rest else '/' :: rest
  else cs

def ofText (cs : List Char) : Target :=
  let shown := (localPart cs).takeWhile (· != '#')
  { path := shown.takeWhile (· != '?')
    query := (shown.dropWhile (· != '?')).drop 1 }

/-- The text between the slashes of the path. -/
def segments (t : Target) : List String :=
  (t.path.splitOn '/').map .ofList

def pairs (t : Target) : List (String × String) :=
  Form.decode t.query

end Target

/-- What the service has. A database is named by a segment as it is sent. -/
inductive Resource where
  | health
  | counters
  | databases
  | database (segment : String)
  | compaction (segment : String)
  | series (segment : String)
  deriving DecidableEq, Repr

namespace Resource

/-- A segment at the end of a path is not empty. -/
def named? (make : String → Resource) (segment : String) : Option Resource :=
  if segment.isEmpty then none else some (make segment)

/-- The resource under a path, by its segments; the first is the empty one before the slash. -/
def ofSegments? : List String → Option Resource
  | ["", "health"] => some .health
  | ["", "metrics"] => some .counters
  | ["", "dbs"] => some .databases
  | ["", "dbs", name] => named? .database name
  | ["", "dbs", name, "compact"] => some (.compaction name)
  | ["", "series", name] => named? .series name
  | _ => none

/-- Whether a resource answers requests of a method. -/
def allows (method : String) : Resource → Bool
  | .compaction _ => method == "POST"
  | _ => method == "GET" || method == "HEAD"

end Resource

/-- The name of a database that a segment encodes. -/
def readName (segment : String) : Except String String :=
  match Utf8.decode? (Percent.decode segment.toList) with
  | some name => .ok (.ofList name)
  | none => .error "Invalid URL: Invalid UTF-8 in the name of the database"

/-- What a request for a series asks. -/
structure SeriesRequest where
  pointer : String
  reducer : String
  start : String
  stop : String
  step : Int64
  label : Option String
  deriving DecidableEq, Repr

namespace SeriesRequest

/-- The value under a name, which may stand once. -/
def value? (pairs : List (String × String)) (name : String) : Except String (Option String) :=
  match pairs.filter (·.1 = name) with
  | [] => .ok none
  | [(_, value)] => .ok (some value)
  | _ => .error s!"duplicate field {name}"

def value (pairs : List (String × String)) (name : String) : Except String String := do
  match ← value? pairs name with
  | some found => return found
  | none => throw s!"missing field {name}"

def step? (text : String) : Except String Int64 :=
  match Numeral.int64? text.toList with
  | some step => .ok step
  | none => .error "field step is no integer of 64 bits"

def read (pairs : List (String × String)) : Except String SeriesRequest := do
  return {
    pointer := ← value pairs "ptr"
    reducer := ← value pairs "reducer"
    start := ← value pairs "start"
    stop := ← value pairs "stop"
    step := ← step? (← value pairs "step")
    label := ← value? pairs "label" }

/-- Milliseconds since 1970: a plain integer is that number, and other texts are timestamps. -/
def readMoment (text : String) : Except Failure Int64 :=
  match Numeral.int64? text.toList with
  | some milliseconds => .ok milliseconds
  | none => (readInstant text).map fun t => .ofInt t.milliseconds

def window (r : SeriesRequest) : Except Failure Window := do
  makeWindow (← readMoment r.start) (← readMoment r.stop) r.step

end SeriesRequest

end SeriesGateway
