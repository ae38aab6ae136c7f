import SeriesGateway.DatabaseInfo
import SeriesGateway.Metric
import SeriesGateway.Query
import SeriesGateway.Store.Sink

namespace SeriesGateway

/-- A client of the store at a URL. -/
structure Client where
  url : Url
  deriving DecidableEq, Repr

/-- The rows of a structured query: one list of values per timestamp, in order. -/
abbrev Rows := List (Int64 × List Json.Value)

namespace Client

def make (address : String) : Except Failure Client :=
  match Url.read address.toList with
  | .ok url => .ok ⟨url⟩
  | .error fault => .error (.invalidUrl s!"{address}: {fault.message}")

def listUrl (c : Client) : Url :=
  c.url.withPath "/_all_dbs".toList

/-- The path of the URL gives way to the name of a database; the rest of it stays. -/
def databaseUrl (c : Client) (name : String) : Url :=
  c.url.withPath ('/' :: name.toList)

/-- What is asked of a database stands behind its name. -/
def endpointUrl (c : Client) (name endpoint : String) : Url :=
  (c.databaseUrl name).withPath ('/' :: name.toList ++ '/' :: endpoint.toList)

end Client

open Json in
/-- A list of names. -/
def readNames? : Raw → Option (List String)
  | .array items => items.mapM fun
    | .string source => Raw.text? source
    | _ => none
  | _ => none

/-- A key of a row, which is the plain decimal text of a timestamp. -/
def rowKey? (source : List Char) : Option Int64 :=
  (Numeral.int64? source).filter fun t => Numeral.intText t.toInt == source

open Json in
/-- An entry of an answer: a key, and a list of values two brackets deep. -/
def row? (entry : List Char × Raw) : Option (Int64 × List Value) := do
  let key ← rowKey? entry.1
  match entry.2 with
  | .array items => return (key, ← Raw.values? (depthLimit - 2) items)
  | _ => none

/-- The rows of an answer; of equal keys the last counts. -/
def readRows? (cs : List Char) : Option Rows :=
  match Json.Raw.ofText? cs with
  | some (.object members) => (members.mapM row?).map Ordered.ofList
  | _ => none

def orUnreadable {α : Type} (wanted : String) : Option α → Except Failure α
  | some a => .ok a
  | none => .error (.unreadable s!"the answer is no {wanted}")

/-- What a reader of JSON makes of the whole body of an answer of success. -/
def readJson {α : Type} (wanted : String) (read? : Json.Raw → Option α) (a : Arrival) :
    Except Failure α := do
  let bytes ← (← a.success).whole
  orUnreadable wanted ((Json.Raw.ofBytes? bytes.toList).bind read?)

namespace Ask

/-- The names of all databases. -/
def list (c : Client) : Ask (Except Failure (List String)) where
  operation := .list
  request := ⟨.get, c.listUrl⟩
  read a := .ofResult (readJson "list of names" readNames? a)

/-- The statistics of a database, under the name asked for if the store gives none. -/
def info (c : Client) (name : String) : Ask (Except Failure DatabaseInfo) where
  operation := .info
  request := ⟨.get, c.databaseUrl name⟩
  read a := .ofResult do
    let info ← readJson "object of statistics" DatabaseInfo.ofRaw? a
    return if info.name.isEmpty then { info with name } else info

def compact (c : Client) (name : String) : Ask (Except Failure Unit) where
  operation := .compact
  request := ⟨.post, c.endpointUrl name "_compact"⟩
  read a := .ofResult (a.success.map fun _ => ())

/-- A bound of a dump in nanoseconds, if it is given. -/
def bound (name : String) : Option String → Except Failure (List (String × String))
  | none | some "" => .ok []
  | some given => do
    match (← readInstant given).nanoseconds? with
    | some nanos => return [(name, Metric.int64Text nanos)]
    | none => throw (.timestamp s!"{name} out of range: {given}")

/-- A database, or a range of it, written to a sink. The answer is the number of bytes. -/
def dump (c : Client) (name : String) (sink : Sink) (earliest latest : Option String) :
    Except Failure (Ask (Except Failure Nat × Sink)) := do
  let first ← bound "from" earliest
  let last ← bound "to" latest
  let pairs := first ++ last
  let url := c.endpointUrl name "_dump"
  return {
    operation := .dump
    request := ⟨.get, if pairs.isEmpty then url else url.withPairs pairs⟩
    read := fun a =>
      let answer := match a.success with
        | .ok body => sink.drain body
        | .error f => (.error f, sink)
      { answer, failed := (Reading.ofResult answer.1).failed } }

/-- The rows of a query. -/
def query (c : Client) (name : String) (q : Query) : Except Failure (Ask (Except Failure Rows)) := do
  q.validate
  let url := (c.endpointUrl name "_query").withPairs q.pairs
  return {
    operation := .query
    request := ⟨.get, url⟩
    read := fun a => .ofResult do
      let text := textOfBytes (← (← a.success).whole)
      if (Text.trim text).isEmpty then throw (.noData url.render)
      orUnreadable "object of rows" (readRows? text) }

/-- The samples of a metric over a window. A request counts as failed if no whole body of success
arrives, whatever the body holds. -/
def series (m : Metric) (w : Window) : Except Failure (Ask (Except Failure Series)) := do
  let url ← m.url w
  return {
    operation := .series
    request := ⟨.get, url⟩
    read := fun a =>
      match (do (← a.success).whole) with
      | .error f => { answer := .error f, failed := true }
      | .ok bytes =>
        match readSeriesBody (textOfBytes bytes) with
        | .error f => { answer := .error f }
        | .ok none => { answer := .error (.noData url.render), empty := 1 }
        | .ok (some data) =>
          let samples := Series.densify w data
          { answer := .ok samples, missing := samples.missingCount } }

end Ask

end SeriesGateway
