import SeriesGateway.Failure

namespace SeriesGateway

/-- Settings of the process, from named values of its environment. -/
structure Settings where
  storeUrl : String := "http://localhost:3133/"
  port : Nat := 8080
  timeoutSeconds : Nat := 30
  jsonLog : Bool := false
  deriving DecidableEq, Repr

namespace Settings

/-- The names under which settings are looked up. -/
def names : List String :=
  ["SERIESLY_URL", "PORT", "SERIESLY_TIMEOUT_SECS", "LOG_FORMAT"]

/-- The URL of the store ends in a slash always, because names of databases are put behind it as
they are. -/
def withSlash (url : String) : String :=
  if url.toList.getLast? = some '/' then url else url ++ "/"

/-- The settings with another store. -/
def withStore (s : Settings) (url : String) : Settings :=
  { s with storeUrl := withSlash url }

/-- A number up to a limit, if one is set; otherwise `fallback`. -/
def number (lookup : String → Option String) (name : String) (limit fallback : Nat) :
    Except Failure Nat :=
  match lookup name with
  | none => .ok fallback
  | some given =>
    (Numeral.upTo limit given.toList).mapError fun fault =>
      .internal s!"Invalid {name} {given}: {fault.message}"

def read (lookup : String → Option String) : Except Failure Settings := do
  let defaults : Settings := {}
  let port ← number lookup "PORT" 0xFFFF defaults.port
  let timeoutSeconds ←
    number lookup "SERIESLY_TIMEOUT_SECS" 0xFFFFFFFFFFFFFFFF defaults.timeoutSeconds
  return {
    storeUrl := withSlash ((lookup "SERIESLY_URL").getD defaults.storeUrl)
    port, timeoutSeconds
    jsonLog := (lookup "LOG_FORMAT").any fun format =>
      String.ofList (format.toList.map Char.toLower) == "json" }

end Settings

end SeriesGateway
