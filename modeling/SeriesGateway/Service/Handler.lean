import SeriesGateway.Service.Answer
import SeriesGateway.Service.Target
import SeriesGateway.Settings
import SeriesGateway.Store.Fetch

namespace SeriesGateway

/-- The two ways in which the service reaches its store. -/
structure Service where
  source : Source
  client : Client
  deriving DecidableEq, Repr

namespace Service

def ofSettings (s : Settings) : Except Failure Service := do
  return { source := ⟨s.storeUrl⟩, client := ← Client.make s.storeUrl }

variable {m : Type → Type} [Monad m] [StoreLink m]

/-- An operation of the store; a failure is answered at once. -/
def asked {α : Type} (operation : ExceptT Failure m α) : ExceptT Answer m α :=
  operation.adapt Answer.ofFailure

/-- What is read from a request; a request that cannot be read is answered at once. -/
def required {α : Type} (part : Except String α) : ExceptT Answer m α :=
  liftExcept (part.mapError (Answer.plain 400))

def database (s : Service) (segment : String) : ExceptT Answer m Answer := do
  let name ← required (readName segment)
  let info ← asked (s.client.info name)
  return .json 200 info.text

def compaction (s : Service) (segment : String) : ExceptT Answer m Answer := do
  let name ← required (readName segment)
  asked (s.client.compact name)
  return .bare 204

def databases (s : Service) : ExceptT Answer m Answer := do
  let names ← asked s.client.list
  return .json 200 (Json.bracketed '[' ']' (names.map Json.quoted))

def series (s : Service) (segment : String) (pairs : List (String × String)) :
    ExceptT Answer m Answer := do
  let name ← required (readName segment)
  let request ← required ((SeriesRequest.read pairs).mapError
    ("Failed to deserialize query string: " ++ ·))
  let w ← asked (liftExcept request.window)
  let metric := s.source.metric name request.pointer request.reducer request.label
  let values ← asked (metric.fetch w)
  let answer : SeriesAnswer :=
    { label := metric.label, start := w.start, stop := w.stop, step := w.step, values }
  return .json 200 answer.text

def counters : ExceptT Answer m Answer := do
  let counters ← ExceptT.lift StoreLink.counters
  return {
    status := 200
    contentType := some "text/plain; version=0.0.4"
    body := counters.page }

/-- The answer of a resource to a request of its own method. -/
def respond (s : Service) (pairs : List (String × String)) :
    Resource → ExceptT Answer m Answer
  | .health => return .plain 200 "ok"
  | .counters => counters
  | .databases => s.databases
  | .database segment => s.database segment
  | .compaction segment => s.compaction segment
  | .series segment => s.series segment pairs

/-- The answer, whether it was found early or at the end. -/
def settled (answer : ExceptT Answer m Answer) : m Answer := do
  match ← answer.run with
  | .ok final => return final
  | .error early => return early

/-- Answers a request. Questions about what is allowed are answered for every path. -/
def handle (s : Service) (method : String) (target : Target) : m Answer := do
  if method = "OPTIONS" then return .bare 200
  match Resource.ofSegments? target.segments with
  | none => return .bare 404
  | some resource =>
    if !resource.allows method then return .bare 405
    let answer ← settled (s.respond target.pairs resource)
    return if method = "HEAD" then answer.withoutBody else answer

end Service

end SeriesGateway
