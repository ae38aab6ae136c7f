import SeriesGateway.Counters
import SeriesGateway.Store.Client

namespace SeriesGateway

/-- A place from which requests are sent and counted. -/
class StoreLink (m : Type → Type) where
  /-- Sends the request, reads what arrives, and counts both. -/
  perform : {α : Type} → Ask α → m α
  /-- What has been counted so far. -/
  counters : m Counters

variable {m : Type → Type} [Monad m] [StoreLink m]

/-- Requests are sent the same way where something else is kept besides. -/
instance {σ : Type} : StoreLink (StateT σ m) where
  perform ask := StateT.lift (StoreLink.perform ask)
  counters := StateT.lift StoreLink.counters

def perform {α : Type} (ask : Ask (Except Failure α)) : ExceptT Failure m α :=
  ExceptT.mk (StoreLink.perform ask)

/-- Performs what could be prepared; a failure before the request is the answer. -/
def performPrepared {α : Type} (prepared : Except Failure (Ask (Except Failure α))) :
    ExceptT Failure m α :=
  match prepared with
  | .ok ask => perform ask
  | .error f => throw f

namespace Client

def list (c : Client) : ExceptT Failure m (List String) :=
  perform (.list c)

def info (c : Client) (name : String) : ExceptT Failure m DatabaseInfo :=
  perform (.info c name)

def compact (c : Client) (name : String) : ExceptT Failure m Unit :=
  perform (.compact c name)

def query (c : Client) (name : String) (q : Query) : ExceptT Failure m Rows :=
  performPrepared (Ask.query c name q)

/-- Dumps a database to a sink; the sink holds what was written, also after a failure. -/
def dump (c : Client) (name : String) (sink : Sink) (earliest latest : Option String) :
    m (Except Failure Nat × Sink) :=
  match Ask.dump c name sink earliest latest with
  | .ok ask => StoreLink.perform ask
  | .error f => pure (.error f, sink)

end Client

end SeriesGateway
