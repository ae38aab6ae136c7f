import SeriesGateway.CommandLine.Command
import SeriesGateway.Maintenance
import SeriesGateway.Service.Handler

namespace SeriesGateway

/-- How a run ends. -/
structure Ending where
  code : Nat := 0
  output : String := ""
  errors : String := ""
  deriving DecidableEq, Repr

namespace Program

/-- What a run does: it ends at once, or it performs a command. -/
inductive Plan where
  | finish (ending : Ending)
  | perform (settings : Settings) (command : Command)
  deriving DecidableEq, Repr

def settingsFor (i : Invocation) (s : Settings) : Settings :=
  match i.storeUrl with
  | some url => s.withStore url
  | none => s

/-- The command line is read first, and then the environment by its names. -/
def plan (arguments : List String) (lookup : String → Option String) : Plan :=
  match CommandLine.read arguments with
  | .error (.shown text) => .finish { output := text }
  | .error (.misused text) => .finish { code := 2, errors := text }
  | .ok invocation =>
    match Settings.read lookup with
    | .error f => .finish { code := 1, errors := s!"Invalid configuration: {f.message}\n" }
    | .ok settings => .perform (settingsFor invocation settings) invocation.command

/-- A run of maintenance fails if it fails for any database. -/
def endingOf {α : Type} (outcomes : List (Outcome α)) : Ending where
  code := if outcomes.all Outcome.isOk then 0 else 1

variable {m : Type → Type} [Monad m] [StoreLink m] [Shelf m] [SideBySide m]

/-- Performs a command. How the service is kept running is up to `serve`. -/
def attempt (serve : Service → ExceptT Failure m Unit) (now : Instant) (settings : Settings) :
    Command → ExceptT Failure m Ending
  | .serve => do
    serve (← Service.ofSettings settings)
    return {}
  | .compact concurrency noop => do
    let client ← Client.make settings.storeUrl
    return endingOf (← client.compactAll concurrency noop)
  | .dump options => do
    let client ← Client.make settings.storeUrl
    return endingOf (← client.dumpAll options now)
  | .info short names => do
    let client ← Client.make settings.storeUrl
    return { output := ← client.describe names short }

/-- Runs a plan; a command that fails ends with code 1. -/
def run (serve : Service → ExceptT Failure m Unit) (now : Instant) : Plan → m Ending
  | .finish ending => return ending
  | .perform settings command => do
    match ← (attempt serve now settings command).run with
    | .ok ending => return ending
    | .error _ => return { code := 1 }

end Program

end SeriesGateway
