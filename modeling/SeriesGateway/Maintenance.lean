import SeriesGateway.Archive.Gzip
import SeriesGateway.Archive.Place
import SeriesGateway.Jobs
import SeriesGateway.Report.ArchiveName
import SeriesGateway.Report.Summary
import SeriesGateway.Store.Link

namespace SeriesGateway

/-- What becomes of a database in a run of maintenance. -/
structure Outcome (α : Type) where
  database : String
  result : Except Failure α

def Outcome.isOk {α : Type} (o : Outcome α) : Bool :=
  match o.result with
  | .ok _ => true
  | .error _ => false

/-- How many databases a run takes at a time if nobody says. -/
def defaultConcurrency : Nat := 2

def defaultArchivePattern : String := "%n.json.gz"

structure DumpOptions where
  /-- The one database to dump, or else all of them. -/
  database : Option String := none
  /-- The oldest key to dump. -/
  earliest : Option String := none
  /-- The newest key to dump. -/
  latest : Option String := none
  /-- How the files are named. -/
  pattern : String := defaultArchivePattern
  /-- The directory that names of files start from. -/
  dir : String := "."
  concurrency : Nat := defaultConcurrency
  /-- Neither requests a dump nor makes a file. -/
  noop : Bool := false
  deriving DecidableEq, Repr

namespace DumpOptions

/-- Whether a bound can be read, if one is given. -/
def checkBound : Option String → Except Failure Unit
  | none | some "" => .ok ()
  | some given => (readInstant given).map fun _ => ()

def checkBounds (o : DumpOptions) : Except Failure Unit := do
  checkBound o.earliest
  checkBound o.latest

/-- The path of the file for a database. -/
def target (o : DumpOptions) (now : Instant) (name : String) : PathText :=
  .join o.dir (Report.archiveName o.pattern name now)

end DumpOptions

namespace Client

variable {m : Type → Type} [Monad m] [StoreLink m]

/-- Compacts one database, or only says that it would. -/
def compactOne (c : Client) (noop : Bool) (name : String) : m (Outcome Unit) := do
  let result ← if noop then pure (.ok ()) else (c.compact name).run
  return { database := name, result }

/-- Compacts all databases. A database that fails is reported, and does not stop the others. -/
def compactAll [SideBySide m] (c : Client) (concurrency : Nat) (noop : Bool) :
    ExceptT Failure m (List (Outcome Unit)) := do
  let names ← c.list
  .lift (SideBySide.completions (max 1 concurrency) (names.map (c.compactOne noop)))

/-- Dumps a database into a packed file. The file is made first; it goes if the dump fails. -/
def dumpToFile [Shelf m] (c : Client) (o : DumpOptions) (target : PathText) (name : String) :
    ExceptT Failure m Nat := do
  Shelf.create target
  let (result, sink) ← ExceptT.lift (c.dump name {} o.earliest o.latest)
  match result with
  | .ok written =>
    Shelf.fill target (Gzip.pack sink.received)
    return written
  | .error f =>
    ExceptT.lift (Shelf.remove target)
    throw f

def dumpOne [Shelf m] (c : Client) (o : DumpOptions) (now : Instant) (name : String) :
    m (Outcome Nat) := do
  let result ← if o.noop then pure (.ok 0) else (c.dumpToFile o (o.target now name) name).run
  return { database := name, result }

/-- Dumps the databases that the options tell. Bounds are read before anything is requested, and
all files of a run are named after the same instant. -/
def dumpAll [Shelf m] [SideBySide m] (c : Client) (o : DumpOptions) (now : Instant) :
    ExceptT Failure m (List (Outcome Nat)) := do
  o.checkBounds
  let names ← match o.database with
    | some name => pure [name]
    | none => c.list
  .lift (SideBySide.completions (max 1 o.concurrency) (names.map (c.dumpOne o now)))

/-- The statistics of databases one after the other; the first failure ends it. -/
def infos (c : Client) : List String → ExceptT Failure m (List (String × DatabaseInfo))
  | [] => return []
  | name :: rest => do
    let info ← c.info name
    return (name, info) :: (← c.infos rest)

/-- Describes the databases with the given names, or all if none is given. -/
def describe (c : Client) (names : List String) (short : Bool) : ExceptT Failure m String := do
  let chosen ← if names.isEmpty then c.list else pure names
  let rows ← c.infos chosen
  return if short then Report.table rows else Report.paragraphs rows

end Client

end SeriesGateway
