import SeriesGateway.CommandLine.Help
import SeriesGateway.CommandLine.Scan

namespace SeriesGateway

inductive Command where
  | serve
  | compact (concurrency : Nat) (noop : Bool)
  | dump (options : DumpOptions)
  | info (short : Bool) (names : List String)
  deriving DecidableEq, Repr

/-- A command, for another store than that of the environment if one is given. -/
structure Invocation where
  storeUrl : Option String := none
  command : Command := .serve
  deriving DecidableEq, Repr

namespace CommandLine

/-- Why no command is run. -/
inductive Halt where
  /-- A text was asked for. -/
  | shown (text : String)
  /-- The command line cannot be used. -/
  | misused (text : String)
  deriving DecidableEq, Repr

/-- What a command is given. -/
structure Given where
  options : List (Key × String) := []
  words : List String := []
  deriving DecidableEq, Repr

namespace Given

def value? (g : Given) (key : Key) : Option String :=
  g.options.lookup key

def has (g : Given) (key : Key) : Bool :=
  (g.value? key).isSome

/-- A number of jobs that fits 64 bits. -/
def jobCount? (text : String) : Option Nat :=
  (Numeral.upTo 0xFFFFFFFFFFFFFFFF text.toList).toOption

/-- Whether an option can have a value. -/
def accepts (key : Key) (value : String) : Bool :=
  match key with
  | .concurrency => (jobCount? value).isSome
  | .dir => !value.isEmpty
  | _ => true

/-- Adds an option, which may be given once. -/
def add (g : Given) (key : Key) (value : String) : Except String Given :=
  if g.has key then .error "an option cannot be used multiple times"
  else if !accepts key value then .error s!"invalid value '{value}'"
  else .ok { g with options := g.options ++ [(key, value)] }

def concurrency (g : Given) : Nat :=
  ((g.value? .concurrency).bind jobCount?).getD defaultConcurrency

def dumpOptions (g : Given) : DumpOptions where
  database := g.value? .database
  earliest := g.value? .earliest
  latest := g.value? .latest
  pattern := (g.value? .pattern).getD defaultArchivePattern
  dir := (g.value? .dir).getD "."
  concurrency := g.concurrency
  noop := g.has .noop

end Given

/-- Collects what a command is given, up to the first thing that halts it. -/
def collect (u : Usage) (g : Given) : List Part → Except Halt Given
  | [] => .ok g
  | .fault reason :: _ => .error (.misused (misuseText reason u.line))
  | .option .help _ :: _ => .error (.shown u.help)
  | .option key value :: rest =>
    match g.add key value with
    | .ok more => collect u more rest
    | .error reason => .error (.misused (misuseText reason u.line))
  | .word text _ :: rest | .plain text :: rest =>
    if u.words.isSome then collect u { g with words := g.words ++ [text] } rest
    else .error (.misused (misuseText s!"unexpected argument '{text}' found" u.line))

def unrecognized (name : String) : Halt :=
  .misused (misuseText s!"unrecognized subcommand '{name}'" programUsage)

/-- The help that is asked for by names. Commands have no commands of their own. -/
def readHelp : List String → Halt
  | [] => .shown programHelp
  | name :: rest =>
    match findCommand? name, rest with
    | some u, [] => .shown u.help
    | some _, next :: _ => unrecognized next
    | none, _ => unrecognized name

/-- The command under a name, with what stands behind the name. -/
def readCommand (name : String) (behind : List String) : Except Halt Command := do
  if name = helpUsage.name then throw (readHelp behind)
  match findCommand? name with
  | none => throw (unrecognized name)
  | some u =>
    let g ← collect u {} (Scan.parts u.switches none behind)
    if name = compactUsage.name then return .compact g.concurrency (g.has .noop)
    else if name = dumpUsage.name then return .dump g.dumpOptions
    else if name = infoUsage.name then return .info (g.has .short) g.words
    else return .serve

/-- What the program is given up to its command, which is the first word. -/
def readProgram (g : Given) : List Part → Except Halt Invocation
  | [] => .ok { storeUrl := g.value? .url }
  | .fault reason :: _ => .error (.misused (misuseText reason programUsage))
  | .option .help _ :: _ => .error (.shown programHelp)
  | .option .version _ :: _ => .error (.shown versionText)
  | .option key value :: rest =>
    match g.add key value with
    | .ok more => readProgram more rest
    | .error reason => .error (.misused (misuseText reason programUsage))
  | .word name behind :: _ => do
    return { storeUrl := g.value? .url, command := ← readCommand name behind }
  | .plain text :: _ =>
    .error (.misused (misuseText s!"unexpected argument '{text}' found" programUsage))

def read (arguments : List String) : Except Halt Invocation :=
  readProgram {} (Scan.parts programSwitches none arguments)

end CommandLine

end SeriesGateway
