import SeriesGateway.Maintenance

namespace SeriesGateway.CommandLine

/-- What an option is about. -/
inductive Key where
  | help
  | version
  | url
  | concurrency
  | noop
  | database
  | earliest
  | latest
  | pattern
  | dir
  | short
  deriving DecidableEq, Repr

/-- An option under its long and maybe a short name, with the name of its value if it has one. -/
structure Switch where
  key : Key
  letter : Option Char := none
  name : String
  value : Option String := none
  help : String

/-- A command with its options, and what its words are if it takes any. -/
structure Usage where
  name : String
  about : String
  switches : List Switch
  words : Option (String × String) := none

def programName : String := "seriesly_cubism"

def programVersion : String := "0.1.0"

def programAbout : String :=
  "Chart data source and maintenance tools for the seriesly store"

def helpSwitch : Switch where
  key := .help
  letter := some 'h'
  name := "help"
  help := "Print help"

def versionSwitch : Switch where
  key := .version
  letter := some 'V'
  name := "version"
  help := "Print version"

def urlSwitch : Switch where
  key := .url
  letter := some 'u'
  name := "url"
  value := some "URL"
  help := "Store URL, overrides SERIESLY_URL"

def concurrencySwitch (jobs : String) : Switch where
  key := .concurrency
  letter := some 'j'
  name := "concurrency"
  value := some "CONCURRENCY"
  help := s!"Number of concurrent {jobs} [default: {defaultConcurrency}]"

def noopSwitch (job : String) : Switch where
  key := .noop
  letter := some 'n'
  name := "noop"
  help := s!"Don't actually {job}"

/-- The options before a command. -/
def programSwitches : List Switch :=
  [urlSwitch, helpSwitch, versionSwitch]

def serveUsage : Usage where
  name := "serve"
  about := "Serve dense series over HTTP"
  switches := [helpSwitch]

def compactUsage : Usage where
  name := "compact"
  about := "Compact every database"
  switches := [concurrencySwitch "compactions", noopSwitch "compact", helpSwitch]

def dumpUsage : Usage where
  name := "dump"
  about := "Dump databases into gzip files"
  switches :=
    [concurrencySwitch "dumps",
      { key := .database
        name := "db"
        value := some "DB"
        help := "Which db to dump (default: all)" },
      noopSwitch "write dumps",
      { key := .earliest
        name := "from"
        value := some "FROM"
        help := "Oldest key to dump" },
      { key := .latest
        name := "to"
        value := some "TO"
        help := "Newest key to dump" },
      { key := .pattern
        name := "format"
        value := some "FORMAT"
        help := "Dump name format (%n %Y %m %d %H %M %S %%) [default: " ++
          defaultArchivePattern ++ "]" },
      { key := .dir
        name := "dir"
        value := some "DIR"
        help := "Directory to write dumps into [default: .]" },
      helpSwitch]

def infoUsage : Usage where
  name := "info"
  about := "Print database statistics"
  switches :=
    [{ key := .short
       name := "short"
       help := "One line per database" },
      helpSwitch]
  words := some ("[DBS]...", "Databases to describe (default: all)")

/-- The command that shows how commands are used. -/
def helpUsage : Usage where
  name := "help"
  about := "Print this message or the help of the given subcommand(s)"
  switches := []
  words := some ("[COMMAND]...", "Print help for the subcommand(s)")

def commands : List Usage :=
  [serveUsage, compactUsage, dumpUsage, infoUsage, helpUsage]

def findCommand? (name : String) : Option Usage :=
  commands.find? (·.name == name)

end SeriesGateway.CommandLine
