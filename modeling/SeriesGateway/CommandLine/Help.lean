import SeriesGateway.CommandLine.Grammar

namespace SeriesGateway.CommandLine

def pad (width : Nat) (text : String) : String :=
  text ++ .ofList (List.replicate (width - text.length) ' ')

/-- Lines with a name and what it stands for, which begins in the same place in all of them. -/
def listing (rows : List (String × String)) : String :=
  let width := (rows.map fun row => row.1.length).foldl max 0
  .join (rows.map fun (name, help) => s!"  {pad width name}  {help}\n")

namespace Switch

/-- The names of an option, with its value. -/
def shape (s : Switch) : String :=
  (match s.letter with
    | some letter => "-" ++ letter.toString ++ ", "
    | none => "    ") ++ "--" ++ s.name ++
  match s.value with
    | some value => " <" ++ value ++ ">"
    | none => ""

def row (s : Switch) : String × String :=
  (s.shape, s.help)

/-- Whether an option only shows something. -/
def isInformative (s : Switch) : Bool :=
  s.key == .help || s.key == .version

end Switch

/-- A mark for options, if there are any that matter. -/
def optionsMark (switches : List Switch) : String :=
  if switches.all Switch.isInformative then "" else " [OPTIONS]"

def block (title : String) (rows : List (String × String)) : String :=
  if rows.isEmpty then "" else s!"\n{title}:\n{listing rows}"

def programUsage : String :=
  s!"Usage: {programName}{optionsMark programSwitches} [COMMAND]"

def programHelp : String :=
  s!"{programAbout}\n\n{programUsage}\n" ++
  block "Commands" (commands.map fun c => (c.name, c.about)) ++
  block "Options" (programSwitches.map Switch.row)

namespace Usage

def line (u : Usage) : String :=
  s!"Usage: {programName} {u.name}{optionsMark u.switches}" ++
  match u.words with
    | some (mark, _) => " " ++ mark
    | none => ""

def help (u : Usage) : String :=
  s!"{u.about}\n\n{u.line}\n" ++
  block "Arguments" u.words.toList ++
  block "Options" (u.switches.map Switch.row)

end Usage

def versionText : String :=
  s!"{programName} {programVersion}\n"

/-- What is said of a command line that cannot be used. -/
def misuseText (fault usage : String) : String :=
  s!"error: {fault}\n\n{usage}\n\nFor more information, try '--help'.\n"

end SeriesGateway.CommandLine
