import SeriesGateway.CommandLine.Grammar

namespace SeriesGateway.CommandLine

/-- A part of a command line. An option takes its value from behind `=`, from the rest of its own
text after a letter, or from the next text if that does not look like an option. -/
inductive Part where
  /-- An option with its value; one that takes none has an empty one. -/
  | option (key : Key) (value : String)
  /-- A word, with all that stands behind it. -/
  | word (text : String) (behind : List String)
  /-- A text behind `--`, where nothing is an option. -/
  | plain (text : String)
  /-- What cannot be read. -/
  | fault (reason : String)
  deriving DecidableEq, Repr

namespace Scan

def unexpected (text : String) : Part :=
  .fault s!"unexpected argument '{text}' found"

def valueMissing (s : Switch) : Part :=
  .fault s!"a value is required for '{s.name}' but none was supplied"

/-- Whether a text can be the value of the option before it. -/
def isValue (text : String) : Bool :=
  text == "-" || !text.startsWith "-"

/-- Letters behind one dash. The last option may wait for its value. -/
def letters (switches : List Switch) : List Char → List Part × Option Switch
  | [] => ([], none)
  | c :: rest =>
    match switches.find? (·.letter == some c) with
    | none => ([unexpected ("-" ++ c.toString)], none)
    | some s =>
      if s.value.isNone then
        let (parts, waiting) := letters switches rest
        (.option s.key "" :: parts, waiting)
      else match rest with
        | [] => ([], some s)
        | '=' :: value => ([.option s.key (.ofList value)], none)
        | value => ([.option s.key (.ofList value)], none)

/-- A name behind two dashes, with a value behind `=` or without. -/
def longName (switches : List Switch) (text : List Char) : List Part × Option Switch :=
  let name := String.ofList (text.takeWhile (· != '='))
  match switches.find? (·.name == name), text.dropWhile (· != '=') with
  | none, _ => ([unexpected ("--" ++ name)], none)
  | some s, [] => if s.value.isNone then ([.option s.key ""], none) else ([], some s)
  | some s, _ :: value =>
    if s.value.isNone then
      ([.fault s!"unexpected value for '{s.name}' found; no more were expected"], none)
    else ([.option s.key (.ofList value)], none)

/-- The parts of a command line, while an option may wait for its value. -/
def parts (switches : List Switch) : Option Switch → List String → List Part
  | none, [] => []
  | some s, [] => [valueMissing s]
  | some s, text :: rest =>
    if isValue text then .option s.key text :: parts switches none rest else [valueMissing s]
  | none, text :: rest =>
    match text.toList with
    | ['-', '-'] => rest.map .plain
    | '-' :: '-' :: name =>
      let (found, waiting) := longName switches name
      found ++ parts switches waiting rest
    | '-' :: c :: more =>
      let (found, waiting) := letters switches (c :: more)
      found ++ parts switches waiting rest
    | _ => .word text rest :: parts switches none rest

end Scan

end SeriesGateway.CommandLine
