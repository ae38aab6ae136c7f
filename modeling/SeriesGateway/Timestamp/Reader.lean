import SeriesGateway.Timestamp.Canonical
import SeriesGateway.Timestamp.Pattern
import SeriesGateway.Timestamp.Rfc3339
import SeriesGateway.Text.Utf8

namespace SeriesGateway.Timestamp

/-- The greatest integer that counts as seconds. -/
def greatestSecond : Int := 0x7FFFFFFF

/-- An integer of 64 bits by its size; small ones are no timestamps by themselves. -/
def ofInteger? (n : Int) : Option Instant :=
  if greatestSecond * 1000 < n then some (.ofNanoseconds n)
  else if greatestSecond < n then some (.ofMilliseconds n)
  else if 10000 < n then some (.ofSeconds n)
  else none

def integer? (cs : List Char) : Option Instant :=
  (Numeral.int64? cs).bind fun n => ofInteger? n.toInt

def canonical? (cs : List Char) : Option Instant :=
  (Canonical.read cs).toOption

/-- What stands before the last blank and what stands behind it. -/
def splitLast (cs : List Char) : Option (List Char × List Char) :=
  let tail := cs.reverse.takeWhile (· != ' ')
  if tail.length = cs.length then none
  else some (cs.take (cs.length - tail.length - 1), tail.reverse)

/-- A text without the name of a zone at its end. Every zone with a name counts as UTC. -/
def dropZoneName (cs : List Char) : Option (List Char) := do
  let (head, zone) ← splitLast cs
  if !zone.isEmpty && zone.all Char.isAlpha then some head else none

def rfc1123? (cs : List Char) : Option Instant :=
  Pattern.rfc1123Offset.read? cs <|> (dropZoneName cs).bind Pattern.rfc1123.read?

/-- A day such as `Tue Aug 28 21:24:35 UTC 2012`, with the name of a zone before the year. -/
def zoneYearLast? (cs : List Char) : Option Instant := do
  let (head, year) ← splitLast cs
  Pattern.yearLast.read? ((← dropZoneName head) ++ ' ' :: year)

/-- A timestamp cut behind its minute, hour, day, month or year, told apart by length in bytes. -/
def truncated? (cs : List Char) : Option Instant :=
  match Utf8.size cs with
  | 16 => Pattern.isoMinute.read? cs
  | 13 => Pattern.isoMinute.read? (cs ++ [':', '0', '0'])
  | 10 => Pattern.isoDate.read? cs
  | 7 => Pattern.isoDate.read? (cs ++ ['-', '0', '1'])
  | 4 => Pattern.isoDate.read? (cs ++ ['-', '0', '1', '-', '0', '1'])
  | _ => none

/-- The forms, in the order in which they are tried. -/
def forms : List (List Char → Option Instant) :=
  [integer?, canonical?, Rfc3339.read?, rfc1123?, zoneYearLast?, Pattern.yearLast.read?,
    Pattern.offsetYearLast.read?, truncated?]

/-- The instant of a text without white space around it. -/
def ofTrimmed? (cs : List Char) : Option Instant :=
  forms.findSome? fun form => form cs

/-- The instant of a text; a text that no form fits is an error, without the space around it. -/
def read (input : String) : Except String Instant :=
  let trimmed := Text.trim input.toList
  match ofTrimmed? trimmed with
  | some t => .ok t
  | none => .error (.ofList trimmed)

end SeriesGateway.Timestamp
