import SeriesGateway.Text.Percent
import SeriesGateway.Url.Escaped

namespace SeriesGateway.Url

/-- A list of segments without dot segments, or a text without structure where a URL has no slash
behind its scheme. -/
inductive Path where
  | rooted (segments : List (List Char))
  | verbatim (text : List Char)
  deriving DecidableEq, Repr

namespace Path

/-- In special URLs a backslash is a slash. -/
def isSlash (special : Bool) (c : Char) : Bool :=
  c == '/' || (special && c == '\\')

def isDot (segment : List Char) : Bool :=
  let small := segment.map Char.toLower
  small == ['.'] || small == ['%', '2', 'e']

def isDoubleDot (segment : List Char) : Bool :=
  let small := segment.map Char.toLower
  small == ['.', '.'] || small == ['.', '%', '2', 'e'] || small == ['%', '2', 'e', '.'] ||
    small == ['%', '2', 'e', '%', '2', 'e']

/-- A letter and a colon, or the bar that may stand for it. -/
def isDrive : List Char → Bool
  | [c, mark] => c.isAlpha && (mark == ':' || mark == '|')
  | _ => false

/-- Whether a segment is a drive, up to a backslash. -/
def startsWithDrive (segment : List Char) : Bool :=
  isDrive (segment.takeWhile (· != '\\'))

/-- A drive with its colon. -/
def withColon (segment : List Char) : List Char :=
  if isDrive segment then segment.take 1 ++ [':'] else segment

/-- Goes up one segment, unless that leaves a drive. -/
def parent (done : List (List Char)) : List (List Char) :=
  if done.getLast?.any startsWithDrive then done else done.dropLast

/-- Adds segments to those there are: a dot stays where it is, a double dot goes up one, and
either at the end leaves an empty segment. `first` is how the first segment is spelled. -/
def resolve (first : List Char → List Char) (done : List (List Char)) :
    List (List Char) → List (List Char)
  | [] => done
  | segment :: rest =>
    let final := if rest.isEmpty then [[]] else []
    if isDoubleDot segment then resolve first (parent done ++ final) rest
    else if isDot segment then resolve first (done ++ final) rest
    else
      let spelled := if done.isEmpty then first segment else segment
      resolve first (done ++ [Percent.encode escapedInPath spelled]) rest

/-- The segments of a path behind its first slash. -/
def segmentsOf (special : Bool) (cs : List Char) : List (List Char) :=
  resolve id [] (cs.splitOnP (isSlash special))

/-- The segments of the path of a file, where the first may be a drive. -/
def fileSegmentsOf (cs : List Char) : List (List Char) :=
  resolve withColon [] (cs.splitOnP (isSlash true))

/-- Files have no empty segments before the first name. -/
def dropEmptySegments : List (List Char) → List (List Char)
  | [] :: next :: rest => dropEmptySegments (next :: rest)
  | segments => segments

/-- A path behind an authority; special URLs have a segment always. -/
def behindAuthority (special : Bool) : List Char → Path
  | [] => .rooted (if special then [[]] else [])
  | c :: rest => .rooted (segmentsOf special (if isSlash special c then rest else c :: rest))

/-- The path of a file behind its first slash. -/
def ofFile (cs : List Char) : Path :=
  .rooted (dropEmptySegments (fileSegmentsOf cs))

def text : Path → List Char
  | .rooted segments => segments.flatMap ('/' :: ·)
  | .verbatim text => text

end Path

end SeriesGateway.Url
