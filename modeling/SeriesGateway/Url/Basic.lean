import SeriesGateway.Text.Form
import SeriesGateway.Url.Authority

namespace SeriesGateway

/-- A dot segment sets a path off that would read as an authority. Whether it does is settled when
the URL is read: a change of the path neither adds nor drops the dot segment. -/
structure Url where
  scheme : String
  authority : Option Url.Authority
  isSetOff : Bool
  path : Url.Path
  query : Option (List Char)
  fragment : Option (List Char)
  deriving DecidableEq, Repr

namespace Url

/-- Space and control characters do not count at the ends of a URL, tabs and line ends nowhere. -/
def clean (cs : List Char) : List Char :=
  let isEdge (c : Char) : Bool := c.toNat ≤ 0x20
  let trimmed := ((cs.dropWhile isEdge).reverse.dropWhile isEdge).reverse
  trimmed.filter fun c => c != '\t' && c != '\n' && c != '\r'

/-- A path as it is written, and the text from the query or the fragment on. -/
def splitPath (cs : List Char) : List Char × List Char :=
  cs.span fun c => c != '?' && c != '#'

/-- The query behind `?`, escaped. -/
def readQuery (special : Bool) : List Char → Option (List Char)
  | '?' :: rest => some (Percent.encode (escapedInQuery special) (rest.takeWhile (· != '#')))
  | _ => none

/-- The fragment behind the first `#`, escaped. -/
def readFragment (cs : List Char) : Option (List Char) :=
  match cs.dropWhile (· != '#') with
  | '#' :: rest => some (Percent.encode escapedInFragment rest)
  | _ => none

/-- Whether a path starts with two slashes where no authority stands before it. -/
def needsSettingOff : Option Authority → Path → Bool
  | none, .rooted ([] :: _ :: _) => true
  | _, _ => false

/-- A URL from its scheme, its authority, its path, and the text behind the path. -/
def withRest (scheme : String) (authority : Option Authority) (path : Path) (behind : List Char) :
    Url :=
  { scheme, authority, path
    isSetOff := needsSettingOff authority path
    query := readQuery (isSpecial scheme) behind
    fragment := readFragment behind }

/-- A URL whose authority comes next. -/
def readHierarchy (scheme : String) (cs : List Char) : Except Fault Url := do
  let (authority, rest) ← Authority.read scheme cs
  let (path, behind) := splitPath rest
  return withRest scheme authority (.behindAuthority (isSpecial scheme) path) behind

/-- A file whose path comes next. -/
def readLocalFile (cs : List Char) : Url :=
  let (path, behind) := splitPath cs
  withRest "file" (some .empty) (.ofFile path) behind

/-- A file whose host comes next. A drive in its place starts the path, and the host does not count
where the path starts with a drive. -/
def readHostedFile (cs : List Char) : Except Fault Url := do
  let inside (c : Char) : Bool := !Authority.isEnd true c
  let hostText := cs.takeWhile inside
  if Path.isDrive hostText then return readLocalFile cs
  let host ← Authority.readFileHost hostText
  let rest := cs.dropWhile inside
  if host = .name [] then return readLocalFile rest
  let (path, behind) := splitPath rest
  let onDrive := (Path.fileSegmentsOf (path.drop 1)).head?.any Path.isDrive
  let authority := if onDrive then .empty else { Authority.empty with host }
  return withRest "file" (some authority) (.ofFile (path.drop 1)) behind

def readFile (cs : List Char) : Except Fault Url :=
  let slashes := ((cs.take 2).takeWhile (Path.isSlash true)).length
  if slashes = 2 then readHostedFile (cs.drop 2) else .ok (readLocalFile (cs.drop slashes))

def readScheme (scheme : String) (cs : List Char) : Except Fault Url :=
  if scheme = "file" then readFile cs
  else if isSpecial scheme then readHierarchy scheme (cs.dropWhile (Path.isSlash true))
  else
    let (path, behind) := splitPath cs
    match cs with
    | '/' :: '/' :: rest => readHierarchy scheme rest
    | '/' :: _ => .ok (withRest scheme none (.behindAuthority false path) behind)
    | _ => .ok (withRest scheme none (.verbatim (Percent.encode isControl path)) behind)

/-- An absolute URL, each part in its one spelling: the scheme in small letters, no default port, a
path without dot segments, and escapes for the characters that have no place in their part. -/
def read (cs : List Char) : Except Fault Url :=
  match takeScheme (clean cs) with
  | some (scheme, rest) => readScheme scheme rest
  | none => .error .relative

def queryText (query : Option (List Char)) : List Char :=
  match query with
  | some text => '?' :: text
  | none => []

def fragmentText (fragment : Option (List Char)) : List Char :=
  match fragment with
  | some text => '#' :: text
  | none => []

def chars (u : Url) : List Char :=
  u.scheme.toList ++ ':' :: (u.authority.map Authority.text).getD [] ++
    (if u.isSetOff then ['/', '.'] else []) ++ u.path.text ++ queryText u.query ++
    fragmentText u.fragment

def render (u : Url) : String :=
  .ofList u.chars

/-- Puts a path that starts with a slash in the place of the one there is. A path without
structure keeps none, and escapes the slash. -/
def withPath (u : Url) (cs : List Char) : Url :=
  let kept := (cs.filter fun c => c != '\t' && c != '\n' && c != '\r').drop 1
  { u with
    path := match u.path with
      | .verbatim _ => .verbatim (['%', '2', 'F'] ++ Percent.encode isControl kept)
      | .rooted _ =>
        if u.scheme = "file" then .ofFile kept
        else .rooted (Path.segmentsOf (isSpecial u.scheme) kept) }

/-- Adds pairs behind the query. -/
def withPairs (u : Url) (pairs : List (String × String)) : Url :=
  { u with query := some (Form.append (u.query.getD []) pairs) }

/-- The pairs of the query. -/
def pairs (u : Url) : List (String × String) :=
  Form.decode (u.query.getD [])

end Url

end SeriesGateway
