import SeriesGateway.Url.Escaped
import SeriesGateway.Url.Host
import SeriesGateway.Url.Path

namespace SeriesGateway.Url

def defaultPort? : String → Option Nat
  | "http" | "ws" => some 80
  | "https" | "wss" => some 443
  | "ftp" => some 21
  | _ => none

/-- Schemes whose URLs have a host and a path of segments. -/
def isSpecial (scheme : String) : Bool :=
  (defaultPort? scheme).isSome || scheme == "file"

def isSchemeChar (c : Char) : Bool :=
  c.isAlphanum || c == '+' || c == '-' || c == '.'

/-- The scheme before the first colon, and what follows the colon. -/
def takeScheme (cs : List Char) : Option (String × List Char) :=
  let name := cs.takeWhile isSchemeChar
  match name, cs.dropWhile isSchemeChar with
  | c :: _, ':' :: rest =>
    if c.isAlpha then some (.ofList (name.map Char.toLower), rest) else none
  | _, _ => none

/-- Who is asked, at which port, and in whose name. -/
structure Authority where
  user : List Char
  password : List Char
  host : Host
  port : Option Nat
  deriving DecidableEq, Repr

namespace Authority

/-- The authority of a URL that names nobody. -/
def empty : Authority :=
  ⟨[], [], .name [], none⟩

/-- The characters that end an authority. -/
def isEnd (special : Bool) (c : Char) : Bool :=
  Path.isSlash special c || c == '?' || c == '#'

/-- The name and the password before the last `@`, and the text behind it. -/
def splitUser (cs : List Char) : List Char × List Char :=
  let behind := (cs.reverse.takeWhile (· != '@')).reverse
  (cs.take (cs.length - behind.length - 1), behind)

/-- The host up to the first colon outside brackets, and the rest from that colon on. -/
def splitPort : Bool → List Char → List Char × List Char
  | _, [] => ([], [])
  | bracketed, c :: rest =>
    if c == ':' && !bracketed then ([], c :: rest)
    else
      let (host, port) := splitPort (c == '[' || (bracketed && c != ']')) rest
      (c :: host, port)

def readPort (scheme : String) (cs : List Char) : Except Fault (Option Nat) :=
  if cs.isEmpty then .ok none
  else
    match Numeral.natural? cs with
    | none => .error .badPort
    | some n =>
      if 65535 < n then .error .badPort
      else .ok (if defaultPort? scheme = some n then none else some n)

/-- A host and a port, and the text from a backslash on that ends the port. -/
def readHost (scheme : String) (cs : List Char) :
    Except Fault (Host × Option Nat × List Char) := do
  let (hostText, portText) := splitPort false cs
  if hostText.isEmpty && (isSpecial scheme || !portText.isEmpty) then throw .emptyHost
  let host ← if isSpecial scheme then Host.readSpecial hostText else Host.readOther hostText
  let digits := portText.drop 1
  let port ← readPort scheme (digits.takeWhile (· != '\\'))
  return (host, port, digits.dropWhile (· != '\\'))

/-- The authority that a text starts with, and the text from the path on. -/
def read (scheme : String) (cs : List Char) : Except Fault (Authority × List Char) := do
  let inside (c : Char) : Bool := !isEnd (isSpecial scheme) c
  let authority := cs.takeWhile inside
  let behind := cs.dropWhile inside
  if authority = ['@'] ∧ behind ≠ [] then throw .emptyHost
  let (user, rest) := splitUser authority
  let (host, port, left) ← readHost scheme rest
  let escape := Percent.encode escapedInUser
  let name := escape (user.takeWhile (· != ':'))
  let password := escape ((user.dropWhile (· != ':')).drop 1)
  if host = .name [] && !(name.isEmpty && password.isEmpty) then throw .emptyHost
  return (⟨name, password, host, port⟩, left ++ behind)

/-- The host of a file may be empty, and the local host is. -/
def readFileHost (cs : List Char) : Except Fault Host := do
  if cs.isEmpty then return .name []
  let host ← Host.readSpecial cs
  return if host = .name "localhost".toList then .name [] else host

def userText (a : Authority) : List Char :=
  if a.user.isEmpty && a.password.isEmpty then []
  else a.user ++ (if a.password.isEmpty then [] else ':' :: a.password) ++ ['@']

def hostText (a : Authority) : List Char :=
  a.host.text ++ match a.port with
    | some port => ':' :: Numeral.text port
    | none => []

def text (a : Authority) : List Char :=
  '/' :: '/' :: a.userText ++ a.hostText

end Authority

end SeriesGateway.Url
