import SeriesGateway.Service.Answer
import SeriesGateway.Service.Target
import SeriesGateway.Store.Exchange
import SeriesGateway.Text.Blank

namespace SeriesGateway

namespace Base64

def digit (n : Nat) : Char :=
  if n < 26 then Char.ofNat ('A'.toNat + n)
  else if n < 52 then Char.ofNat ('a'.toNat + (n - 26))
  else if n < 62 then Char.ofNat ('0'.toNat + (n - 52))
  else if n = 62 then '+' else '/'

/-- The four digits of 24 bits. -/
def digits (n : Nat) : List Char :=
  [digit (n / 0x40000 % 64), digit (n / 0x1000 % 64), digit (n / 0x40 % 64), digit (n % 64)]

/-- Bytes in base 64: three bytes are four digits, and `=` fills the last four. -/
def encode : List UInt8 → List Char
  | [] => []
  | [a] => (digits (a.toNat * 0x10000)).take 2 ++ ['=', '=']
  | [a, b] => (digits (a.toNat * 0x10000 + b.toNat * 0x100)).take 3 ++ ['=']
  | a :: b :: c :: rest =>
    digits (a.toNat * 0x10000 + b.toNat * 0x100 + c.toNat) ++ encode rest

end Base64

namespace Wire

/-- The end of a line. -/
def lineEnd : String := "\r\n"

/-- The head of an HTTP/1 message: a first line, fields by their names, and an empty line. -/
structure Head where
  first : String
  /-- Values by names in small letters. -/
  fields : List (String × String)
  /-- How many bytes the head takes, with the empty line behind it. -/
  size : Nat
  deriving DecidableEq, Repr

namespace Head

/-- Where the first empty line from a place on ends. -/
def endFrom (bytes : ByteArray) (i : Nat) : Option Nat :=
  if i + 4 ≤ bytes.size then
    if (bytes.extract i (i + 4)).toList = [13, 10, 13, 10] then some (i + 4)
    else endFrom bytes (i + 1)
  else none
termination_by bytes.size - i

/-- A line with a name before a colon and a value behind it. -/
def field? (line : List Char) : Option (String × String) :=
  match line.dropWhile (· != ':') with
  | ':' :: value =>
    some (.ofList ((line.takeWhile (· != ':')).map Char.toLower), .ofList (Text.trim value))
  | _ => none

/-- The head of a message, once all of it is there. -/
def read? (bytes : ByteArray) : Option Head := do
  let size ← endFrom bytes 0
  let text := Utf8.decodeLossy (bytes.extract 0 size).toList
  let lines := (text.splitOn '\n').map fun line => line.filter (· != '\r')
  return {
    first := .ofList (lines.headD [])
    fields := lines.tail.filterMap field?
    size }

/-- The words of the first line. -/
def words (h : Head) : List String :=
  ((h.first.toList.splitOn ' ').filter (!·.isEmpty)).map .ofList

/-- The length of the body, if the head tells it. -/
def bodyLength? (h : Head) : Option Nat :=
  (h.fields.lookup "content-length").bind fun text => Numeral.natural? text.toList

end Head

/-- A head from its first line and its fields. -/
def headText (first : String) (fields : List (String × String)) : String :=
  first ++ lineEnd ++ .join (fields.map fun (name, value) => name ++ ": " ++ value ++ lineEnd) ++
    lineEnd

/-- The user and the password of a URL, for the head of a request. -/
def credentials? (a : Url.Authority) : Option String :=
  if a.user.isEmpty && a.password.isEmpty then none
  else
    let pair := Percent.decode a.user ++ Utf8.encode [':'] ++ Percent.decode a.password
    some ("Basic " ++ .ofList (Base64.encode pair))

/-- What a request asks for: the path and the query of its URL. -/
def targetText (u : Url) : String :=
  .ofList (u.path.text ++ Url.queryText u.query)

/-- A request asks for an answer that ends with its connection. -/
def requestText (r : Request) : String :=
  let host := (r.url.authority.map fun a => String.ofList a.hostText).getD ""
  let login := (r.url.authority.bind credentials?).toList.map fun text => ("authorization", text)
  let length := match r.method with
    | .get => []
    | .post => [("content-length", "0")]
  headText (r.method.name ++ " " ++ targetText r.url ++ " HTTP/1.0")
    ([("host", host), ("accept", "*/*")] ++ login ++ length)

/-- The status in the first line of an answer. -/
def status? (h : Head) : Option Nat :=
  match h.words with
  | _ :: code :: _ => Numeral.natural? code.toList
  | _ => none

/-- Whether an answer is complete before its connection ends. -/
def isWhole (bytes : ByteArray) : Bool :=
  match Head.read? bytes with
  | none => false
  | some h => h.bodyLength?.any fun length => h.size + length ≤ bytes.size

/-- What arrived over a connection that has nothing more to give; it was closed in order or broke
off. -/
def arrival (bytes : ByteArray) (closed : Bool) : Arrival :=
  match (Head.read? bytes).bind fun h => (status? h).map fun status => (h, status) with
  | none => .lost
  | some (h, status) =>
    let rest := bytes.extract h.size bytes.size
    match h.bodyLength? with
    | none => .answered status { chunks := [rest], complete := closed }
    | some length =>
      .answered status { chunks := [rest.extract 0 length], complete := length ≤ rest.size }

/-- The method and the target of a request. -/
def asked? (bytes : ByteArray) : Option (String × Target) :=
  match (Head.read? bytes).map Head.words with
  | some [method, target, _] => some (method, .ofText target.toList)
  | _ => none

/-- What everybody may ask for. -/
def openFields (method : String) : List (String × String) :=
  ("access-control-allow-origin", Answer.allowedOrigin) ::
    if method = "OPTIONS" then
      [("access-control-allow-methods", "*"), ("access-control-allow-headers", "*")]
    else []

/-- An answer to a request of a method. The length of a body that is left out is not told. -/
def answerText (method : String) (a : Answer) : String :=
  let type := a.contentType.toList.map fun type => ("content-type", type)
  let length :=
    if method = "HEAD" then [] else [("content-length", toString a.body.utf8ByteSize)]
  headText ("HTTP/1.1 " ++ statusText a.status)
    (type ++ openFields method ++ length ++ [("connection", "close")]) ++ a.body

end Wire

end SeriesGateway
