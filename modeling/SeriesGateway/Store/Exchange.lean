import SeriesGateway.Failure
import SeriesGateway.Url.Basic

namespace SeriesGateway

inductive Method where
  | get
  | post
  deriving DecidableEq, Repr

def Method.name : Method → String
  | .get => "GET"
  | .post => "POST"

structure Request where
  method : Method
  url : Url
  deriving DecidableEq, Repr

/-- The body of an answer in the pieces in which it arrives. It may break off behind them. -/
structure Body where
  chunks : List ByteArray
  complete : Bool := true

/-- What arrives for a request: nothing, or the head of an answer and its body. -/
inductive Arrival where
  | lost
  | answered (status : Nat) (body : Body)
  deriving Inhabited

namespace Body

/-- All that arrives of a body. -/
def bytes (b : Body) : ByteArray :=
  b.chunks.foldl (· ++ ·) .empty

/-- The bytes of a body that does not break off. -/
def whole (b : Body) : Except Failure ByteArray :=
  if b.complete then .ok b.bytes else .error (.transport "the body of the answer broke off")

end Body

/-- The body of an answer of success. -/
def Arrival.success : Arrival → Except Failure Body
  | .lost => .error (.transport "no answer arrived")
  | .answered 200 body => .ok body
  | .answered status _ => .error (.status status)

/-- The text of bytes. A byte order mark before it is no part of it. An arrival carries no content
type, so this assumes an answer that names no other charset than UTF-8 and starts with no byte order
mark of UTF-16. -/
def textOfBytes (bytes : ByteArray) : List Char :=
  let unmarked := match bytes.toList with
    | 0xEF :: 0xBB :: 0xBF :: rest => rest
    | all => all
  Utf8.decodeLossy unmarked

/-- The operations that send requests. -/
inductive Operation where
  | series
  | list
  | info
  | compact
  | dump
  | query
  deriving DecidableEq, Repr

def Operation.label : Operation → String
  | .series => "series"
  | .list => "list"
  | .info => "info"
  | .compact => "compact"
  | .dump => "dump"
  | .query => "query"

/-- All operations, in the order of their labels. -/
def Operation.all : List Operation :=
  [.compact, .dump, .info, .list, .query, .series]

/-- What is read from an arrival, and what is counted for it. -/
structure Reading (α : Type) where
  answer : α
  /-- Whether the request counts as failed. -/
  failed : Bool := false
  /-- How many samples are missing. -/
  missing : Nat := 0
  /-- How many answers carried no data. -/
  empty : Nat := 0

/-- A reading that counts as failed if it is an error. -/
def Reading.ofResult {α : Type} (result : Except Failure α) : Reading (Except Failure α) where
  answer := result
  failed := match result with
    | .ok _ => false
    | .error _ => true

/-- A request to be sent for an operation, and how to read what arrives for it. -/
structure Ask (α : Type) where
  operation : Operation
  request : Request
  read : Arrival → Reading α

end SeriesGateway
