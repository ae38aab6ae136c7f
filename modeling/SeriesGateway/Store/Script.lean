import SeriesGateway.Store.Exchange

namespace SeriesGateway

structure Reply where
  status : Nat := 200
  body : String := ""
  /-- How often the body stands in the answer. -/
  copies : Nat := 1
  /-- The connection closes before the end of the body. -/
  breaksOff : Bool := false
  /-- The connection closes before anything is answered. -/
  refuses : Bool := false
  deriving DecidableEq, Repr

/-- What arrives of a reply. -/
def Reply.arrival (r : Reply) : Arrival :=
  if r.refuses then .lost
  else .answered r.status ⟨List.replicate r.copies r.body.toUTF8, !r.breaksOff⟩

/-- Routes by method and path, such as `GET /_all_dbs`, with the replies that are given, one per
request, the last one again and again. -/
structure Script where
  routes : List (String × List Reply) := []
  deriving DecidableEq, Repr

namespace Script

/-- The reply to a request on a route, and the replies that are left. -/
def next : List Reply → Reply × List Reply
  | [] => ({ status := 404 }, [])
  | [last] => (last, [last])
  | reply :: rest => (reply, rest)

/-- A script answers what it has no route for with status 404. -/
def answer (s : Script) (route : String) : Arrival × Script :=
  match s.routes.lookup route with
  | none => (Reply.arrival { status := 404 }, s)
  | some replies =>
    let (reply, left) := next replies
    (reply.arrival, ⟨s.routes.map fun entry =>
      if entry.1 = route then (route, left) else entry⟩)

/-- Whether no reply of a script ever changes. -/
def IsSteady (s : Script) : Prop :=
  ∀ entry ∈ s.routes, entry.2.length ≤ 1

end Script

/-- The way to stores: what a script answers, whether connections open at all, and the requests
that arrived, by their first line. -/
structure Network where
  script : Script := {}
  isUp : Bool := true
  seen : List String := []
  /-- What arrives from stores that never change. A request to none of them goes to the script. -/
  others : Request → Option Arrival := fun _ => none

namespace Network

/-- The URL of a request as it is sent: without user, password and fragment. -/
def sentUrl (u : Url) : Url :=
  { u with
    authority := u.authority.map fun a => { a with user := [], password := [] }
    fragment := none }

/-- The name of the route of a request. -/
def route (r : Request) : String :=
  r.method.name ++ " " ++ .ofList r.url.path.text

/-- The host and the port that a secure connection goes to. -/
def endpoint (u : Url) : String :=
  match u.authority with
  | none => ""
  | some a =>
    .ofList (Url.Authority.hostText { a with port := some (a.port.getD 443) })

/-- The first line of a request as it is sent. -/
def line (r : Request) : String :=
  r.method.name ++ " " ++ (sentUrl r.url).render

/-- Sends a request. The store with a script answers over plain connections only; nothing is sent
to it for a URL of another scheme. -/
def exchange (n : Network) (r : Request) : Arrival × Network :=
  if !n.isUp then (.lost, n)
  else match n.others r with
  | some arrival => (arrival, { n with seen := n.seen ++ [line r] })
  | none =>
    if r.url.scheme = "http" then
      let (arrival, script) := n.script.answer (route r)
      (arrival, { n with script, seen := n.seen ++ [line r] })
    else if r.url.scheme = "https" then
      (.lost, { n with seen := n.seen ++ ["CONNECT " ++ endpoint r.url] })
    else (.lost, n)

end Network

end SeriesGateway
