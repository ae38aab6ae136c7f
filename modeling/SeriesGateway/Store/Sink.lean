import SeriesGateway.Store.Exchange

namespace SeriesGateway

/-- Why a chunk is not written, and how many of its bytes have been taken nevertheless. -/
structure Refusal where
  reason : String
  taken : Nat := 0

/-- Where a dump is written to. A sink takes chunk after chunk until it refuses one. A sink with a
limit refuses the chunk that would go beyond it; for other reasons to refuse one, it may have taken
a part of that chunk. -/
structure Sink where
  limit : Option Nat := none
  /-- The chunks that fail to be written, by what the sink has taken before them. -/
  fault : List ByteArray → ByteArray → Option Refusal := fun _ _ => none
  /-- What has been written, in the pieces in which it was. -/
  chunks : List ByteArray := []

namespace Sink

/-- All that has been written. -/
def received (s : Sink) : ByteArray :=
  s.chunks.foldl (· ++ ·) .empty

def hasRoom (s : Sink) (chunk : ByteArray) : Bool :=
  s.limit.all fun limit => s.received.size + chunk.size ≤ limit

/-- Why the next chunk is refused, if it is. -/
def refusal? (s : Sink) (chunk : ByteArray) : Option Refusal :=
  if s.hasRoom chunk then s.fault s.chunks chunk
  else some { reason := "the limit of the sink is reached" }

/-- The sink when more has been written. -/
def behind (s : Sink) (chunks : List ByteArray) : Sink :=
  { s with chunks := s.chunks ++ chunks }

/-- Writes chunks one after the other, and counts the bytes written. -/
def writeAll (s : Sink) (written : Nat) : List ByteArray → Except Failure Nat × Sink
  | [] => (.ok written, s)
  | chunk :: rest =>
    match s.refusal? chunk with
    | none => writeAll (s.behind [chunk]) (written + chunk.size) rest
    | some refusal =>
      (.error (.storage refusal.reason), s.behind [chunk.extract 0 refusal.taken])

/-- Writes a body as it arrives; one that breaks off is an error behind what has arrived. -/
def drain (s : Sink) (body : Body) : Except Failure Nat × Sink :=
  match s.writeAll 0 body.chunks with
  | (.ok written, full) => (body.whole.map fun _ => written, full)
  | failed => failed

end Sink

end SeriesGateway
