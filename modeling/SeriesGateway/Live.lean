import Std.Async
import SeriesGateway.Archive.Place
import SeriesGateway.Jobs
import SeriesGateway.Store.Link
import SeriesGateway.Wire

namespace SeriesGateway

/-- What the operations of a running program share. -/
structure Station where
  counters : IO.Ref Counters
  /-- How long a request may take. -/
  timeoutSeconds : Nat

/-- An operation in the world: requests go over sockets, files to the disk, and jobs to threads. -/
abbrev Live := ReaderT Station IO

namespace Live

open Std.Async Std.Net

def socketAddress (port : Nat) : IPAddr → SocketAddress
  | .v4 address => .v4 ⟨address, .ofNat port⟩
  | .v6 address => .v6 ⟨address, .ofNat port⟩

def hostName : Url.Host → String
  | .ipv6 pieces => .ofList (Url.Host.ipv6Text pieces)
  | host => .ofList host.text

/-- Connects to the first address that answers. -/
def connectAny (port : Nat) : List IPAddr → Async TCP.Socket.Client
  | [] => throw (IO.userError "no address answers")
  | address :: rest => do
    let socket ← TCP.Socket.Client.mk
    try
      socket.connect (socketAddress port address)
      return socket
    catch _ => connectAny port rest

/-- Receives until an answer is complete, or nothing more comes. -/
partial def receive (socket : TCP.Socket.Client) (received : ByteArray) : Async Arrival := do
  if Wire.isWhole received then return Wire.arrival received true
  try
    match ← socket.recv? 65536 with
    | some bytes => receive socket (received ++ bytes)
    | none => return Wire.arrival received true
  catch _ => return Wire.arrival received false

/-- Sends a request over a connection of its own. Only plain connections are made. -/
def exchange (r : Request) : Async Arrival := do
  match r.url.scheme, r.url.authority with
  | "http", some authority =>
    let port := authority.port.getD 80
    let addresses ← DNS.getAddrInfo (hostName authority.host) (toString port)
    let socket ← connectAny port addresses.toList
    socket.send (Wire.requestText r).toUTF8
    receive socket .empty
  | _, _ => return .lost

/-- What arrives for a request within the time that it may take. -/
def arrivalFor (s : Station) (r : Request) : IO Arrival := do
  let patience : Async Arrival := do
    (← Sleep.mk (.ofNat (s.timeoutSeconds * 1000))).wait
    return .lost
  try (Async.race (exchange r) patience).block
  catch _ => return .lost

/-- Waits for jobs to complete, and starts others in their places. -/
partial def flow {α : Type} (width : Nat) (waiting : List (Nat × IO α))
    (running : List (Nat × Task (Except IO.Error (Nat × α)))) (done : Array α) :
    IO (List α) := do
  match waiting with
  | (i, job) :: rest =>
    if running.length < width then
      let task ← IO.asTask (do return (i, ← job)) .dedicated
      return ← flow width rest (running ++ [(i, task)]) done
  | [] => pure ()
  let tasks := running.map Prod.snd
  if h : 0 < tasks.length then
    let (i, outcome) ← IO.ofExcept (← IO.waitAny tasks h)
    flow width waiting (running.filter (·.1 != i)) (done.push outcome)
  else return done.toList

def create (p : PathText) : IO Unit := do
  unless p.parents.isEmpty do IO.FS.createDirAll p.parentText
  IO.FS.writeBinFile p.text .empty

/-- What an operation on the disk gives; its failure is one of storage. -/
def stored {α : Type} (operation : IO α) : ExceptT Failure Live α :=
  ExceptT.mk do
    try return .ok (← operation)
    catch e => return .error (.storage (toString e))

end Live

instance : StoreLink Live where
  perform ask := do
    let station ← read
    let start ← IO.monoNanosNow
    let reading := ask.read (← Live.arrivalFor station ask.request)
    let elapsed := (← IO.monoNanosNow) - start
    station.counters.modify fun c => c.record ask.operation reading elapsed
    return reading.answer
  counters := do (← read).counters.get

instance : Shelf Live where
  create p := Live.stored (Live.create p)
  fill p content := Live.stored (IO.FS.writeBinFile p.text content)
  remove p := do
    try IO.FS.removeFile p.text
    catch _ => return

instance : SideBySide Live where
  completions width jobs := do
    let station ← read
    let numbered := jobs.zipIdx.map fun (job, i) => (i, job.run station)
    Live.flow width numbered [] #[]

end SeriesGateway
