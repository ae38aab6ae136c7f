import Std.Async
import SeriesGateway.Live
import SeriesGateway.Program
import SeriesGateway.Wire

namespace SeriesGateway.Main

open Std.Async

/-- The longest head of a request that is read. -/
def headLimit : Nat := 65536

/-- Receives the head of a request, and maybe more. -/
partial def receiveHead (socket : TCP.Socket.Client) (received : ByteArray) : Async ByteArray := do
  if (Wire.Head.read? received).isSome || headLimit < received.size then return received
  match ← socket.recv? 4096 with
  | some bytes => receiveHead socket (received ++ bytes)
  | none => return received

/-- Answers the request of a connection. -/
def answerOne (station : Station) (service : Service) (socket : TCP.Socket.Client) :
    Async Unit := do
  let bytes ← receiveHead socket .empty
  let (method, answer) ← match Wire.asked? bytes with
    | none => pure ("GET", Answer.bare 400)
    | some (method, target) =>
      let handled : Live Answer := service.handle method target
      let task : Async (Except IO.Error Answer) :=
        .ofIOTask (IO.asTask (handled.run station) .dedicated)
      pure (method, ← Async.ofExcept (← task))
  socket.send (Wire.answerText method answer).toUTF8
  socket.shutdown

partial def acceptAll (station : Station) (service : Service) (listener : TCP.Socket.Server) :
    Async Unit := do
  let socket ← listener.accept
  background (answerOne station service socket)
  acceptAll station service listener

/-- Serves on a port of all addresses until the process is interrupted. -/
def serve (port : Nat) (service : Service) : ExceptT Failure Live Unit := do
  let station ← read
  let address := s!"0.0.0.0:{port}"
  let listening : IO TCP.Socket.Server := do
    let listener ← TCP.Socket.Server.mk
    listener.bind (.v4 ⟨.ofParts 0 0 0 0, .ofNat port⟩)
    listener.listen 128
    return listener
  let opened ← listening.toBaseIO
  match opened with
  | .error e => throw (.internal s!"Failed to bind to address {address}: {e}")
  | .ok listener =>
    let interrupt ← Signal.Waiter.mk .sigint false
    let accepting ← (acceptAll station service listener).asTask
    let _ ← (← interrupt.wait).block
    let _ := accepting

/-- The present instant. -/
def now : IO Instant := do
  let timestamp ← Std.Time.Timestamp.now
  return ⟨timestamp.val.second.val, timestamp.val.nano.val.toNat⟩

/-- The values of the environment that settings are read from. -/
def environment : IO (List (String × String)) :=
  Settings.names.filterMapM fun name => do
    return (← IO.getEnv name).map fun value => (name, value)

def run (arguments : List String) : IO Ending := do
  let values ← environment
  let plan := Program.plan arguments fun name => values.lookup name
  let settings : Settings := match plan with
    | .finish _ => {}
    | .perform given _ => given
  let station : Station :=
    { counters := ← IO.mkRef {}, timeoutSeconds := settings.timeoutSeconds }
  let running : Live Ending := Program.run (serve settings.port) (← now) plan
  running.run station

end SeriesGateway.Main

def main (arguments : List String) : IO UInt32 := do
  let ending ← SeriesGateway.Main.run arguments
  IO.print ending.output
  IO.eprint ending.errors
  return .ofNat ending.code
