import ScopeGateway.Server.Connection

/-!
Accepting connections until a signal comes, and waiting for those in flight.
-/
namespace ScopeGateway.Server

open Std.Async

/-- Cancels a token once a signal comes. -/
def cancelOn (signal : Std.Async.Signal) (stop : Std.CancellationToken) : Async Unit := do
  -- one wait for all connections: the signal's own selector gives its wait up with each of them
  let waiter ← Std.Async.Signal.Waiter.mk signal false
  let arrival ← waiter.wait
  background do
    discard <| await arrival
    stop.cancel .shutdown

/-- A token that either of the signals that ask for a stop cancels. -/
def stopSignals : Async Std.CancellationToken := do
  let stop ← Std.CancellationToken.new
  cancelOn .sigterm stop
  cancelOn .sigint stop
  return stop

/-- The next connection; none once a signal has come. -/
def nextCaller (server : TCP.Socket.Server) (stop : Std.CancellationToken) :
    Async (Option Socket) :=
  Selectable.one #[
    .case stop.selector fun _ => return none,
    .case server.acceptSelector fun s => return some s]

/-- Handles each connection on its own, with the count of those in flight. -/
partial def acceptAll (desk : Desk) (server : TCP.Socket.Server) (stop : Std.CancellationToken)
    (inFlight : IO.Ref Nat) : Async Unit := do
  match ← nextCaller server stop with
  | none => desk.log .signalReceived
  | some caller =>
    inFlight.modify (· + 1)
    background do
      try serveConnection desk caller
      catch _ => pure ()
      inFlight.modify (· - 1)
    acceptAll desk server stop inFlight

/-- Waits until nothing is in flight. -/
partial def drain (inFlight : IO.Ref Nat) : Async Unit := do
  if (← inFlight.get) ≠ 0 then
    sleep (Std.Time.Millisecond.Offset.ofNat 10)
    drain inFlight

def serveAll (desk : Desk) (server : TCP.Socket.Server) (stop : Std.CancellationToken) : Async Unit := do
  let inFlight ← IO.mkRef 0
  acceptAll desk server stop inFlight
  desk.log .draining
  drain inFlight
  desk.log .stopped

end ScopeGateway.Server
