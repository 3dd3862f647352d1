import Std.Async
import ScopeGateway.Net.Address
import ScopeGateway.Text.Utf8

/-!
Bytes over connections, with limits on the waiting.
-/
namespace ScopeGateway.Server

open Std.Async
open Text.Utf8 (Bytes)

abbrev Socket := TCP.Socket.Client

/-- The address as the system takes it. A zone is not passed on. -/
def systemAddress (ip : Net.IpAddress) (service : UInt16) : Std.Net.SocketAddress :=
  match ip with
  | .v4 octets => .v4 ⟨⟨octets⟩, service⟩
  | .v6 groups => .v6 ⟨⟨groups⟩, service⟩

def ipOfSystem : Std.Net.IPAddr → Net.IpAddress
  | .v4 a => .v4 a.octets
  | .v6 a => .v6 a.segments

def addressOfSystem (a : Std.Net.SocketAddress) : Net.SocketAddress :=
  match a with
  | .v4 ⟨addr, service⟩ => ⟨.v4 addr.octets, service, 0⟩
  | .v6 ⟨addr, service⟩ => ⟨.v6 addr.segments, service, 0⟩

/-- The result of some work, if it is there within so many milliseconds. The system's timers take 64
bits of them. -/
def within {α : Type} (millis : Nat) (work : Async α) : Async (Option α) :=
  Async.race (some <$> work) do
    sleep (Std.Time.Millisecond.Offset.ofNat (min millis (UInt64.size - 1)))
    return none

/-- What arrives next; nothing once the other side has closed. -/
def receive (s : Socket) : Async Bytes := do
  match ← s.recv? 65536 with
  | some bytes => return bytes.toList
  | none => return []

def send (s : Socket) (bytes : Bytes) : Async Unit := do
  if !bytes.isEmpty then s.send (ByteArray.mk bytes.toArray)

/-- Listens on an address. -/
def listen (a : Net.SocketAddress) : IO TCP.Socket.Server := do
  let server ← TCP.Socket.Server.mk
  server.bind (systemAddress a.ip a.service)
  server.listen 1024
  return server

end ScopeGateway.Server
