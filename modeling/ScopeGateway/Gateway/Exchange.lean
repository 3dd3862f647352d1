import ScopeGateway.Gateway.Handler

/-!
One request on a connection of its own: what its sender gets, what the backend gets, and what is
logged and counted.
-/
namespace ScopeGateway

open Http
open Text.Utf8 (Bytes)

/-- How the backend meets the gateway. -/
inductive Contact where
  | refused
  | acts (script : List Act)
deriving DecidableEq, Repr

/-- A request with what happens around it. After a switch of protocols its sender writes the
tunnel's bytes and then closes its side, or breaks the connection off. -/
structure Exchange where
  request : Request
  peer : Net.IpAddress
  contact : Contact
  tunnel : Bytes := []
  isReset : Bool := false
deriving DecidableEq

/-- The bytes that cross two connections once they are joined. -/
structure Tunnel where
  sent : Bytes
  received : Bytes
  isReset : Bool
deriving DecidableEq

/-- How the tunnel ends while the backend does its acts: by a reset, or once both sides have closed.
It stays open if the backend never closes. -/
def Tunnel.ending? (t : Tunnel) (acts : List Act) : Option Event :=
  if t.isReset then some .tunnelAborted
  else if acts.contains .close then some (.tunnelClosed t.sent.length t.received.length)
  else none

/-- What the sender of a request gets. -/
structure Answer where
  status : Nat
  headers : Headers
  body : RelayedBody
  tunnel : Option Tunnel := none
deriving DecidableEq

/-- A response of the gateway's own. The method `HEAD` leaves the body out. -/
def Answer.ofResponse (m : Method) (r : Response) : Answer :=
  ⟨r.status, r.headers, ⟨if m = .head then [] else r.body, true⟩, none⟩

/-- When the backend's acts ask the gateway to stop: before its reply is known, or after. -/
inductive StopRequest where
  | never
  | early
  | late
deriving DecidableEq, Repr

/-- All that comes of an exchange. Events are logged before the backend's reply is known, and once it
is known. Nobody waits for a tunnel, so its end is logged apart from them, whenever that comes. -/
structure Handling where
  answer : Answer
  sent : Option Request := none
  before : List Event := []
  once : List Event := []
  tunnelEnd : Option Event := none
  counts : List Count := []
  stop : StopRequest := .never
deriving DecidableEq

namespace Handling

def ofOwn (m : Method) (own : OwnAnswer) : Handling :=
  { answer := .ofResponse m own.response, once := own.events, counts := own.counts }

/-- The events in their order, with those of a stop between and behind them. -/
def events (h : Handling) : List Event :=
  let draining (s : StopRequest) : List Event := if h.stop = s then [.draining] else []
  h.before ++ draining .early ++ h.once ++ draining .late ++
    (if h.stop = .never then [] else [.stopped])

end Handling

/-- When a script asks for a stop, of which so many acts come after the reply. -/
def stopRequest (script : List Act) (after : Nat) : StopRequest :=
  let acts := untilClose script
  if (acts.take (script.length - after)).contains .stop then .early
  else if acts.contains .stop then .late
  else .never

/-- The tunnel behind a response that joins the connections. -/
def Exchange.tunnelAfter (e : Exchange) (h : ResponseHead) (rest : Bytes) (acts : List Act) :
    Option Tunnel :=
  if joins e.request h then some ⟨e.tunnel, rest ++ written acts, e.isReset⟩ else none

namespace Gateway

/-- How the request of an exchange goes to the backend. -/
def forwarding (g : Gateway) (e : Exchange) : Forwarding := g.forwardingOf e.peer e.request

/-- The answer when the backend gives none. -/
def fail (m : Method) (f : Failure) (sent : Option Request) (stop : StopRequest) : Handling :=
  { Handling.ofOwn m (f.own m) with sent, stop }

/-- The answer when the backend's head is there. -/
def handOn (g : Gateway) (e : Exchange) (h : ResponseHead) (f : Framing) (rest : Bytes)
    (acts : List Act) : Handling :=
  let tunnel := e.tunnelAfter h rest acts
  { answer :=
      ⟨h.status, returnedHeaders h, relayBody g.bodyLimit 0 f (.write rest :: acts), tunnel⟩
    tunnelEnd := tunnel.bind (·.ending? acts)
    counts := returnedCounts e.request.method h }

/-- One attempt, with the request as it has been built for the backend. -/
def attempt (g : Gateway) (e : Exchange) (out : Request) : Handling :=
  let m := e.request.method
  match e.contact with
  | .refused => fail m .broken none .never
  | .acts script =>
    let sent := some (g.backend.received out)
    let (reply, after) := awaitHead g.headLimit 0 {} script
    let stop := stopRequest script after.length
    match g.opening m reply with
    | .error f => fail m f sent stop
    | .ok o => { g.handOn e o.head o.framing o.rest after with sent, stop }

/-- The answer to a request for the backend. -/
def forward (g : Gateway) (e : Exchange) : Handling :=
  let r := e.request
  let handling :=
    match (g.forwarding e).request r with
    | .error error => fail r.method (.unsendable error) none .never
    | .ok out => g.attempt e out
  { handling with
    before := g.rule.events r.uri
    counts := g.rule.counts r.uri ++ handling.counts }

def handle (g : Gateway) (e : Exchange) : Handling :=
  match (g.route e.request.uri).own? with
  | some own => .ofOwn e.request.method own
  | none => g.forward e

end Gateway

end ScopeGateway
