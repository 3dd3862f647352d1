import ScopeGateway.Gateway.Handler
import ScopeGateway.Http.RequestHead
import ScopeGateway.Http.Wire
import ScopeGateway.Server.Socket

/-!
One connection from a caller: a request is read, handled, and answered, and the connection is
closed.
-/
namespace ScopeGateway.Server

open Std.Async
open Http
open Text.Utf8 (Bytes)

/-- What all connections share: the gateway, and where its events and counts go. -/
structure Desk where
  gateway : Gateway
  log : Event → IO Unit
  count : Count → IO Unit

/-- Reads the head of a request; none if what comes is no request. -/
partial def readRequestHead (s : Socket) (r : RequestReader) : Async (Option (RequestHead × Bytes)) := do
  let bytes ← receive s
  if bytes.isEmpty then return none
  match r.feed bytes with
  | .more r => readRequestHead s r
  | .malformed => return none
  | .found head rest => return some (head, rest)

/-- Reads the rest of a body after the part that is there. -/
partial def readBody (s : Socket) (f : Framing) (before arrived : Bytes) :
    Async (Option Bytes) := do
  let (part, next) := f.feed arrived
  match next with
  | none => return none
  | some .ended => return some (before ++ part)
  | some next =>
    let bytes ← receive s
    if bytes.isEmpty then return none
    readBody s next (before ++ part) bytes

def readRequest (s : Socket) : Async (Option (RequestHead × Request)) := do
  match ← readRequestHead s {} with
  | none => return none
  | some (head, rest) =>
    match head.framing? with
    | none => return none
    | some f =>
      let body ← readBody s f [] rest
      return body.map fun body => (head, ⟨head.method, head.target, head.headers, body⟩)

def Desk.note (desk : Desk) (events : List Event) (counts : List Count) : IO Unit := do
  events.forM fun e => desk.log e
  counts.forM fun c => desk.count c

/-- Gives an answer of the gateway's own. -/
def reply (desk : Desk) (caller : Socket) (m : Method) (own : OwnAnswer) : Async Unit := do
  desk.note own.events own.counts
  let r := own.response
  let body := if m = .head then [] else r.body
  send caller (Wire.answerHead r.status r.headers (.sized r.body.length) ++ body)
  caller.shutdown

/-- Connects to the backend within its limit. -/
def connect (g : Gateway) : Async (Option Socket) := do
  let url := g.backend.url
  let service := UInt16.ofNat (url.service.getD Url.HttpUrl.usualService)
  within (g.limits.connect * 1000) do
    let ip ← match url.host with
      | .address ip => pure ip
      | .domain name =>
        let found ← DNS.getAddrInfo (String.ofList name) ""
        match found[0]? with
        | some ip => pure (ipOfSystem ip)
        | none => throw (IO.userError "unknown host")
    let s ← TCP.Socket.Client.mk
    s.noDelay
    s.connect (systemAddress ip service)
    return s

/-- Reads the head of the backend's response. -/
partial def readReply (s : Socket) (r : HeadReader) : Async Reply := do
  let bytes ← receive s
  if bytes.isEmpty then return .broken
  match r.feed bytes with
  | .more r => readReply s r
  | .malformed => return .broken
  | .found head rest => return .head head rest

/-- Passes a body on, part by part, as long as it does not fall silent. Says whether all of it was
passed on. -/
partial def passBody (caller backend : Socket) (limit since : Nat) (f : Framing)
    (length : Wire.Length) (arrived : Bytes) : Async Bool := do
  let (part, next) := f.feed arrived
  send caller (if length = .chunked then Wire.chunk part else part)
  let now ← IO.monoMsNow
  let since := if part.isEmpty then since else now
  match next with
  | none => return false
  | some .ended => return true
  | some next =>
    match ← within (since + limit - now) (receive backend) with
    | none => return false
    | some [] => return next.isWholeAtClose
    | some bytes => passBody caller backend limit since next length bytes

/-- Passes bytes on until one side closes, and counts them. -/
partial def pump (source sink : Socket) (count : Nat) : Async Nat := do
  let bytes ← receive source
  if bytes.isEmpty then
    sink.shutdown
    return count
  send sink bytes
  pump source sink (count + bytes.length)

/-- Joins both connections until they are closed. -/
def splice (desk : Desk) (caller backend : Socket) (rest : Bytes) : Async Unit := do
  try
    send caller rest
    let (sent, received) ←
      Async.concurrently (pump caller backend 0) (pump backend caller rest.length)
    desk.log (.tunnelClosed sent received)
  catch _ => desk.log .tunnelAborted

/-- How the gateway frames the body that the backend has framed. -/
def lengthFor (m : Method) (status : Nat) (isOld : Bool) (f : Framing) : Wire.Length :=
  if hasNoBody m status then .none
  else match f with
    | .ended => .sized 0
    | .sized n => .sized n
    | .chunked .. | .untilClose => if isOld then .none else .chunked

/-- Passes the backend's response on. Nobody waits for connections that are joined. -/
def handOn (desk : Desk) (caller backend : Socket) (inbound : RequestHead) (r : Request)
    (o : Opening) : Async Unit := do
  let length := lengthFor r.method o.head.status inbound.isOld o.framing
  desk.note [] (returnedCounts r.method o.head)
  send caller (Wire.answerHead o.head.status (returnedHeaders o.head) length)
  if joins r o.head then background (splice desk caller backend o.rest)
  else
    let isWhole ←
      passBody caller backend desk.gateway.bodyLimit (← IO.monoMsNow) o.framing length o.rest
    if isWhole && length = .chunked then send caller Wire.lastChunk
    caller.shutdown

/-- Sends the request to the backend and waits for the head of its response. -/
def exchangeHeads (g : Gateway) (out : Request) : Async (Reply × Option Socket) := do
  match ← connect g with
  | none => return (.broken, none)
  | some backend =>
    send backend (Wire.request (g.backend.received out))
    return (← readReply backend {}, some backend)

/-- What the backend replies within the limit, and the connection to it. -/
def attempt (g : Gateway) (out : Request) : Async (Reply × Option Socket) := do
  try
    return (← within g.headLimit (exchangeHeads g out)).getD (.late, none)
  catch _ => return (.broken, none)

def forward (desk : Desk) (caller : Socket) (peer : Net.IpAddress) (inbound : RequestHead)
    (r : Request) : Async Unit := do
  let g := desk.gateway
  desk.note (g.rule.events r.uri) (g.rule.counts r.uri)
  match (g.forwardingOf peer r).request r with
  | .error e => reply desk caller r.method ((Failure.unsendable e).own r.method)
  | .ok out =>
    let (answer, backend) ← attempt g out
    match g.opening r.method answer with
    | .error f => reply desk caller r.method (f.own r.method)
    | .ok o => backend.forM fun backend => handOn desk caller backend inbound r o

/-- Handles the one request of a connection. -/
def serveConnection (desk : Desk) (caller : Socket) : Async Unit := do
  let peer := addressOfSystem (← caller.getPeerName)
  match ← readRequest caller with
  | none =>
    send caller (Wire.answerHead 400 {} (.sized 0))
    caller.shutdown
  | some (inbound, r) =>
    match (desk.gateway.route r.uri).own? with
    | some own => reply desk caller r.method own
    | none => forward desk caller peer.ip inbound r

end ScopeGateway.Server
