import ScopeGateway.Gateway.Basic
import ScopeGateway.Gateway.Conversation
import ScopeGateway.Gateway.Count
import ScopeGateway.Gateway.Event

/-!
What is decided about a request and about the backend's reply to it. A scripted exchange and a
connection of the system carry out the same decisions.
-/
namespace ScopeGateway

open Http
open Text.Utf8 (Bytes)

/-- A response of the gateway's own, with what is logged and counted along with it. -/
structure OwnAnswer where
  response : Response
  events : List Event := []
  counts : List Count := []
deriving DecidableEq

/-- The answers for which no backend is asked. -/
def Route.own? : Route → Option OwnAnswer
  | .health => some { response := .plain 200 "OK" }
  | .nowhere => some { response := ⟨404, {}, []⟩ }
  | .backend => none

/-- The answer to a request that the backend does not answer. -/
def Failure.own (m : Method) (f : Failure) : OwnAnswer :=
  ⟨f.response, [.failed m f], [.request m f.status]⟩

def Rule.events (r : Rule) (uri : Uri) : List Event :=
  match r.amend uri with
  | .injected _ => [.injected r.grant.token]
  | .unparseable => [.unparseable uri.path]
  | .unchanged => []

def Rule.counts (r : Rule) (uri : Uri) : List Count :=
  match r.amend uri with
  | .injected _ => [.injection]
  | .unparseable | .unchanged => []

/-- The request as it reaches the backend, which a host that is not given names the backend. -/
def Backend.received (b : Backend) (r : Request) : Request :=
  if r.headers.contains .host then r
  else
    let host := b.url.host.render ++ b.url.service.elim "" fun n => ":" ++ toString n
    match FieldValue.ofText? host with
    | some v => { r with headers := r.headers.append ⟨.host, v⟩ }
    | none => r

/-- The head of a response with the framing of the body behind it, of which some bytes have come
along with the head. -/
structure Opening where
  head : ResponseHead
  framing : Framing
  rest : Bytes
deriving DecidableEq

/-- The headers of a response on its way back. A switch of protocols keeps its own. -/
def returnedHeaders (h : ResponseHead) : Headers :=
  if h.status = switchingProtocols then h.headers else h.headers.endToEnd

/-- What is counted when a response goes back. -/
def returnedCounts (m : Method) (h : ResponseHead) : List Count := [.request m h.status]

/-- The response joins the connections on both sides: it switches protocols, and the request wished
for that. -/
def joins (r : Request) (h : ResponseHead) : Bool :=
  h.status = switchingProtocols && r.headers.wantedProtocol?.isSome

namespace Gateway

/-- How long the head of a response may take, in milliseconds. -/
def headLimit (g : Gateway) : Nat := g.limits.request * 1000

/-- How long a body may be silent, in milliseconds. -/
def bodyLimit (g : Gateway) : Nat := g.limits.bodyIdle * 1000

/-- How a request of some peer goes to the backend: its query is amended, and its headers are made
fit for the hop. -/
def forwardingOf (g : Gateway) (peer : Net.IpAddress) (r : Request) : Forwarding :=
  ⟨g.backend, g.rule.queryFor r.uri, peer, r.headers.wantedProtocol?⟩

/-- What a reply opens. A head that does not say how its body is framed is as good as none. -/
def opening (g : Gateway) (m : Method) : Reply → Except Failure Opening
  | .late => .error (.late (.ofSeconds g.limits.request))
  | .broken => .error .broken
  | .head h rest =>
    match framing? m h with
    | none => .error .broken
    | some f => .ok ⟨h, f, rest⟩

end Gateway

end ScopeGateway
