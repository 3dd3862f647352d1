import ScopeGateway.Gateway.Backend
import ScopeGateway.Http.HopByHop
import ScopeGateway.Http.Message

/-!
The request that goes to the backend in place of one that came in.
-/
namespace ScopeGateway

open Http

namespace Http.Request

/-- The headers with the address's authority as host, where no host is given. -/
def headersWithHost (r : Request) : Headers :=
  if r.headers.contains .host then r.headers
  else match r.uri.authority.bind FieldValue.ofText? with
    | some host => r.headers.set ⟨.host, host⟩
    | none => r.headers

end Http.Request

/-- Where a request goes and in which words: its path, the query that is to be forwarded, who sent
it, and the protocol to switch to, if any. -/
structure Forwarding where
  backend : Backend
  query : Option String
  peer : Net.IpAddress
  protocol : Option FieldValue
deriving DecidableEq

namespace Forwarding

/-- What one hop makes of the headers. -/
def headers (f : Forwarding) (h : Headers) : Headers :=
  let passed := h.endToEnd.addForwarder f.peer
  f.protocol.elim passed passed.wanting

/-- The method and the body stay as they are. -/
def request (f : Forwarding) (r : Request) : Except UriError Request := do
  let uri ← f.backend.target r.uri.path f.query
  return { r with uri, headers := f.headers r.headersWithHost }

end Forwarding

end ScopeGateway
