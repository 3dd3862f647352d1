import ScopeGateway.Gateway.Forward
import ScopeGateway.Scope.Rule
import ScopeGateway.Settings.Load

/-!
A gateway that is ready to answer, and which of its answers a request gets.
-/
namespace ScopeGateway

open Http

structure Gateway where
  backend : Backend
  rule : Rule
  healthPath : String
  limits : Limits
deriving DecidableEq

/-- Who answers a request: the gateway for its health, the backend, or nobody. -/
inductive Route where
  | health
  | backend
  | nowhere
deriving DecidableEq, Repr

namespace Gateway

/-- Only settings without faults make a gateway. Its routes are laid out when it is started. -/
def ofSettings (s : Settings) : Except SettingsError Gateway := do
  s.check
  match Backend.parse s.backendUrl with
  | .ok backend => return ⟨backend, s.rule, s.healthPath, s.limits⟩
  | .error e => throw (.faulty [.unusableBackend e])

/-- Paths are compared as they are written. One without a slash in front leads nowhere. -/
def route (g : Gateway) (uri : Uri) : Route :=
  if uri.path = g.healthPath then .health
  else if uri.path.toList.head? = some '/' then .backend
  else .nowhere

end Gateway

/-- The query to forward: the amended one, or else the request's own. -/
def Rule.queryFor (r : Rule) (uri : Uri) : Option String :=
  match r.amend uri with
  | .injected query => some query
  | .unchanged | .unparseable => uri.query

end ScopeGateway
