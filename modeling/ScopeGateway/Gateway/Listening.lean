import ScopeGateway.Gateway.Basic

/-!
Starting a gateway: the addresses are read, the settings checked, the routes laid out, and only then
is it bound.
-/
namespace ScopeGateway

open Net

/-- Why a gateway is not started. -/
inductive StartError where
  | notAnAddress (text : String)
  | settings (e : SettingsError)
  | metricsBusy
  /-- The router does not take the health path. That is no error which is returned: the program
  breaks off. -/
  | unroutable (path : String)
  | busy (address : SocketAddress)
deriving DecidableEq, Repr

/-- A gateway with the addresses to listen on, the metrics' only if they are enabled. -/
structure Listening where
  metrics : Option SocketAddress
  requests : SocketAddress
  gateway : Gateway
deriving DecidableEq

def addressOf (text : String) : Except StartError SocketAddress :=
  match SocketAddress.parse text with
  | some a => .ok a
  | none => .error (.notAnAddress text)

/-- What segments that stood for something else begin with, in the older notation of routes. -/
def isCaptureMark (c : Char) : Bool := c == ':' || c == '*'

/-- The router takes the path as it is written. It refuses the older notation, lest somebody means
it; what the newer one is made of is a fault of the settings. -/
def isRoutable (path : String) : Bool :=
  (Text.splitOn (· == '/') path.toList).all fun segment => !segment.head?.any isCaptureMark

/-- What is in use once the metrics are served as well. Nobody holds the service zero, which stands
for any that is free. -/
def inUseBeside (metrics : Option SocketAddress) (inUse : SocketAddress → Bool)
    (a : SocketAddress) : Bool :=
  inUse a || metrics.any fun m => m.ip = a.ip && m.service = a.service && a.service ≠ 0

namespace Settings

/-- The metrics are served first, if at all. -/
def startMetrics (s : Settings) (inUse : SocketAddress → Bool) :
    Except StartError (Option SocketAddress) := do
  if s.metrics.enabled then
    let address ← addressOf s.metrics.address
    if inUse address then throw .metricsBusy
    return some address
  else return none

/-- The address for requests is read before the settings are checked, and bound after the routes
are laid out. -/
def startServing (s : Settings) (inUse : SocketAddress → Bool) :
    Except StartError (SocketAddress × Gateway) := do
  let address ← addressOf s.bindAddress
  let gateway ← (Gateway.ofSettings s).mapError .settings
  if !isRoutable s.healthPath then throw (.unroutable s.healthPath)
  if inUse address then throw (.busy address)
  return (address, gateway)

def start (s : Settings) (inUse : SocketAddress → Bool) : Except StartError Listening := do
  let metrics ← s.startMetrics inUse
  let (requests, gateway) ← s.startServing (inUseBeside metrics inUse)
  return ⟨metrics, requests, gateway⟩

end Settings

end ScopeGateway
