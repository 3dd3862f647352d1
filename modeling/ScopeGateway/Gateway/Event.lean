import ScopeGateway.Gateway.Failure
import ScopeGateway.Settings.Basic

/-!
What a gateway logs.
-/
namespace ScopeGateway

/-- Kinds of events, the gravest first. -/
inductive Level where
  | error
  | warn
  | info
  | debug
  | trace
deriving DecidableEq, Repr

namespace Level

def rank : Level → Nat
  | error => 1
  | warn => 2
  | info => 3
  | debug => 4
  | trace => 5

def name : Level → String
  | error => "ERROR"
  | warn => "WARN"
  | info => "INFO"
  | debug => "DEBUG"
  | trace => "TRACE"

end Level

inductive Event where
  | starting
  | settingsValid
  | metricsListening (address : String)
  | serving (address : String) (settings : Settings)
  | injected (token : String)
  | unparseable (path : String)
  | failed (method : Http.Method) (failure : Failure)
  | tunnelClosed (sent received : Nat)
  | tunnelAborted
  | signalReceived
  | draining
  | stopped
  | finished
deriving DecidableEq

/-- The content of an event's field. -/
inductive Detail where
  | text (s : String)
  | number (n : Nat)
deriving DecidableEq, Repr

namespace Detail

def render : Detail → String
  | text s => s
  | number n => toString n

end Detail

def programName : String := "oidc-scope-proxy"

def programVersion : String := "0.1.0"

/-- The name that all origins of events begin with. -/
def rootOrigin : String := "oidc_scope_proxy"

namespace Event

def level : Event → Level
  | failed .. => .error
  | unparseable _ => .warn
  | tunnelClosed .. | tunnelAborted => .debug
  | _ => .info

def message : Event → String
  | starting => programName ++ " v" ++ programVersion ++ " starting"
  | settingsValid => "Configuration is valid"
  | metricsListening _ => "Metrics endpoint listening"
  | serving .. => "HTTP server starting"
  | injected _ => "Injected scope into authorization request"
  | unparseable _ => "Unparseable authorization query, forwarding unchanged"
  | failed .. => "Upstream error"
  | tunnelClosed .. => "Upgraded connection closed"
  | tunnelAborted => "Upgraded connection aborted"
  | signalReceived => "Shutdown signal received"
  | draining => "Draining connections"
  | stopped => "HTTP server stopped"
  | finished => "Shutdown complete"

/-- The part of the program that an event comes from. -/
def origin : Event → String
  | starting | settingsValid | finished => rootOrigin
  | metricsListening _ => rootOrigin ++ "::observability::metrics"
  | tunnelClosed .. | tunnelAborted => rootOrigin ++ "::http::upgrade"
  | signalReceived => rootOrigin ++ "::lifecycle::signals"
  | _ => rootOrigin ++ "::http::server"

/-- The event is about the request of some caller. -/
def hasCaller : Event → Bool
  | injected _ | unparseable _ | failed .. | tunnelClosed .. | tunnelAborted => true
  | _ => false

/-- The named details of an event, in order. -/
def details : Event → List (String × Detail)
  | metricsListening address => [("address", .text address)]
  | serving address s =>
    [("address", .text address), ("upstream", .text s.backendUrl),
      ("path_prefix", .text s.rule.pathStart), ("scope", .text s.rule.grant.token)]
  | injected token => [("scope", .text token)]
  | unparseable path => [("path", .text path)]
  | failed method failure => [("method", .text method.text), ("error", .text failure.message)]
  | tunnelClosed sent received => [("sent", .number sent), ("received", .number received)]
  | tunnelAborted => [("error", .text "io error")]
  | _ => []

/-- The names under which an event says something. -/
def fieldNames (e : Event) : List String :=
  "message" :: (if e.hasCaller then ["client"] else []) ++ e.details.map Prod.fst

/-- The message with the details after it. -/
def line (e : Event) : String :=
  e.message ++ String.join (e.details.map fun (name, d) => " " ++ name ++ "=" ++ d.render)

end Event

end ScopeGateway
