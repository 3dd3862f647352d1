import ScopeGateway.Gateway.Backend
import ScopeGateway.Net.Address
import ScopeGateway.Settings.Basic
import ScopeGateway.Text.Blank

/-!
Faults of settings: everything that keeps a gateway from running with them.
-/
namespace ScopeGateway

/-- The single settings that a fault may lie in. -/
inductive Setting where
  | bindAddress
  | metricsAddress
  | healthPath
  | pathStart
  | connect
  | request
  | idle
  | bodyIdle
deriving DecidableEq, Repr

def Setting.name : Setting → String
  | .bindAddress => "listener.bind_address"
  | .metricsAddress => "observability.metrics_address"
  | .healthPath => "health.path"
  | .pathStart => "rewrite.path_prefix"
  | .connect => "timeouts.connect_secs"
  | .request => "timeouts.request_secs"
  | .idle => "timeouts.idle_secs"
  | .bodyIdle => "timeouts.body_idle_secs"

inductive Fault where
  | notAnAddress (setting : Setting) (value : String)
  | unusableBackend (e : BackendError)
  | relativePath (setting : Setting) (value : String)
  | notLiteral (path : String)
  | notAToken (token : String)
  | zeroLimit (setting : Setting)
deriving DecidableEq, Repr

def Fault.message : Fault → String
  | .notAnAddress setting value => setting.name ++ ": '" ++ value ++ "' is not a socket address"
  | .unusableBackend e => "upstream.url: " ++ e.message
  | .relativePath setting value => setting.name ++ ": '" ++ value ++ "' must start with '/'"
  | .notLiteral path => "health.path: '" ++ path ++ "' must be a literal path other than '/'"
  | .notAToken token => "rewrite.scope: '" ++ token ++ "' must be a single non-empty token"
  | .zeroLimit setting => setting.name ++ " must be greater than zero"

def faultsOfAddress (setting : Setting) (value : String) : List Fault :=
  if Net.isSocketAddress value then [] else [.notAnAddress setting value]

def faultsOfBackend (url : String) : List Fault :=
  match Backend.parse url with
  | .ok _ => []
  | .error e => [.unusableBackend e]

def faultsOfPath (setting : Setting) (value : String) : List Fault :=
  if value.toList.head? = some '/' then [] else [.relativePath setting value]

/-- Braces and asterisks would make a pattern of a path. -/
def isPatternChar (c : Char) : Bool := c == '\x7b' || c == '\x7d' || c == '*'

def faultsOfLiteral (path : String) : List Fault :=
  if path = "/" ∨ path.toList.any isPatternChar then [.notLiteral path] else []

def isToken (token : String) : Bool := token ≠ "" && !token.toList.any Text.isBlank

def faultsOfToken (token : String) : List Fault :=
  if isToken token then [] else [.notAToken token]

def faultsOfLimit (setting : Setting) (seconds : Nat) : List Fault :=
  if seconds = 0 then [.zeroLimit setting] else []

namespace Settings

def faults (s : Settings) : List Fault :=
  faultsOfAddress .bindAddress s.bindAddress ++
  (if s.metrics.enabled then faultsOfAddress .metricsAddress s.metrics.address else []) ++
  faultsOfBackend s.backendUrl ++
  faultsOfPath .healthPath s.healthPath ++
  faultsOfLiteral s.healthPath ++
  faultsOfPath .pathStart s.rule.pathStart ++
  faultsOfToken s.rule.grant.token ++
  faultsOfLimit .connect s.limits.connect ++
  faultsOfLimit .request s.limits.request ++
  faultsOfLimit .idle s.limits.idle ++
  faultsOfLimit .bodyIdle s.limits.bodyIdle

end Settings

end ScopeGateway
