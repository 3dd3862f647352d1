import ScopeGateway.Scope.Rule

/-!
What a gateway is set up with, and the stock values.
-/
namespace ScopeGateway

inductive LogFormat where
  | pretty
  | json
deriving DecidableEq, Repr

structure LogSettings where
  level : String := "info"
  format : LogFormat := .pretty
deriving DecidableEq, Repr

structure MetricsSettings where
  enabled : Bool := false
  address : String := "0.0.0.0:9090"
deriving DecidableEq, Repr

/-- Limits in seconds: for connecting, for a response's head, for an unused connection, and for
the silence between two parts of a response's body. -/
structure Limits where
  connect : Nat := 5
  request : Nat := 30
  idle : Nat := 90
  bodyIdle : Nat := 60
deriving DecidableEq, Repr

structure Settings where
  bindAddress : String := "0.0.0.0:8080"
  backendUrl : String := "http://authelia-app:9091"
  rule : Rule := ⟨"/api/oidc/authorization", ⟨"groups", .token⟩⟩
  healthPath : String := "/healthz"
  limits : Limits := {}
  log : LogSettings := {}
  metrics : MetricsSettings := {}
deriving DecidableEq, Repr

end ScopeGateway
