import ScopeGateway.Http.Message
import ScopeGateway.Time.Duration

/-!
Why a request got no response from the backend, and what its sender is told.
-/
namespace ScopeGateway

open Http

inductive Failure where
  /-- There was no head of a response within the limit. -/
  | late (limit : Duration)
  /-- The request has no valid address at the backend. -/
  | unsendable (e : UriError)
  /-- The connection was refused or closed, or what came was no response. -/
  | broken
deriving DecidableEq, Repr

namespace Failure

def message : Failure → String
  | late limit => "upstream did not respond within " ++ limit.render
  | unsendable e => "could not build upstream request: " ++ e.message
  | broken => "upstream request failed"

def status : Failure → Nat
  | late _ => 504
  | unsendable _ | broken => 502

def body : Failure → String
  | late _ => "Upstream timed out"
  | unsendable _ | broken => "Upstream request failed"

end Failure

def Failure.response (f : Failure) : Response := .plain f.status f.body

end ScopeGateway
