import ScopeGateway.Http.Message

/-!
What a gateway counts.
-/
namespace ScopeGateway

/-- One request that the backend was to answer, with the status that its sender got, or one query
with a scope added. -/
inductive Count where
  | request (method : Http.Method) (status : Nat)
  | injection
deriving DecidableEq

namespace Count

/-- The series that the count adds to. A request has its time measured as well. -/
def series : Count → List String
  | request method status =>
    ["proxy_requests_total\x7bmethod=" ++ method.text ++ ",status=" ++ toString status ++ "\x7d",
      "proxy_request_duration_seconds"]
  | injection => ["proxy_scope_injections_total"]

/-- How much the counts add to each series. -/
def tally (counts : List Count) : List (String × Nat) :=
  let all := counts.flatMap series
  all.eraseDups.map fun name => (name, all.count name)

end Count

end ScopeGateway
