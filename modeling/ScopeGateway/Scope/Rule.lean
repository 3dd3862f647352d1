import ScopeGateway.Http.Uri
import ScopeGateway.Scope.Grant

/-!
Which requests are authorization requests.
-/
namespace ScopeGateway

/-- A grant for the requests whose path starts with some text. -/
structure Rule where
  pathStart : String
  grant : Grant
deriving DecidableEq, Repr

/-- Only the query of a path that starts so is amended. -/
def Rule.amend (r : Rule) (uri : Http.Uri) : Amendment :=
  if uri.startsWith r.pathStart then
    match uri.query with
    | some query => r.grant.amend query
    | none => .unchanged
  else .unchanged

end ScopeGateway
