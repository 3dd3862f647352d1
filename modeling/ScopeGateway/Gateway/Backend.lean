import ScopeGateway.Http.Uri
import ScopeGateway.Url.Parse

/-!
The server behind the gateway: the URL that names it, and the addresses of requests to it.
-/
namespace ScopeGateway

open Http

inductive BackendError where
  | unreadable (e : Url.UrlError)
  | unsupportedScheme (scheme : String)
  | unexpectedTail
  | invalidAuthority (authority : String)
deriving DecidableEq, Repr

def BackendError.message : BackendError → String
  | .unreadable e => "invalid URL: " ++ e.message
  | .unsupportedScheme scheme => "unsupported scheme '" ++ scheme ++ "', only http is supported"
  | .unexpectedTail => "URL must not carry a query or fragment"
  | .invalidAuthority authority => "invalid authority '" ++ authority ++ "'"

/-- A server for plain HTTP. Its authority always has the number of the service. -/
structure Backend where
  url : Url.HttpUrl
  authority : String
deriving DecidableEq, Repr

/-- Both texts with one slash between them, where either may bring it. -/
def joinAtSlash (base path : List Char) : List Char :=
  match base.getLast? == some '/', path.head? == some '/' with
  | true, true => base ++ path.tail
  | false, false => base ++ '/' :: path
  | _, _ => base ++ path

namespace Backend

def authorityOf (url : Url.HttpUrl) : String :=
  url.host.render ++ ":" ++ toString (url.service.getD Url.HttpUrl.usualService)

def ofUrl (url : Url.HttpUrl) : Except BackendError Backend :=
  if url.hasTail then .error .unexpectedTail
  else if Uri.isAuthority (authorityOf url).toList then .ok ⟨url, authorityOf url⟩
  else .error (.invalidAuthority (authorityOf url))

def parse (text : String) : Except BackendError Backend :=
  match Url.parse text with
  | .error e => .error (.unreadable e)
  | .ok (.other scheme) => .error (.unsupportedScheme scheme)
  | .ok (.http url) => ofUrl url

def render (b : Backend) : String := b.url.render

def basePath (b : Backend) : List Char := b.url.path

/-- The address of a request: the path behind the base path, and the query as it is. The joined
text is read anew, so a fragment in it is dropped. -/
def target (b : Backend) (path : String) (query : Option String) : Except UriError Uri := do
  let text := joinAtSlash b.basePath path.toList ++ query.elim [] fun q => '?' :: q.toList
  let resource ← Uri.Resource.parse text
  return ⟨some "http", some b.authority,
    if resource.path.isEmpty then "/" else String.ofList resource.path,
    resource.query.map String.ofList⟩

end Backend

end ScopeGateway
