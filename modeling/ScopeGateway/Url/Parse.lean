import ScopeGateway.Url.Host
import ScopeGateway.Url.Path

/-!
URLs. Those of the scheme `http` are read into their parts; of all others only the scheme is kept,
once they have been found readable.
-/
namespace ScopeGateway.Url

open Text

/-- A URL of the scheme `http`. The user is written with the `@` that ends it, and the service is
none where it is the usual one. The flag says that a query or fragment follows the path. -/
structure HttpUrl where
  user : List Char
  host : Host
  service : Option Nat
  path : List Char
  hasTail : Bool
deriving DecidableEq, Repr

end ScopeGateway.Url

namespace ScopeGateway

inductive Url where
  | http (url : Url.HttpUrl)
  | other (scheme : String)
deriving DecidableEq, Repr

namespace Url

open Text

/-- Kinds of schemes: with a known service number and slashes of either lean, files, and the
rest. -/
inductive Kind where
  | network (usual : Nat)
  | file
  | opaqueHost
deriving DecidableEq, Repr

def kindOf (scheme : List Char) : Kind :=
  match String.ofList scheme with
  | "http" | "ws" => .network 80
  | "https" | "wss" => .network 443
  | "ftp" => .network 21
  | "file" => .file
  | _ => .opaqueHost

/-- Controls and blanks at the ends, and tabs and line ends anywhere, do not count. -/
def clean (text : List Char) : List Char :=
  let isEdge (c : Char) : Bool := c.toNat ≤ 0x20
  let trimmed := ((text.dropWhile isEdge).reverse.dropWhile isEdge).reverse
  trimmed.filter fun c => !(c == '\t' || c == '\n' || c == '\r')

def isSchemeChar (c : Char) : Bool := c.isAlphanum || c == '+' || c == '-' || c == '.'

/-- The scheme in lower case, and what follows its colon. -/
def splitScheme? (text : List Char) : Option (List Char × List Char) :=
  if text.head?.any Char.isAlpha then
    match text.dropWhile isSchemeChar with
    | ':' :: rest => some ((text.takeWhile isSchemeChar).map Char.toLower, rest)
    | _ => none
  else none

/-- The characters that end an authority. A slash leans back only in some schemes. -/
def endsAuthority (leans : Bool) (c : Char) : Bool :=
  c == '/' || c == '?' || c == '#' || (leans && c == '\\')

/-- What stands before the last `@` of an authority, and what stands after it. -/
def splitUser (authority : List Char) : Option (List Char) × List Char :=
  match authority.reverse.dropWhile (· != '@') with
  | [] => (none, authority)
  | _ :: user => (some user.reverse, (authority.reverse.takeWhile (· != '@')).reverse)

/-- The name, then the password if it is not empty, then an `@`; nothing if both are empty. -/
def renderUser (user : List Char) : List Char :=
  let (name, password) := cut (· == ':') user
  let escaped := escapeIf escapedInUser
  let password := (password.filter (!·.isEmpty)).elim [] fun p => ':' :: escaped p
  if name.isEmpty && password.isEmpty then [] else escaped name ++ password ++ ['@']

/-- The host ends at the first colon outside of brackets. -/
def splitHost : Bool → List Char → List Char × Option (List Char)
  | _, [] => ([], none)
  | inside, c :: rest =>
    if c = ':' && !inside then ([], some rest)
    else
      let (host, service) := splitHost (c == '[' || (inside && c != ']')) rest
      (c :: host, service)

/-- The number of a service; none if no digit stands there. -/
def parseService (text : List Char) : Except UrlError (Option Nat) :=
  let n := text.foldl (fun n c => n * 10 + (c.toNat - '0'.toNat)) 0
  if !text.all Char.isDigit || 65535 < n then .error .invalidService
  else .ok (if text.isEmpty then none else some n)

/-- The user as it will be written and the rest of the authority. An `@` that comes first needs
something after it. -/
def parseUser (authority : List Char) (hasMore : Bool) :
    Except UrlError (List Char × List Char) :=
  match splitUser authority with
  | (none, rest) => .ok ([], rest)
  | (some [], []) => if hasMore then .error .emptyHost else .ok ([], [])
  | (some user, rest) => .ok (renderUser user, rest)

/-- Reads what follows the slashes of a scheme with a known service number. -/
def parseNetwork (usual : Nat) (rest : List Char) : Except UrlError HttpUrl := do
  let authority := rest.takeWhile (!endsAuthority true ·)
  let after := rest.drop authority.length
  let (user, authority) ← parseUser authority (!after.isEmpty)
  let (host, service) := splitHost false authority
  if host.isEmpty then throw .emptyHost
  let host ← Host.parse host
  let service ← parseService (service.getD [])
  let isTail (c : Char) : Bool := c == '?' || c == '#'
  return ⟨user, host, service.filter (· != usual), resolvedPath (after.takeWhile (!isTail ·)),
    after.any isTail⟩

/-- The host of a file may be missing, and a drive may stand in its place. -/
def checkFile (rest : List Char) : Except UrlError Unit :=
  match rest with
  | c :: d :: after =>
    if isSlash c && isSlash d then
      let host := after.takeWhile (!endsAuthority true ·)
      if host.isEmpty || isDriveLetter host then .ok () else (Host.parse host).map fun _ => ()
    else .ok ()
  | _ => .ok ()

/-- Two slashes announce an authority; without them there is nothing to check. -/
def checkOpaque (rest : List Char) : Except UrlError Unit :=
  match rest with
  | '/' :: '/' :: rest => do
    let authority := rest.takeWhile (!endsAuthority false ·)
    let after := rest.drop authority.length
    let (user, authority) ← parseUser authority (!after.isEmpty)
    let (host, service) := splitHost false authority
    checkOpaqueHost host
    if host.isEmpty && service.isSome then throw .emptyHost
    let _ ← parseService ((service.getD []).takeWhile (· != '\\'))
    if host.isEmpty && !user.isEmpty then throw .emptyHost
  | _ => .ok ()

def parse (text : String) : Except UrlError Url := do
  match splitScheme? (clean text.toList) with
  | none => throw .noBase
  | some (scheme, rest) =>
    match kindOf scheme with
    | .network usual =>
      let url ← parseNetwork usual (rest.dropWhile isSlash)
      return if scheme = ['h', 't', 't', 'p'] then .http url else .other (String.ofList scheme)
    | .file => checkFile rest
    | .opaqueHost => checkOpaque rest
    return .other (String.ofList scheme)

def HttpUrl.usualService : Nat := 80

def HttpUrl.render (u : HttpUrl) : String :=
  "http://" ++ String.ofList u.user ++ u.host.render ++
    (u.service.elim "" fun n => ":" ++ toString n) ++ String.ofList u.path

end Url

end ScopeGateway
