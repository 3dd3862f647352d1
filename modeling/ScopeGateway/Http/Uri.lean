import ScopeGateway.Text.Split
import ScopeGateway.Text.Utf8

/-!
URIs as requests carry them: a path with or without a query, an absolute URI, an authority, or an
asterisk. A fragment is dropped.
-/
namespace ScopeGateway.Http

open Text

inductive UriError where
  | invalidCharacter
  | invalidAuthority
  | invalidFormat
  | relativePath
  | tooLong
  | empty
  | schemeTooLong
deriving DecidableEq, Repr

def UriError.message : UriError → String
  | .invalidCharacter => "invalid uri character"
  | .invalidAuthority => "invalid authority"
  | .invalidFormat => "invalid format"
  | .relativePath => "path does not start with slash"
  | .tooLong => "uri too long"
  | .empty => "empty string"
  | .schemeTooLong => "scheme too long"

structure Uri where
  scheme : Option String
  authority : Option String
  path : String
  query : Option String
deriving DecidableEq, Repr

namespace Uri

/-- No part of a request's address is longer than this many bytes. -/
def maxSize : Nat := 65534

/-- Above ASCII every character may stand in a path; below, those that need no escape there, and
quotes and braces. -/
def isPathChar (c : Char) : Bool :=
  let n := c.toNat
  n == 0x21 || n == 0x22 || (0x24 ≤ n && n ≤ 0x3B) || n == 0x3D || (0x40 ≤ n && n ≤ 0x5F) ||
    (0x61 ≤ n && n ≤ 0x7E) || 0x80 ≤ n

def isQueryChar (c : Char) : Bool :=
  let n := c.toNat
  n == 0x21 || (0x24 ≤ n && n ≤ 0x3B) || n == 0x3D || (0x3F ≤ n && n ≤ 0x7E) || 0x80 ≤ n

/-- A path starts with a slash, unless nothing or an asterisk stands for it. -/
def startsAsPath : List Char → Bool
  | [] | ['*'] => true
  | c :: _ => c == '/' || c == '?' || c == '#'

/-- A path and what follows its first question mark. -/
structure Resource where
  path : List Char
  query : Option (List Char)
deriving DecidableEq, Repr

def Resource.parse (text : List Char) : Except UriError Resource :=
  if maxSize < Utf8.size text then .error .tooLong
  else if !startsAsPath text then .error .relativePath
  else
    let (path, query) := cut (· == '?') (cut (· == '#') text).1
    if path.all isPathChar && (query.getD []).all isQueryChar then .ok ⟨path, query⟩
    else .error .invalidCharacter

/-- What an authority looks like up to some character of it. -/
structure AuthorityScan where
  colons : Nat := 0
  opened : Bool := false
  closed : Bool := false
  escaped : Bool := false
  afterAt : Bool := false

def isAuthorityChar (c : Char) : Bool :=
  c.isAlphanum || "!$&'()*+,-.;=_~".toList.contains c

/-- Colons and percent signs count only after the last `@` or closing bracket. -/
def AuthorityScan.step (s : AuthorityScan) (c : Char) : Except UriError AuthorityScan :=
  if c = ':' then
    if 8 ≤ s.colons then .error .invalidAuthority
    else .ok { s with colons := s.colons + 1, afterAt := false }
  else if c = '[' then
    if s.escaped || s.opened then .error .invalidAuthority
    else .ok { s with opened := true, afterAt := false }
  else if c = ']' then
    if !s.opened || s.closed then .error .invalidAuthority
    else .ok { s with closed := true, colons := 0, escaped := false, afterAt := false }
  else if c = '@' then .ok { s with colons := 0, escaped := false, afterAt := true }
  else if c = '%' then .ok { s with escaped := true, afterAt := false }
  else if isAuthorityChar c then .ok { s with afterAt := false }
  else .error .invalidCharacter

def AuthorityScan.isComplete (s : AuthorityScan) : Bool :=
  s.opened == s.closed && s.colons ≤ 1 && !s.afterAt && !s.escaped

/-- Reads `text` as user, host and number, the first and the last of which may be missing. -/
def checkAuthority (text : List Char) : Except UriError Unit := do
  let s ← text.foldlM AuthorityScan.step {}
  if s.isComplete then .ok () else .error .invalidAuthority

def endsAuthority (c : Char) : Bool := c == '/' || c == '?' || c == '#'

def isAuthority (text : List Char) : Bool :=
  !text.isEmpty && !text.any endsAuthority && (checkAuthority text).toBool

def isSchemeChar (c : Char) : Bool := c.isAlphanum || "+-.~".toList.contains c

def startsWithIgnoringCase (part text : List Char) : Bool :=
  part.isPrefixOf ((text.take part.length).map Char.toLower)

/-- The scheme before `://`, and what follows; no scheme if there is none. -/
def splitScheme (text : List Char) : Except UriError (Option (List Char) × List Char) :=
  let http := "http://".toList
  let https := "https://".toList
  if startsWithIgnoringCase http text then .ok (some "http".toList, text.drop http.length)
  else if startsWithIgnoringCase https text then .ok (some "https".toList, text.drop https.length)
  else
    let scheme := text.takeWhile isSchemeChar
    match text.dropWhile isSchemeChar with
    | ':' :: '/' :: '/' :: rest =>
      if 64 < scheme.length then .error .schemeTooLong else .ok (some scheme, rest)
    | _ => .ok (none, text)

/-- An absolute URI, or an authority alone. -/
def parseAbsolute (text : List Char) : Except UriError Uri := do
  let (scheme, rest) ← splitScheme text
  let authority := rest.takeWhile (!endsAuthority ·)
  checkAuthority authority
  let after := rest.dropWhile (!endsAuthority ·)
  match scheme with
  | none =>
    if after.isEmpty then return ⟨none, some (String.ofList authority), "", none⟩
    else throw .invalidFormat
  | some scheme =>
    if authority.isEmpty then throw .invalidFormat
    let resource ← Resource.parse after
    return ⟨some (String.ofList scheme), some (String.ofList authority),
      if resource.path.isEmpty then "/" else String.ofList resource.path,
      resource.query.map String.ofList⟩

def parse (text : String) : Except UriError Uri :=
  let cs := text.toList
  if maxSize < Utf8.size cs then .error .tooLong
  else match cs with
    | [] => .error .empty
    | ['*'] => .ok ⟨none, none, "*", none⟩
    | '/' :: _ => do
      let resource ← Resource.parse cs
      return ⟨none, none, String.ofList resource.path, resource.query.map String.ofList⟩
    | [_] =>
      if isAuthority cs then .ok ⟨none, some text, "", none⟩ else .error .invalidAuthority
    | _ => parseAbsolute cs

/-- Paths are compared as they are written, without decoding. -/
def startsWith (u : Uri) (start : String) : Bool := start.toList.isPrefixOf u.path.toList

def render (u : Uri) : String :=
  (u.scheme.elim "" (· ++ "://")) ++ u.authority.getD "" ++ u.path ++
    u.query.elim "" ("?" ++ ·)

end Uri

end ScopeGateway.Http
