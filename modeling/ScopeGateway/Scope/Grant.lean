import ScopeGateway.Form.Params

/-!
Adding one token to the `scope` parameter of an authorization query.
-/
namespace ScopeGateway

open Text

/-- How a scope value is searched for a token: as one of its words, or anywhere in it. -/
inductive MatchMode where
  | token
  | substring
deriving DecidableEq, Repr

/-- The token that authorization queries are to carry. -/
structure Grant where
  token : String
  mode : MatchMode := .token
deriving DecidableEq, Repr

/-- What becomes of a query. -/
inductive Amendment where
  | unchanged
  | unparseable
  | injected (query : String)
deriving DecidableEq, Repr

namespace Grant

def scopeName : String := "scope"

def carriedBy (g : Grant) (scope : String) : Bool :=
  match g.mode with
  | .token => (words scope.toList).contains g.token.toList
  | .substring => hasInfix g.token.toList scope.toList

/-- The value with the token after it, unless it is blank or carries the token already. -/
def extend? (g : Grant) (scope : String) : Option String :=
  if (trim scope.toList).isEmpty || g.carriedBy scope then none
  else some (String.ofList (trimEnd scope.toList ++ ' ' :: g.token.toList))

def isScope (p : Form.Param) : Bool := p.name == scopeName

/-- The first scope parameter gets the value, and later ones are dropped. -/
def withScope (value : String) : List Form.Param → List Form.Param
  | [] => []
  | p :: rest =>
    if isScope p then ⟨p.name, value⟩ :: rest.filter (!isScope ·)
    else p :: withScope value rest

/-- Adds the token to the first scope value of a raw query. A query that does not decode cleanly
is left alone, because writing it anew would damage it. -/
def amend (g : Grant) (query : String) : Amendment :=
  if !Form.isLossless query then .unparseable
  else
    let params := Form.parse query
    match params.find? isScope with
    | none => .unchanged
    | some scope =>
      match g.extend? scope.value with
      | none => .unchanged
      | some value => .injected (Form.render (withScope value params))

end Grant

/-- The query after an amendment. -/
def Amendment.apply (query : String) : Amendment → String
  | .injected amended => amended
  | .unchanged | .unparseable => query

/-- One grant after another, each on what the previous one left: every outcome, and the last
query. -/
def amendAll (query : String) : List Grant → List Amendment × String
  | [] => ([], query)
  | g :: rest =>
    let outcome := g.amend query
    let (later, last) := amendAll (outcome.apply query) rest
    (outcome :: later, last)

end ScopeGateway
