import ScopeGateway.Http.Headers
import ScopeGateway.Http.Uri

/-!
Requests and responses.
-/
namespace ScopeGateway.Http

open Text.Utf8 (Bytes)

def isMethodChar (c : Char) : Bool := c.isUpper || isNameChar c

def isMethod (text : List Char) : Bool := !text.isEmpty && text.all isMethodChar

/-- What a request asks for. Its case matters. -/
structure Method where
  text : String
  valid : isMethod text.toList = true := by decide +kernel
deriving DecidableEq

def Method.ofText? (text : String) : Option Method :=
  if h : isMethod text.toList then some ⟨text, h⟩ else none

def Method.head : Method := ⟨"HEAD", by decide +kernel⟩

def Method.connect : Method := ⟨"CONNECT", by decide +kernel⟩

structure Request where
  method : Method
  uri : Uri
  headers : Headers
  body : Bytes := []
deriving DecidableEq

structure Response where
  status : Nat
  headers : Headers
  body : Bytes := []
deriving DecidableEq

def Response.plain (status : Nat) (body : String) : Response :=
  ⟨status, ⟨[⟨.contentType, .plainText⟩]⟩, Text.Utf8.encode body.toList⟩

/-- The status that hands the connection over to another protocol. -/
def switchingProtocols : Nat := 101

end ScopeGateway.Http
