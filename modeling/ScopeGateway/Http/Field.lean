import ScopeGateway.Text.Utf8

/-!
Names and values of header fields. A name is kept in lower case, so equal names are equal texts.
-/
namespace ScopeGateway.Http

open Text.Utf8 (Bytes)

/-- The characters of a token, capitals apart. -/
def isNameChar (c : Char) : Bool :=
  c.isLower || c.isDigit || "!#$%&'*+-.^_\x60|~".toList.contains c

/-- The longest name of a field. -/
def maxNameSize : Nat := 65535

def isFieldName (text : List Char) : Bool :=
  !text.isEmpty && text.length ≤ maxNameSize && text.all isNameChar

/-- The name of a field. -/
structure FieldName where
  text : String
  valid : isFieldName text.toList = true := by decide +kernel
deriving DecidableEq

/-- Controls but the tab may not stand in a value; bytes above ASCII may. -/
def isValueByte (b : UInt8) : Bool := b == 9 || (0x20 ≤ b && b != 0x7F)

/-- The value of a field. -/
structure FieldValue where
  bytes : Bytes
  valid : bytes.all isValueByte = true := by decide
deriving DecidableEq

namespace FieldName

/-- Reads a name in any case. -/
def ofBytes? (bytes : Bytes) : Option FieldName :=
  let text := bytes.map fun b => (Char.ofNat b.toNat).toLower
  if h : isFieldName text then some ⟨String.ofList text, by simpa using h⟩ else none

def connection : FieldName := ⟨"connection", by decide +kernel⟩
def contentLength : FieldName := ⟨"content-length", by decide +kernel⟩
def contentType : FieldName := ⟨"content-type", by decide +kernel⟩
def forwardedFor : FieldName := ⟨"x-forwarded-for", by decide +kernel⟩
def host : FieldName := ⟨"host", by decide +kernel⟩
def keepAlive : FieldName := ⟨"keep-alive", by decide +kernel⟩
def proxyAuthenticate : FieldName := ⟨"proxy-authenticate", by decide +kernel⟩
def proxyAuthorization : FieldName := ⟨"proxy-authorization", by decide +kernel⟩
def proxyConnection : FieldName := ⟨"proxy-connection", by decide +kernel⟩
def te : FieldName := ⟨"te", by decide +kernel⟩
def trailer : FieldName := ⟨"trailer", by decide +kernel⟩
def transferEncoding : FieldName := ⟨"transfer-encoding", by decide +kernel⟩
def upgrade : FieldName := ⟨"upgrade", by decide +kernel⟩

end FieldName

namespace FieldValue

def ofBytes? (bytes : Bytes) : Option FieldValue :=
  if h : bytes.all isValueByte then some ⟨bytes, h⟩ else none

def ofText? (text : String) : Option FieldValue := ofBytes? (Text.Utf8.encode text.toList)

/-- The text of a value that holds nothing but visible ASCII, blanks and tabs. -/
def text? (v : FieldValue) : Option (List Char) :=
  if v.bytes.all (· < 0x7F) then some (v.bytes.map fun b => Char.ofNat b.toNat) else none

def plainText : FieldValue :=
  ⟨Text.Utf8.encode "text/plain; charset=utf-8".toList, by decide +kernel⟩

end FieldValue

end ScopeGateway.Http
