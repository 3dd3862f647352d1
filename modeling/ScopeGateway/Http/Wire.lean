import ScopeGateway.Http.Framing

/-!
Messages as bytes on a connection.
-/
namespace ScopeGateway.Http.Wire

open Text.Utf8 (Bytes)

def ascii (text : String) : Bytes := Text.Utf8.encode text.toList

def lineBreak : Bytes := [0x0D, 0x0A]

def fieldLine (name value : Bytes) : Bytes := name ++ ascii ": " ++ value ++ lineBreak

def fieldLines (h : Headers) : Bytes :=
  h.fields.flatMap fun f => fieldLine (ascii f.name.text) f.value.bytes

def statusLine (status : Nat) : Bytes :=
  ascii "HTTP/1.1 " ++ ascii (toString status) ++ ascii " " ++ lineBreak

def hexSize (n : Nat) : Bytes := ascii (String.ofList (Nat.toDigits 16 n))

/-- A part of a body as a chunk; nothing makes no chunk, since an empty one would end the body. -/
def chunk (part : Bytes) : Bytes :=
  if part.isEmpty then [] else hexSize part.length ++ lineBreak ++ part ++ lineBreak

def lastChunk : Bytes := ascii "0" ++ lineBreak ++ lineBreak

/-- How a message says where its body ends. -/
inductive Length where
  | none
  | sized (n : Nat)
  | chunked
deriving DecidableEq, Repr

def Length.line : Length → Bytes
  | none => []
  | sized n => fieldLine (ascii "content-length") (ascii (toString n))
  | chunked => fieldLine (ascii "transfer-encoding") (ascii "chunked")

def Length.body (l : Length) (body : Bytes) : Bytes :=
  match l with
  | none => []
  | sized _ => body
  | chunked => chunk body ++ lastChunk

/-- A response to a request. The fields need not be valid. -/
def response (m : Method) (status : Nat) (fields : List (Bytes × Bytes)) (body : Bytes)
    (isChunked : Bool) : Bytes :=
  let length : Length :=
    if hasNoBody m status then .none else if isChunked then .chunked else .sized body.length
  statusLine status ++ fields.flatMap (fun f => fieldLine f.1 f.2) ++ length.line ++ lineBreak ++
    length.body body

/-- The fields that frame a body are written anew for each connection. -/
def unframed (h : Headers) : Headers := h.removeAll [.contentLength, .transferEncoding]

/-- The head of a response, after which the connection is closed. -/
def answerHead (status : Nat) (h : Headers) (length : Length) : Bytes :=
  let headers := if length = .none then h else unframed h
  statusLine status ++ fieldLines headers ++ length.line ++
    (if status = switchingProtocols then [] else fieldLine (ascii "connection") (ascii "close")) ++
    lineBreak

/-- What stands in the first line of a request that goes straight to its server: path and query,
but the authority if a tunnel is asked for. -/
def requestTarget (r : Request) : String :=
  if r.method = .connect then r.uri.authority.getD ""
  else r.uri.path ++ r.uri.query.elim "" ("?" ++ ·)

/-- A request with its body's size before it, unless there is none and none was given. -/
def request (r : Request) : Bytes :=
  let length : Length :=
    if r.body.isEmpty && !r.headers.contains .contentLength then .none else .sized r.body.length
  ascii r.method.text ++ ascii " " ++ ascii (requestTarget r) ++ ascii " HTTP/1.1" ++ lineBreak ++
    fieldLines (unframed r.headers) ++ length.line ++ lineBreak ++ length.body r.body

end ScopeGateway.Http.Wire
