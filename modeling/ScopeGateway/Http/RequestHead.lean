import ScopeGateway.Http.Framing
import ScopeGateway.Http.ResponseHead

/-!
Heads of requests, read byte by byte as they arrive: empty lines, a request line, and the fields.
-/
namespace ScopeGateway.Http

open Text.Utf8 (Bytes)

structure RequestHead where
  method : Method
  target : Uri
  isOld : Bool
  headers : Headers
deriving DecidableEq

/-- What the next byte of a head belongs to. -/
inductive RequestPhase where
  | blank
  | blankReturn
  | method
  | target
  | version (left : Bytes)
  | minor
  | lineEnd
  | lineReturn
  | fields (r : FieldReader)
deriving DecidableEq

/-- A head up to some byte of it. -/
structure RequestReader where
  phase : RequestPhase := .blank
  method : Bytes := []
  target : Bytes := []
  isOld : Bool := false
deriving DecidableEq

namespace RequestReader

def goTo (r : RequestReader) (phase : RequestPhase) : RequestReader := { r with phase }

/-- Takes the next byte; fails where no head goes on with it. -/
def step (r : RequestReader) (b : UInt8) : Option RequestReader :=
  let toFields := some (r.goTo (.fields {}))
  match r.phase with
  | .blank =>
    atLineEnd b (some (r.goTo .blankReturn)) (some r)
      (some { r with phase := .method, method := [b] })
  | .blankReturn => expect b 0x0A (r.goTo .blank)
  | .method =>
    if b = 0x20 then some (r.goTo .target) else some { r with method := r.method ++ [b] }
  | .target =>
    if b = 0x20 then some (r.goTo (.version versionBytes))
    else some { r with target := r.target ++ [b] }
  | .version [] => none
  | .version (c :: left) => expect b c (r.goTo (if left.isEmpty then .minor else .version left))
  | .minor => (isOldMinor? b).map fun isOld => { r with phase := .lineEnd, isOld }
  | .lineEnd => atLineEnd b (some (r.goTo .lineReturn)) toFields none
  | .lineReturn => if b = 0x0A then toFields else none
  | .fields f => (f.step b).map fun f => r.goTo (.fields f)

def text? (bytes : Bytes) : Option String := (Text.Utf8.decode? bytes).map String.ofList

/-- The head of the parts that have been read, if each of them is valid. -/
def headOf? (r : RequestReader) (headers : Headers) : Option RequestHead := do
  let method ← Method.ofText? (← text? r.method)
  let target ← (Uri.parse (← text? r.target)).toOption
  return ⟨method, target, r.isOld, headers⟩

end RequestReader

/-- What some bytes make of the head of a request. -/
inductive RequestScan where
  | more (r : RequestReader)
  | malformed
  | found (head : RequestHead) (rest : Bytes)
deriving DecidableEq

def RequestReader.feed (r : RequestReader) : Bytes → RequestScan
  | [] => .more r
  | b :: rest =>
    match r.step b with
    | none => .malformed
    | some next =>
      match next.phase with
      | .fields f =>
        if f.phase = .done then (next.headOf? f.headers).elim .malformed fun h => .found h rest
        else next.feed rest
      | _ => next.feed rest

/-- The body of a request ends at once if nothing is announced. -/
def RequestHead.framing? (h : RequestHead) : Option Framing :=
  (announcedFraming? ⟨h.isOld, 0, h.headers⟩).bind fun f =>
    if f = .untilClose then
      if (h.headers.values .transferEncoding).isEmpty then some .ended else none
    else some f

end ScopeGateway.Http
