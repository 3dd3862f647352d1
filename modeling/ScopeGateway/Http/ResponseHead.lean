import ScopeGateway.Http.FieldSection
import ScopeGateway.Http.Message

/-!
Heads of responses, read byte by byte as they arrive: empty lines, a status line, and the fields.
Heads that only announce another one are skipped.
-/
namespace ScopeGateway.Http

open Text.Utf8 (Bytes)

structure ResponseHead where
  isOld : Bool := false
  status : Nat := 0
  headers : Headers := {}
deriving DecidableEq

/-- What the next byte of a head belongs to. -/
inductive HeadPhase where
  | blank
  | blankReturn
  | version (left : Bytes)
  | minor
  | gap
  | code (left : Nat)
  | afterCode
  | reason
  | reasonReturn
  | fields (r : FieldReader)
deriving DecidableEq

/-- A head up to some byte of it. -/
structure HeadReader where
  phase : HeadPhase := .blank
  isOld : Bool := false
  status : Nat := 0
deriving DecidableEq

/-- What every version begins with, but for its last digit. -/
def versionBytes : Bytes := Text.Utf8.encode "HTTP/1.".toList

/-- The last digit of a version, which says whether it is the older one. -/
def isOldMinor? (b : UInt8) : Option Bool :=
  if b = 0x31 then some false else if b = 0x30 then some true else none

namespace HeadReader

def goTo (r : HeadReader) (phase : HeadPhase) : HeadReader := { r with phase }

def addDigit (r : HeadReader) (left : Nat) (b : UInt8) : Option HeadReader :=
  if 0x30 ≤ b && b ≤ 0x39 then
    some { r with
      phase := if left ≤ 1 then .afterCode else .code (left - 1)
      status := r.status * 10 + (b.toNat - 0x30) }
  else none

/-- Takes the next byte; fails where no head goes on with it. -/
def step (r : HeadReader) (b : UInt8) : Option HeadReader :=
  let toFields := some (r.goTo (.fields {}))
  match r.phase with
  | .blank =>
    atLineEnd b (some (r.goTo .blankReturn)) (some r)
      (expect b 0x48 (r.goTo (.version versionBytes.tail)))
  | .blankReturn => expect b 0x0A (r.goTo .blank)
  | .version [] => none
  | .version (c :: left) => expect b c (r.goTo (if left.isEmpty then .minor else .version left))
  | .minor => (isOldMinor? b).map fun isOld => { r with phase := .gap, isOld }
  | .gap => expect b 0x20 (r.goTo (.code 3))
  | .code left => r.addDigit left b
  | .afterCode =>
    atLineEnd b (some (r.goTo .reasonReturn)) toFields (expect b 0x20 (r.goTo .reason))
  | .reason =>
    atLineEnd b (some (r.goTo .reasonReturn)) toFields (if isValueByte b then some r else none)
  | .reasonReturn => if b = 0x0A then toFields else none
  | .fields f => (f.step b).map fun f => r.goTo (.fields f)

/-- The head, once it is complete. -/
def head? (r : HeadReader) : Option ResponseHead :=
  match r.phase with
  | .fields f => if f.phase = .done then some ⟨r.isOld, r.status, f.headers⟩ else none
  | _ => none

end HeadReader

/-- What some bytes make of a head: it goes on, it is broken, or it is there and other bytes
follow. -/
inductive HeadScan where
  | more (r : HeadReader)
  | malformed
  | found (head : ResponseHead) (rest : Bytes)
deriving DecidableEq

/-- Heads of this status only announce another head. -/
def isInterim (status : Nat) : Bool :=
  100 ≤ status && status ≤ 199 && status != switchingProtocols

/-- Takes some bytes. A head may be of any size: the bound of a client that reads it into a buffer is
left out. -/
def HeadReader.feed (r : HeadReader) : Bytes → HeadScan
  | [] => .more r
  | b :: rest =>
    match r.step b with
    | none => .malformed
    | some next =>
      match next.head? with
      | none => next.feed rest
      | some head =>
        if head.status < 100 then .malformed
        else if isInterim head.status then HeadReader.feed {} rest
        else .found head rest

end ScopeGateway.Http
