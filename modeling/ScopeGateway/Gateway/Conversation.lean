import ScopeGateway.Http.Framing

/-!
The backend's side of a connection, act by act, and what the gateway takes from it: the head of a
response within a limit, then the body as long as it does not fall silent. Times are in
milliseconds. When the acts are over, silence follows without end.
-/
namespace ScopeGateway

open Http
open Text.Utf8 (Bytes)

/-- One act. The last kind asks the gateway itself to stop and says nothing to it here. -/
inductive Act where
  | write (bytes : Bytes)
  | pass (millis : Nat)
  | close
  | stop
deriving DecidableEq, Repr

/-- What the wait for a head ends with. -/
inductive Reply where
  | late
  | broken
  | head (h : ResponseHead) (rest : Bytes)
deriving DecidableEq

/-- Waits for a head, some time having passed and some bytes read. A head that is complete just
at the limit is late. Gives the acts that come after as well. -/
def awaitHead (limit : Nat) : Nat → HeadReader → List Act → Reply × List Act
  | _, _, [] => (.late, [])
  | elapsed, r, .write bytes :: rest =>
    match r.feed bytes with
    | .more r => awaitHead limit elapsed r rest
    | .malformed => (.broken, rest)
    | .found h after => (.head h after, rest)
  | elapsed, r, .pass millis :: rest =>
    if limit ≤ elapsed + millis then (.late, rest) else awaitHead limit (elapsed + millis) r rest
  | _, _, .close :: rest => (.broken, rest)
  | elapsed, r, .stop :: rest => awaitHead limit elapsed r rest

/-- What became of a body: the part that was relayed, and whether that is all of it. -/
structure RelayedBody where
  bytes : Bytes
  isWhole : Bool
deriving DecidableEq

def RelayedBody.after (b : RelayedBody) (before : Bytes) : RelayedBody :=
  { b with bytes := before ++ b.bytes }

/-- Relays a body after some silence. It is cut once the silence has lasted for the limit; every
part of the body that arrives starts the silence anew. -/
def relayBody (limit : Nat) : Nat → Framing → List Act → RelayedBody
  | _, .ended, _ => ⟨[], true⟩
  | _, _, [] => ⟨[], false⟩
  | silence, f, .write bytes :: rest =>
    match f.feed bytes with
    | (part, none) => ⟨part, false⟩
    | (part, some f) =>
      (relayBody limit (if part.isEmpty then silence else 0) f rest).after part
  | silence, f, .pass millis :: rest =>
    if limit ≤ silence + millis then ⟨[], false⟩ else relayBody limit (silence + millis) f rest
  | _, f, .close :: _ => ⟨[], f.isWholeAtClose⟩
  | silence, f, .stop :: rest => relayBody limit silence f rest

/-- Everything that the backend writes before it closes. -/
def written : List Act → Bytes
  | [] | .close :: _ => []
  | .write bytes :: rest => bytes ++ written rest
  | .pass _ :: rest | .stop :: rest => written rest

/-- The acts up to the first close. -/
def untilClose : List Act → List Act := List.takeWhile (· ≠ .close)

end ScopeGateway
