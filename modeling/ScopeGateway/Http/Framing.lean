import ScopeGateway.Form.Component
import ScopeGateway.Http.ResponseHead
import ScopeGateway.Text.Blank

/-!
Where the body of a response ends: at once, after so many bytes, after the last of its chunks, or
with the connection.
-/
namespace ScopeGateway.Http

open Text
open Text.Utf8 (Bytes)

/-- What the next byte of a chunked body belongs to. -/
inductive ChunkPhase where
  | sizeStart
  | size
  | sizeBlank
  | extension
  | sizeReturn
  | data
  | dataEnd
  | dataReturn
  | trailerStart
  | trailer
  | trailerReturn
  | endReturn
deriving DecidableEq, Repr

inductive Framing where
  | ended
  | sized (left : Nat)
  | chunked (phase : ChunkPhase) (left : Nat)
  | untilClose
deriving DecidableEq, Repr

namespace Framing

/-- No size reaches this bound. -/
def sizeBound : Nat := Nat.pow 2 64

def ofSize (n : Nat) : Framing := if n = 0 then ended else sized n

/-- The ways on from the size of a chunk, after its last digit. -/
def afterSize (left : Nat) (b : UInt8) : Option Framing :=
  if b = 9 ∨ b = 0x20 then some (chunked .sizeBlank left)
  else if b = 0x3B then some (chunked .extension left)
  else if b = 0x0D then some (chunked .sizeReturn left)
  else none

def chunkStep (left : Nat) (b : UInt8) : ChunkPhase → Option Framing
  | .sizeStart => (Form.hexDigit? b).map fun d => chunked .size d
  | .size =>
    match Form.hexDigit? b with
    | some d => if left * 16 + d < sizeBound then some (chunked .size (left * 16 + d)) else none
    | none => afterSize left b
  | .sizeBlank => afterSize left b
  | .extension =>
    if b = 0x0D then some (chunked .sizeReturn left)
    else if b = 0x0A then none
    else some (chunked .extension left)
  | .sizeReturn =>
    if b ≠ 0x0A then none
    else some (chunked (if left = 0 then .trailerStart else .data) left)
  | .data => some (chunked (if left ≤ 1 then .dataEnd else .data) (left - 1))
  | .dataEnd => if b = 0x0D then some (chunked .dataReturn 0) else none
  | .dataReturn => if b = 0x0A then some (chunked .sizeStart 0) else none
  | .trailerStart => some (chunked (if b = 0x0D then .endReturn else .trailer) 0)
  | .trailer => some (chunked (if b = 0x0D then .trailerReturn else .trailer) 0)
  | .trailerReturn => if b = 0x0A then some (chunked .trailerStart 0) else none
  | .endReturn => if b = 0x0A then some ended else none

/-- Takes a byte, which is part of the body or of the framing; fails where the framing is broken. -/
def step (b : UInt8) : Framing → Option (Framing × Bytes)
  | ended => some (ended, [])
  | sized left => some (ofSize (left - 1), [b])
  | chunked phase left => (chunkStep left b phase).map fun f => (f, if phase = .data then [b] else [])
  | untilClose => some (untilClose, [b])

/-- The part of the body in some bytes, and the framing after them, unless they break it. -/
def feed (f : Framing) : Bytes → Bytes × Option Framing
  | [] => ([], some f)
  | b :: rest =>
    match f.step b with
    | none => ([], none)
    | some (next, part) =>
      let (parts, last) := next.feed rest
      (part ++ parts, last)

/-- The body is whole if the connection is closed here. -/
def isWholeAtClose (f : Framing) : Bool := f = ended || f = untilClose

theorem feed_append (f : Framing) (a b : Bytes) :
    f.feed (a ++ b) =
      match f.feed a with
      | (part, none) => (part, none)
      | (part, some g) => (part ++ (g.feed b).1, (g.feed b).2) := by
  induction a generalizing f with
  | nil => simp [feed]
  | cons x a ih =>
    simp only [List.cons_append, feed]
    cases f.step x with
    | none => rfl
    | some next =>
      obtain ⟨g, part⟩ := next
      simp only [ih]
      rcases g.feed a with ⟨parts, _ | h⟩ <;> simp

end Framing

/-- A number without sign in decimal digits. -/
def decimal? (text : List Char) : Option Nat :=
  let n := text.foldl (fun n c => n * 10 + (c.toNat - '0'.toNat)) 0
  if text.isEmpty || !text.all Char.isDigit || Framing.sizeBound ≤ n then none else some n

/-- The one size that all the values agree on, each of which may give several. -/
def agreedSize? (values : List FieldValue) : Option Nat := do
  let texts ← values.mapM FieldValue.text?
  let sizes ← (texts.flatMap (splitOn (· == ','))).mapM fun text => decimal? (trim text)
  match sizes with
  | [] => none
  | n :: rest => if rest.all (· == n) then some n else none

/-- The last of the codings is the one that frames the body. -/
def endsInChunks (values : List FieldValue) : Bool :=
  match values.getLast?.bind FieldValue.text? with
  | some text =>
    ((splitOn (· == ',') text).getLast?.map fun t => (trim t).map Char.toLower) ==
      some "chunked".toList
  | none => false

/-- The framing that the fields announce; none if they contradict themselves. -/
def announcedFraming? (h : ResponseHead) : Option Framing :=
  let codings := h.headers.values .transferEncoding
  let sizes := h.headers.values .contentLength
  if !codings.isEmpty then
    if h.isOld then none
    else if endsInChunks codings then some (.chunked .sizeStart 0)
    else some .untilClose
  else if sizes.isEmpty then some .untilClose
  else (agreedSize? sizes).bind fun n =>
    if n + 2 < Framing.sizeBound then some (Framing.ofSize n) else none

/-- Some responses have no body, whatever their fields say. -/
def hasNoBody (m : Method) (status : Nat) : Bool :=
  status = switchingProtocols || status = 204 || status = 304 || m = .head ||
    (m = .connect && 200 ≤ status && status ≤ 299)

/-- The framing of the response to a request. -/
def framing? (m : Method) (h : ResponseHead) : Option Framing :=
  if hasNoBody m h.status then some .ended else announcedFraming? h

end ScopeGateway.Http
