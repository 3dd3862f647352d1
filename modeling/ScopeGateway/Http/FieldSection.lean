import ScopeGateway.Http.Headers

/-!
The fields of a message, read byte by byte as they arrive, up to the empty line that ends them.
-/
namespace ScopeGateway.Http

open Text.Utf8 (Bytes)

/-- What the next byte of a field section belongs to. A name that ends in `Return` waits for the
line feed after a carriage return. -/
inductive FieldPhase where
  | start
  | endReturn
  | name
  | valueStart
  | value
  | valueReturn
  | done
deriving DecidableEq, Repr

/-- A field section up to some byte of it. -/
structure FieldReader where
  phase : FieldPhase := .start
  headers : Headers := {}
  name : Bytes := []
  value : Bytes := []
deriving DecidableEq

/-- No message has more fields than this. -/
def maxFields : Nat := 100

def isBlankByte (b : UInt8) : Bool := b == 0x20 || b == 9

def trimBlanksAtEnd (bytes : Bytes) : Bytes := (bytes.reverse.dropWhile isBlankByte).reverse

/-- A byte where a line may end: a carriage return, a line feed, or another one. -/
def atLineEnd {α : Type} (b : UInt8) (onReturn onFeed other : Option α) : Option α :=
  if b = 0x0D then onReturn else if b = 0x0A then onFeed else other

def expect {α : Type} (b c : UInt8) (next : α) : Option α := if b = c then some next else none

namespace FieldReader

def goTo (r : FieldReader) (phase : FieldPhase) : FieldReader := { r with phase }

/-- Adds the field that has just been read. Blanks at the end of its value do not count. -/
def endField (r : FieldReader) : Option FieldReader := do
  let name ← FieldName.ofBytes? r.name
  let value ← FieldValue.ofBytes? (trimBlanksAtEnd r.value)
  if r.headers.fields.length < maxFields then
    some { headers := r.headers.append ⟨name, value⟩ }
  else none

def isNameByte (b : UInt8) : Bool := (FieldName.ofBytes? [b]).isSome

/-- Takes the next byte; fails where no section goes on with it. -/
def step (r : FieldReader) (b : UInt8) : Option FieldReader :=
  match r.phase with
  | .start =>
    atLineEnd b (some (r.goTo .endReturn)) (some (r.goTo .done))
      (if isNameByte b then some { r with phase := .name, name := [b] } else none)
  | .endReturn => expect b 0x0A (r.goTo .done)
  | .name =>
    if b = 0x3A then some { r with phase := .valueStart, value := [] }
    else if isNameByte b then some { r with name := r.name ++ [b] }
    else none
  | .valueStart =>
    atLineEnd b (some (r.goTo .valueReturn)) r.endField
      (if isBlankByte b then some r
      else if isValueByte b then some { r with phase := .value, value := [b] }
      else none)
  | .value =>
    atLineEnd b (some (r.goTo .valueReturn)) r.endField
      (if isValueByte b then some { r with value := r.value ++ [b] } else none)
  | .valueReturn => if b = 0x0A then r.endField else none
  | .done => none

end FieldReader

end ScopeGateway.Http
