import ScopeGateway.Form.Component
import ScopeGateway.Net.Address
import ScopeGateway.Url.Domain
import ScopeGateway.Url.Error

/-!
Hosts: domain names and addresses, in the many ways in which they may be written.
-/
namespace ScopeGateway.Url

open Text Net

inductive Host where
  | domain (name : List Char)
  | address (ip : IpAddress)
deriving DecidableEq, Repr

/-- Addresses of version 6 stand in brackets. -/
def Host.render : Host → String
  | .domain name => String.ofList name
  | .address (.v4 octets) => dotted octets.toList
  | .address (.v6 groups) => "[" ++ compressed groups.toList ++ "]"

/-- A number in hexadecimal after `0x`, in octal after a zero, else in decimal. Nothing after `0x`
is zero. -/
def anyRadixNumber? (text : List Char) : Option Nat :=
  let read (radix : Nat) (ds : List Char) : Option Nat :=
    if ds.all fun c => (digit? radix c).isSome then
      some (ds.foldl (fun n d => n * radix + (digit? radix d).getD 0) 0)
    else none
  match text with
  | [] => none
  | '0' :: 'x' :: ds | '0' :: 'X' :: ds => read 16 ds
  | '0' :: d :: ds => read 8 (d :: ds)
  | ds => read 10 ds

/-- The pieces between dots, without an empty one at the end. -/
def dotPieces (name : List Char) : List (List Char) :=
  let pieces := splitOn (· == '.') name
  if pieces.getLast? = some [] then pieces.dropLast else pieces

/-- Such a name is no domain, whatever stands before its last piece. -/
def endsInNumber (name : List Char) : Bool :=
  match (dotPieces name).getLast? with
  | none | some [] => false
  | some last => last.all Char.isDigit || (anyRadixNumber? last).isSome

/-- Up to four numbers. The last one fills all the octets that the others leave. -/
def v4Address? (name : List Char) : Option (Vector UInt8 4) := do
  let numbers ← (dotPieces name).mapM anyRadixNumber?
  let last ← numbers.getLast?
  let front := numbers.dropLast
  if 4 < numbers.length || front.any (255 < ·) || Nat.pow 256 (4 - front.length) ≤ last then none
  else
    let n := (front.mapIdx fun i octet => octet * Nat.pow 256 (3 - i)).foldr (· + ·) last
    some (Vector.ofFn fun i => UInt8.ofNat (n / Nat.pow 256 (3 - i.val) % 256))

/-- What stands between brackets. -/
def bracketed? (text : List Char) : Option (List Char) :=
  match text.getLast? with
  | some ']' => some text.tail.dropLast
  | _ => none

def v6Host (text : List Char) : Except UrlError Host :=
  match (bracketed? text).bind fun inside => whole (v6Groups inside) with
  | some groups => .ok (.address (.v6 groups))
  | none => .error .invalidV6

def nameToAscii (text : List Char) : Except UrlError (List Char) :=
  match domainToAscii? (Utf8.decodeLossy (Form.percentDecode (Utf8.encode text))) with
  | some ascii => .ok ascii
  | none => .error .invalidDomainName

def Host.parse (text : List Char) : Except UrlError Host := do
  if text.head? = some '[' then v6Host text
  else
    let name ← nameToAscii text
    if name.isEmpty then .error .emptyHost
    else if endsInNumber name then
      match v4Address? name with
      | some octets => .ok (.address (.v4 octets))
      | none => .error .invalidV4
    else .ok (.domain name)

/-- Characters that end a host or have a meaning in a URL. -/
def isReserved (c : Char) : Bool :=
  c == '\x00' || c == ' ' || "#/:<>?@[\\]^|".toList.contains c

/-- A host of a scheme with no rules for names may be any text without reserved characters. -/
def checkOpaqueHost (text : List Char) : Except UrlError Unit :=
  if text.head? = some '[' then (v6Host text).map fun _ => ()
  else if text.any isReserved then .error .invalidDomainCharacter
  else .ok ()

end ScopeGateway.Url
