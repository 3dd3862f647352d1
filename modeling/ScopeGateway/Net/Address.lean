/-!
Internet addresses, and addresses with the number of a service: reading and writing them.
-/
namespace ScopeGateway.Net

inductive IpAddress where
  | v4 (octets : Vector UInt8 4)
  | v6 (groups : Vector UInt16 8)
deriving DecidableEq, Repr

/-- An address to listen on or to hear from. Only version 6 has zones. -/
structure SocketAddress where
  ip : IpAddress
  service : UInt16
  zone : UInt32 := 0
deriving DecidableEq, Repr

abbrev Reader (α : Type) := List Char → Option (α × List Char)

def digit? (radix : Nat) (c : Char) : Option Nat :=
  let n :=
    if c.isDigit then c.toNat - '0'.toNat
    else if 'a' ≤ c ∧ c ≤ 'f' then c.toNat - 'a'.toNat + 10
    else if 'A' ≤ c ∧ c ≤ 'F' then c.toNat - 'A'.toNat + 10
    else radix
  if n < radix then some n else none

/-- A number below the bound, with all the digits that stand here, of which there is one at least
and `width` at most. -/
def number (radix bound : Nat) (width : Option Nat) : Reader Nat := fun cs =>
  let ds := cs.takeWhile fun c => (digit? radix c).isSome
  let n := ds.foldl (fun n d => n * radix + (digit? radix d).getD 0) 0
  if ds.isEmpty || width.any (· < ds.length) || bound ≤ n then none else some (n, cs.drop ds.length)

/-- A decimal number up to 255 without needless zeros before it. -/
def octet : Reader UInt8
  | '0' :: d :: r => if d.isDigit then none else some (0, d :: r)
  | cs => (number 10 256 (some 3) cs).map fun (n, r) => (UInt8.ofNat n, r)

def afterDot (cs : List Char) : Option (List Char) :=
  match cs with
  | '.' :: r => some r
  | _ => none

def octets : Reader (Vector UInt8 4) := fun cs => do
  let (a, r) ← octet cs
  let (b, r) ← octet (← afterDot r)
  let (c, r) ← octet (← afterDot r)
  let (d, r) ← octet (← afterDot r)
  return (#v[a, b, c, d], r)

def pair (high low : UInt8) : UInt16 := UInt16.ofNat (high.toNat * 256 + low.toNat)

/-- Groups with colons between them, `room` at most. Four octets may stand for the last two. The
flag says that they do. -/
def groups : Nat → Bool → List Char → List UInt16 × Bool × List Char
  | 0, _, cs => ([], false, cs)
  | room + 1, isFirst, cs =>
    let start :=
      if isFirst then some cs
      else match cs with
        | ':' :: r => some r
        | _ => none
    match start with
    | none => ([], false, cs)
    | some r =>
      match if room = 0 then none else octets r with
      | some (o, r) => ([pair o[0] o[1], pair o[2] o[3]], true, r)
      | none =>
        match number 16 65536 (some 4) r with
        | none => ([], false, cs)
        | some (g, r) =>
          let (gs, isMixed, r) := groups room false r
          (UInt16.ofNat g :: gs, isMixed, r)

def ofGroups (gs : List UInt16) : Vector UInt16 8 := Vector.ofFn fun i => gs.getD i 0

/-- Two colons stand for the zero groups that are missing, one at least. -/
def v6Groups : Reader (Vector UInt16 8) := fun cs =>
  let (front, isMixed, r) := groups 8 true cs
  if front.length = 8 then some (ofGroups front, r)
  else if isMixed then none
  else match r with
    | ':' :: ':' :: r =>
      let (back, _, r) := groups (7 - front.length) true r
      some (ofGroups (front ++ List.replicate (8 - front.length - back.length) 0 ++ back), r)
    | _ => none

def whole {α : Type} : Option (α × List Char) → Option α
  | some (a, []) => some a
  | _ => none

def IpAddress.parse (text : String) : Option IpAddress :=
  match octets text.toList with
  | some (o, r) => whole (some (.v4 o, r))
  | none => whole ((v6Groups text.toList).map fun (g, r) => (.v6 g, r))

def service : Reader UInt16
  | ':' :: r => (number 10 65536 none r).map fun (n, r) => (UInt16.ofNat n, r)
  | _ => none

def zone : Reader UInt32
  | '%' :: r => (number 10 4294967296 none r).map fun (n, r) => (UInt32.ofNat n, r)
  | r => some (0, r)

def v4Socket : Reader SocketAddress := fun cs => do
  let (o, r) ← octets cs
  let (n, r) ← service r
  return (⟨.v4 o, n, 0⟩, r)

def v6Socket : Reader SocketAddress
  | '[' :: r => do
    let (g, r) ← v6Groups r
    let (z, r) ← zone r
    match r with
    | ']' :: r =>
      let (n, r) ← service r
      return (⟨.v6 g, n, z⟩, r)
    | _ => none
  | _ => none

def SocketAddress.parse (text : String) : Option SocketAddress :=
  match v4Socket text.toList with
  | some read => whole (some read)
  | none => whole (v6Socket text.toList)

def hex (n : Nat) : String := String.ofList (Nat.toDigits 16 n)

def zerosAt (gs : List UInt16) (i : Nat) : Nat := ((gs.drop i).takeWhile (· == 0)).length

/-- The start and length of the first longest run of zeros, if it is longer than one. -/
def longestZeros? (gs : List UInt16) : Option (Nat × Nat) :=
  let best := (List.range gs.length).foldl
    (fun best i => if best.2 < zerosAt gs i then (i, zerosAt gs i) else best) (0, 0)
  if 1 < best.2 then some best else none

def joinGroups (gs : List UInt16) : String := ":".intercalate (gs.map fun g => hex g.toNat)

/-- Groups in lower-case hexadecimal, with two colons for the longest run of zeros. -/
def compressed (gs : List UInt16) : String :=
  match longestZeros? gs with
  | some (i, n) => joinGroups (gs.take i) ++ "::" ++ joinGroups (gs.drop (i + n))
  | none => joinGroups gs

def dotted (octets : List UInt8) : String := ".".intercalate (octets.map fun o => toString o.toNat)

/-- An address of version 4 inside version 6 keeps its octets. -/
def IpAddress.render : IpAddress → String
  | .v4 o => dotted o.toList
  | .v6 g =>
    let gs := g.toList
    if gs.take 6 = [0, 0, 0, 0, 0, 0xFFFF] then
      "::ffff:" ++ dotted ((gs.drop 6).flatMap fun g => [UInt8.ofNat (g.toNat / 256),
        UInt8.ofNat (g.toNat % 256)])
    else compressed gs

def SocketAddress.render (a : SocketAddress) : String :=
  let ip :=
    match a.ip with
    | .v4 _ => a.ip.render
    | .v6 _ =>
      "[" ++ a.ip.render ++ (if a.zone = 0 then "" else "%" ++ toString a.zone.toNat) ++ "]"
  ip ++ ":" ++ toString a.service.toNat

def isSocketAddress (text : String) : Bool := (SocketAddress.parse text).isSome

end ScopeGateway.Net
