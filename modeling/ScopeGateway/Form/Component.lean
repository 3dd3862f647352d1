import ScopeGateway.Text.Utf8

/-!
Percent escapes, and the form encoding of a name or value: blanks as `+`, a small alphabet
literally, every other byte as an escape.
-/
namespace ScopeGateway.Form

open Text.Utf8 (Bytes)

def hexDigit? (b : UInt8) : Option Nat :=
  let n := b.toNat
  if 0x30 ≤ n ∧ n ≤ 0x39 then some (n - 0x30)
  else if 0x41 ≤ n ∧ n ≤ 0x46 then some (n - 0x37)
  else if 0x61 ≤ n ∧ n ≤ 0x66 then some (n - 0x57)
  else none

/-- Each escape becomes its byte; a percent sign that starts none stands for itself. -/
def percentDecode : Bytes → Bytes
  | [] => []
  | b :: r =>
    if b = 0x25 then
      match r with
      | h :: l :: r' =>
        match hexDigit? h, hexDigit? l with
        | some x, some y => UInt8.ofNat (x * 16 + y) :: percentDecode r'
        | _, _ => b :: percentDecode (h :: l :: r')
      | [l] => [b, l]
      | [] => [b]
    else b :: percentDecode r

def hexUpper (n : Nat) : Char := Char.ofNat (if n < 10 then 0x30 + n else 0x37 + n)

def escape (b : UInt8) : List Char := ['%', hexUpper (b.toNat / 16), hexUpper (b.toNat % 16)]

/-- Letters, digits and `*-._` need no escape in a form. -/
def isLiteral (b : UInt8) : Bool :=
  let n := b.toNat
  (0x30 ≤ n && n ≤ 0x39) || (0x41 ≤ n && n ≤ 0x5A) || (0x61 ≤ n && n ≤ 0x7A) ||
    n == 0x2A || n == 0x2D || n == 0x2E || n == 0x5F

def encodeByte (b : UInt8) : List Char :=
  if b = 0x20 then ['+'] else if isLiteral b then [Char.ofNat b.toNat] else escape b

def encode (bytes : Bytes) : List Char := bytes.flatMap encodeByte

/-- A plus sign stands for a blank, and the escapes are read after that. -/
def decode (bytes : Bytes) : Bytes :=
  percentDecode (bytes.map fun b => if b = 0x2B then 0x20 else b)

end ScopeGateway.Form
