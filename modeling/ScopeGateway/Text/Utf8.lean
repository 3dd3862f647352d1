/-!
UTF-8: the byte form of text, and reading bytes back, strictly or with replacement characters.
-/
namespace ScopeGateway.Text.Utf8

abbrev Bytes := List UInt8

def encodeChar (c : Char) : Bytes :=
  let n := c.toNat
  if n < 0x80 then [UInt8.ofNat n]
  else if n < 0x800 then [UInt8.ofNat (0xC0 + n / 0x40), UInt8.ofNat (0x80 + n % 0x40)]
  else if n < 0x10000 then
    [UInt8.ofNat (0xE0 + n / 0x1000), UInt8.ofNat (0x80 + n / 0x40 % 0x40),
      UInt8.ofNat (0x80 + n % 0x40)]
  else
    [UInt8.ofNat (0xF0 + n / 0x40000), UInt8.ofNat (0x80 + n / 0x1000 % 0x40),
      UInt8.ofNat (0x80 + n / 0x40 % 0x40), UInt8.ofNat (0x80 + n % 0x40)]

def encode (text : List Char) : Bytes := text.flatMap encodeChar

def charSize (c : Char) : Nat :=
  if c.toNat < 0x80 then 1 else if c.toNat < 0x800 then 2 else if c.toNat < 0x10000 then 3 else 4

/-- The number of bytes that `encode` writes. -/
def size : List Char → Nat
  | [] => 0
  | c :: rest => charSize c + size rest

theorem length_encodeChar (c : Char) : (encodeChar c).length = charSize c := by
  simp only [encodeChar, charSize, apply_ite List.length]
  rfl

theorem length_encode (text : List Char) : (encode text).length = size text := by
  induction text with
  | nil => rfl
  | cons c rest ih =>
    rw [encode, List.flatMap_cons, List.length_append, length_encodeChar]
    exact congrArg (charSize c + ·) ih

/-- Where the second byte of a form may lie, by its first byte, and how many bytes follow. -/
structure Lead where
  tails : Nat
  low : Nat
  high : Nat
  bits : Nat

def lead? (b : Nat) : Option Lead :=
  if 0xC2 ≤ b ∧ b ≤ 0xDF then some ⟨1, 0x80, 0xBF, b - 0xC0⟩
  else if b = 0xE0 then some ⟨2, 0xA0, 0xBF, 0⟩
  else if b = 0xED then some ⟨2, 0x80, 0x9F, 0xD⟩
  else if 0xE1 ≤ b ∧ b ≤ 0xEF then some ⟨2, 0x80, 0xBF, b - 0xE0⟩
  else if b = 0xF0 then some ⟨3, 0x90, 0xBF, 0⟩
  else if 0xF1 ≤ b ∧ b ≤ 0xF3 then some ⟨3, 0x80, 0xBF, b - 0xF0⟩
  else if b = 0xF4 then some ⟨3, 0x80, 0x8F, 4⟩
  else none

def isTail (b : UInt8) : Bool := 0x80 ≤ b.toNat && b.toNat ≤ 0xBF

/-- The scalars that the bytes spell, with `none` for each longest piece that starts a form and
is not continued by it. -/
def pieces : Bytes → List (Option Char)
  | [] => []
  | b :: r =>
    if b.toNat < 0x80 then some (Char.ofNat b.toNat) :: pieces r
    else match lead? b.toNat with
      | none => none :: pieces r
      | some l =>
        match r with
        | [] => [none]
        | b₁ :: r₁ =>
          if l.low ≤ b₁.toNat ∧ b₁.toNat ≤ l.high then
            let n₁ := l.bits * 0x40 + (b₁.toNat - 0x80)
            if l.tails = 1 then some (Char.ofNat n₁) :: pieces r₁
            else match r₁ with
              | [] => [none]
              | b₂ :: r₂ =>
                if isTail b₂ then
                  let n₂ := n₁ * 0x40 + (b₂.toNat - 0x80)
                  if l.tails = 2 then some (Char.ofNat n₂) :: pieces r₂
                  else match r₂ with
                    | [] => [none]
                    | b₃ :: r₃ =>
                      if isTail b₃ then
                        some (Char.ofNat (n₂ * 0x40 + (b₃.toNat - 0x80))) :: pieces r₃
                      else none :: pieces (b₃ :: r₃)
                else none :: pieces (b₂ :: r₂)
          else none :: pieces (b₁ :: r₁)

/-- The bytes are the form of some text. -/
def isValid (bytes : Bytes) : Bool := (pieces bytes).all Option.isSome

/-- Each malformed piece reads as U+FFFD. -/
def decodeLossy (bytes : Bytes) : List Char := (pieces bytes).map (·.getD '\uFFFD')

/-- The text that the bytes spell, if they are well formed throughout. -/
def decode? (bytes : Bytes) : Option (List Char) := (pieces bytes).mapM id

end ScopeGateway.Text.Utf8
