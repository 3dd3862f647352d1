/-!
Punycode: a label of a domain name written with ASCII letters, digits and hyphens only.
-/
namespace ScopeGateway.Url.Punycode

def digitChar (d : Nat) : Char := Char.ofNat (if d < 26 then 0x61 + d else 0x16 + d)

def digit? (c : Char) : Option Nat :=
  if 'a' ≤ c ∧ c ≤ 'z' then some (c.toNat - 0x61)
  else if 'A' ≤ c ∧ c ≤ 'Z' then some (c.toNat - 0x41)
  else if c.isDigit then some (c.toNat - 0x16)
  else none

def threshold (k bias : Nat) : Nat := min 26 (max 1 (k - bias))

theorem one_le_threshold (k bias : Nat) : 1 ≤ threshold k bias := by
  unfold threshold; omega

/-- Divides by 35 until 455 is reached, counting 36 for each division. -/
def shrink (delta k : Nat) : Nat :=
  if 455 < delta then shrink (delta / 35) (k + 36) else k + 36 * delta / (delta + 38)
termination_by delta
decreasing_by omega

/-- The bias after a delta has been dealt with, when the text has `count` characters. -/
def adapt (delta count : Nat) (isFirst : Bool) : Nat :=
  let delta := if isFirst then delta / 700 else delta / 2
  shrink (delta + delta / count) 0

/-- A number in digits whose weights depend on the bias, the least first. -/
def encodeNumber (bias k q : Nat) : List Char :=
  let t := threshold k bias
  if q < t then [digitChar q]
  else digitChar (t + (q - t) % (36 - t)) :: encodeNumber bias (k + 36) ((q - t) / (36 - t))
termination_by q
decreasing_by
  have h₁ := one_le_threshold k bias
  exact Nat.lt_of_le_of_lt (Nat.div_le_self _ _) (by omega)

structure Encoder where
  delta : Nat
  bias : Nat
  count : Nat
  isFirst : Bool
  written : List Char

/-- A character below the one in turn is passed; the one in turn is written. -/
def Encoder.step (turn : Nat) (e : Encoder) (c : Char) : Encoder :=
  if c.toNat < turn then { e with delta := e.delta + 1 }
  else if c.toNat = turn then
    { delta := 0, bias := adapt e.delta (e.count + 1) e.isFirst, count := e.count + 1,
      isFirst := false, written := e.written ++ encodeNumber e.bias 36 e.delta }
  else e

/-- Writes the occurrences of each of some increasing code points. -/
def Encoder.run (text : List Char) : List Nat → Nat → Encoder → Encoder
  | [], _, e => e
  | turn :: rest, next, e =>
    let e := text.foldl (Encoder.step turn)
      { e with delta := e.delta + (turn - next) * (e.count + 1) }
    Encoder.run text rest (turn + 1) { e with delta := e.delta + 1 }

def isBasic (c : Char) : Bool := c.toNat < 0x80

def encode (text : List Char) : List Char :=
  let basic := text.filter isBasic
  let turns := ((text.filter (!isBasic ·)).map Char.toNat).mergeSort.eraseDups
  let e := Encoder.run text turns 0x80 ⟨0, 72, basic.length, true, []⟩
  basic ++ (if basic.isEmpty then [] else ['-']) ++ e.written

/-- No number and no weight of a digit reaches this bound. -/
def numberBound : Nat := Nat.pow 2 32

/-- A number, and the characters after its digits. -/
def decodeNumber (bias : Nat) : Nat → Nat → Nat → List Char → Option (Nat × List Char)
  | _, _, _, [] => none
  | k, weight, n, c :: r => do
    let d ← digit? c
    let n := n + d * weight
    let t := threshold k bias
    if numberBound ≤ n then none
    else if d < t then some (n, r)
    else if numberBound ≤ weight * (36 - t) then none
    else decodeNumber bias (k + 36) (weight * (36 - t)) n r

def scalar? (n : Nat) : Option Char :=
  if n < 0xD800 ∨ (0xDFFF < n ∧ n < 0x110000) then some (Char.ofNat n) else none

/-- Inserts a character for each number that follows. -/
def decodeRest : Nat → Nat → Nat → Nat → List Char → List Char → Option (List Char)
  | _, _, _, _, text, [] => some text
  | 0, _, _, _, _, _ :: _ => none
  | fuel + 1, code, place, bias, text, cs => do
    let (n, r) ← decodeNumber bias 36 1 0 cs
    let places := text.length + 1
    let bias := adapt n places (place == 0)
    let code := code + (place + n) / places
    let place := (place + n) % places
    let c ← scalar? code
    decodeRest fuel code (place + 1) bias (text.take place ++ c :: text.drop place) r

/-- The text before the last hyphen, and what follows it; all follows if no text is before it. -/
def splitBasic (cs : List Char) : List Char × List Char :=
  match cs.reverse.dropWhile (· != '-') with
  | [] | [_] => ([], cs)
  | _ :: before => (before.reverse, (cs.reverse.takeWhile (· != '-')).reverse)

def decode (cs : List Char) : Option (List Char) :=
  let (basic, rest) := splitBasic cs
  if basic.all isBasic then decodeRest rest.length 0x80 0 72 basic rest else none

end ScopeGateway.Url.Punycode
