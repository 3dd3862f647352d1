import ScopeGateway.Text.Split

/-!
Tables of code points: rows between blanks, each of hexadecimal numbers with colons between them.
-/
namespace ScopeGateway.Text

def hexValue (digits : List Char) : Nat :=
  digits.foldl (fun n c => n * 16 + (if c.isDigit then c.toNat - 0x30 else c.toNat - 0x57)) 0

def tableRows (table : String) : List (List Nat) :=
  ((splitOn (fun c => c == ' ' || c == '\n') table.toList).filter (!·.isEmpty)).map fun row =>
    (splitOn (· == ':') row).map hexValue

/-- A stretch of code points, both ends included. -/
structure CodeRange where
  first : Nat
  last : Nat
deriving Repr

def CodeRange.contains (r : CodeRange) (n : Nat) : Bool := r.first ≤ n && n ≤ r.last

/-- A row of one number is a stretch of one code point. -/
def CodeRange.ofRow? : List Nat → Option CodeRange
  | [n] => some ⟨n, n⟩
  | [first, last] => some ⟨first, last⟩
  | _ => none

def codeRanges (table : String) : List CodeRange :=
  (tableRows table).filterMap CodeRange.ofRow?

end ScopeGateway.Text
