/-!
Spans of time, and their short written form.
-/
namespace ScopeGateway

/-- A span in whole nanoseconds. -/
structure Duration where
  nanos : Nat
deriving DecidableEq, Repr

namespace Duration

def ofMillis (n : Nat) : Duration := ⟨n * 1000000⟩

def ofSeconds (n : Nat) : Duration := ⟨n * 1000000000⟩

/-- The last `width` digits of a number, without the zeros at their end. -/
def fractionDigits (width n : Nat) : List Char :=
  let digits := Nat.toDigits 10 n
  ((List.replicate (width - digits.length) '0' ++ digits).reverse.dropWhile (· == '0')).reverse

/-- So many units of `10 ^ width` nanoseconds, in as few digits as say it exactly. -/
def renderIn (unit : String) (width nanos : Nat) : String :=
  let fraction := nanos % Nat.pow 10 width
  toString (nanos / Nat.pow 10 width) ++
    (if fraction = 0 then "" else "." ++ String.ofList (fractionDigits width fraction)) ++ unit

/-- In the largest unit that fits in once. -/
def render (d : Duration) : String :=
  if Nat.pow 10 9 ≤ d.nanos then renderIn "s" 9 d.nanos
  else if Nat.pow 10 6 ≤ d.nanos then renderIn "ms" 6 d.nanos
  else if Nat.pow 10 3 ≤ d.nanos then renderIn "µs" 3 d.nanos
  else renderIn "ns" 0 d.nanos

end Duration

end ScopeGateway
