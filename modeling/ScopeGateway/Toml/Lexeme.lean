import ScopeGateway.Toml.Value

/-!
The smallest parts of a TOML document: blanks, comments, keys, quoted texts, numbers and moments.
A reader takes a part off the front of the text and gives what is left, or fails.
-/
namespace ScopeGateway.Toml

abbrev Reader (α : Type) := List Char → Option (α × List Char)

def isSpace (c : Char) : Bool := c == ' ' || c == '\t'

def skipSpaces (cs : List Char) : List Char := cs.dropWhile isSpace

/-- A line ends with a line feed, which a carriage return may precede. -/
def newline? : List Char → Option (List Char)
  | '\n' :: r => some r
  | '\r' :: '\n' :: r => some r
  | _ => none

/-- Characters that may stand in a comment: no control character but the tab. -/
def isPrintable (c : Char) : Bool :=
  c == '\t' || (0x20 ≤ c.toNat && c.toNat ≤ 0x7E) || 0x80 ≤ c.toNat

def skipComment : List Char → List Char
  | '#' :: r => r.dropWhile isPrintable
  | cs => cs

/-- Spaces and a comment up to the end of the line or of the document. -/
def endOfLine? (cs : List Char) : Option (List Char) :=
  match skipComment (skipSpaces cs) with
  | [] => some []
  | r => newline? r

/-- Skips blanks, line ends and comments; fails inside a broken comment or line end. -/
def skipLines : Nat → List Char → Option (List Char)
  | 0, _ => none
  | fuel + 1, cs =>
    match skipSpaces cs with
    | '#' :: r => (newline? (r.dropWhile isPrintable)).bind (skipLines fuel)
    | '\n' :: r => skipLines fuel r
    | '\r' :: r => (newline? ('\r' :: r)).bind (skipLines fuel)
    | r => some r

def isBareKeyChar (c : Char) : Bool := c.isAlphanum || c == '-' || c == '_'

def hexDigit? (c : Char) : Option Nat :=
  if c.isDigit then some (c.toNat - '0'.toNat)
  else if 'a' ≤ c ∧ c ≤ 'f' then some (c.toNat - 'a'.toNat + 10)
  else if 'A' ≤ c ∧ c ≤ 'F' then some (c.toNat - 'A'.toNat + 10)
  else none

def isHexDigit (c : Char) : Bool := (hexDigit? c).isSome

def digitsValue (radix : Nat) (ds : List Char) : Nat :=
  ds.foldl (fun n d => n * radix + (hexDigit? d).getD 0) 0

/-- A scalar value written with a fixed number of hexadecimal digits. -/
def scalar (width : Nat) : Reader Char := fun cs =>
  let ds := cs.take width
  let n := digitsValue 16 ds
  if ds.length = width && ds.all isHexDigit && (n < 0xD800 || (0xDFFF < n && n < 0x110000)) then
    some (Char.ofNat n, cs.drop width)
  else none

/-- What follows a backslash. -/
def escaped : Reader Char
  | 'b' :: r => some ('\x08', r)
  | 't' :: r => some ('\t', r)
  | 'n' :: r => some ('\n', r)
  | 'f' :: r => some ('\x0c', r)
  | 'r' :: r => some ('\r', r)
  | '"' :: r => some ('"', r)
  | '\\' :: r => some ('\\', r)
  | 'u' :: r => scalar 4 r
  | 'U' :: r => scalar 8 r
  | _ => none

/-- The rest of a text in double quotes, on one line. -/
def quotedRest : Nat → Reader (List Char)
  | 0, _ => none
  | _ + 1, [] => none
  | _ + 1, '"' :: r => some ([], r)
  | fuel + 1, '\\' :: r => do
    let (c, r) ← escaped r
    let (cs, r) ← quotedRest fuel r
    return (c :: cs, r)
  | fuel + 1, c :: r =>
    if isPrintable c then (quotedRest fuel r).map fun (cs, r) => (c :: cs, r) else none

/-- The rest of a text in single quotes, on one line. -/
def literalRest (cs : List Char) : Option (List Char × List Char) :=
  let isContent c := c != '\'' && isPrintable c
  match cs.dropWhile isContent with
  | '\'' :: r => some (cs.takeWhile isContent, r)
  | _ => none

/-- A run of three to five quotes ends a text of several lines; those beyond three belong to it. -/
def closing? (quote : Char) (cs : List Char) : Option (List Char × List Char) :=
  let run := (cs.takeWhile (· == quote)).length
  if run < 3 then none
  else
    let kept := min (run - 3) 2
    some (List.replicate kept quote, cs.drop (kept + 3))

def skipBlankLines : Nat → List Char → Option (List Char)
  | 0, _ => none
  | fuel + 1, cs =>
    match newline? (skipSpaces cs) with
    | some r => skipBlankLines fuel r
    | none => some (skipSpaces cs)

/-- A backslash at the end of a line hides the line end and all blanks after it. -/
def joinLines? (fuel : Nat) (cs : List Char) : Option (List Char) := do
  let r ← newline? (skipSpaces cs)
  skipBlankLines fuel r

/-- The rest of a text in three double quotes. -/
def quotedLinesRest : Nat → Reader (List Char)
  | 0, _ => none
  | fuel + 1, cs =>
    match closing? '"' cs with
    | some closed => some closed
    | none =>
      match cs with
      | [] => none
      | '\\' :: r =>
        match joinLines? (fuel + 1) r with
        | some r => quotedLinesRest fuel r
        | none => do
          let (c, r) ← escaped r
          let (cs, r) ← quotedLinesRest fuel r
          return (c :: cs, r)
      | c :: r =>
        match newline? (c :: r) with
        | some r => (quotedLinesRest fuel r).map fun (cs, r) => ('\n' :: cs, r)
        | none =>
          if isPrintable c then (quotedLinesRest fuel r).map fun (cs, r) => (c :: cs, r)
          else none

/-- The rest of a text in three single quotes. -/
def literalLinesRest : Nat → Reader (List Char)
  | 0, _ => none
  | fuel + 1, cs =>
    match closing? '\'' cs with
    | some closed => some closed
    | none =>
      match cs with
      | [] => none
      | c :: r =>
        match newline? (c :: r) with
        | some r => (literalLinesRest fuel r).map fun (cs, r) => ('\n' :: cs, r)
        | none =>
          if isPrintable c then (literalLinesRest fuel r).map fun (cs, r) => (c :: cs, r)
          else none

def lineText : Reader String
  | '"' :: r => (quotedRest (r.length + 1) r).map fun (cs, r) => (String.ofList cs, r)
  | '\'' :: r => (literalRest r).map fun (cs, r) => (String.ofList cs, r)
  | _ => none

/-- A line end right after the opening quotes is not part of the text. -/
def quotedText : Reader String
  | '"' :: '"' :: '"' :: r =>
    let r := (newline? r).getD r
    (quotedLinesRest (r.length + 1) r).map fun (cs, r) => (String.ofList cs, r)
  | '\'' :: '\'' :: '\'' :: r =>
    let r := (newline? r).getD r
    (literalLinesRest (r.length + 1) r).map fun (cs, r) => (String.ofList cs, r)
  | cs => lineText cs

def simpleKey : Reader String := fun cs =>
  match cs with
  | '"' :: _ => lineText cs
  | '\'' :: _ => lineText cs
  | _ =>
    let name := cs.takeWhile isBareKeyChar
    if name.isEmpty then none else some (String.ofList name, cs.dropWhile isBareKeyChar)

/-- Simple keys with spaces around them, joined by dots. -/
def keyParts : Nat → Reader (List String)
  | 0, _ => none
  | fuel + 1, cs => do
    let (name, r) ← simpleKey (skipSpaces cs)
    match skipSpaces r with
    | '.' :: r => do
      let (names, r) ← keyParts fuel r
      return (name :: names, r)
    | r => return ([name], r)

/-- Neither keys nor nested values reach this depth. -/
def maxDepth : Nat := 80

def key : Reader (List String) := fun cs => keyParts (maxDepth - 1) cs

/-- Digits with single underscores between them. -/
def digitRun (isDigit : Char → Bool) : List Char → List Char × List Char
  | [] => ([], [])
  | '_' :: r =>
    match r with
    | d :: _ =>
      if isDigit d then let (ds, r) := digitRun isDigit r; (ds, r) else ([], '_' :: r)
    | [] => ([], ['_'])
  | c :: r => if isDigit c then let (ds, r) := digitRun isDigit r; (c :: ds, r) else ([], c :: r)

/-- At least one digit, the first not preceded by an underscore. -/
def digits (isDigit : Char → Bool) : Reader (List Char)
  | c :: r => if isDigit c then some (digitRun isDigit (c :: r)) else none
  | [] => none

def sign : List Char → Bool × List Char
  | '-' :: r => (true, r)
  | '+' :: r => (false, r)
  | cs => (false, cs)

/-- Decimal digits; a zero that comes first stands alone. -/
def wholeDigits : Reader (List Char)
  | '0' :: r => some (['0'], r)
  | cs => digits Char.isDigit cs

/-- The part after a decimal point. -/
def fraction : Reader (List Char)
  | '.' :: r => digits Char.isDigit r
  | _ => none

def exponent : Reader Int
  | c :: r =>
    if c = 'e' ∨ c = 'E' then do
      let (negative, r) := sign r
      let (ds, r) ← digits Char.isDigit r
      let n : Int := digitsValue 10 ds
      return (if negative then -n else n, r)
    else none
  | [] => none

/-- The least number that no binary floating-point number of 64 bits is near enough to. -/
def overflowBound : Nat := Nat.pow 2 1024 - Nat.pow 2 970

/-- The digits as a whole number, times that power of ten, lie below the bound. -/
def isFinite (ds : List Char) (power : Int) : Bool :=
  let n := digitsValue 10 ds
  let width : Int := (ds.dropWhile (· == '0')).length
  if n = 0 ∨ width + power ≤ 308 then true
  else if 310 < width + power then false
  else if 0 ≤ power then n * Nat.pow 10 power.toNat < overflowBound
  else n < overflowBound * Nat.pow 10 (-power).toNat

def specialDecimal (cs : List Char) : Option (List Char) :=
  match (sign cs).2 with
  | 'i' :: 'n' :: 'f' :: r => some r
  | 'n' :: 'a' :: 'n' :: r => some r
  | _ => none

/-- A number with a fraction or an exponent. One too large to represent is refused, unless it is
negative. -/
def decimalRest? (cs : List Char) : Option (List Char) :=
  let (negative, r) := sign cs
  do
    let (whole, r) ← wholeDigits r
    let (part, power, r) ←
      match fraction r with
      | some (part, r) =>
        match exponent r with
        | some (power, r) => some (part, power, r)
        | none => some (part, (0 : Int), r)
      | none => (exponent r).map fun (power, r) => ([], power, r)
    if negative || isFinite (whole ++ part) (power - part.length) then some r else none

/-- The written form of what was read. -/
def taken (cs rest : List Char) : String := String.ofList (cs.take (cs.length - rest.length))

def decimal : Reader Value := fun cs =>
  ((decimalRest? cs).or (specialDecimal cs)).map fun r => (.decimal (taken cs r), r)

def fits (n : Int) : Bool := -Int.pow 2 63 ≤ n && n < Int.pow 2 63

def radixInteger (radix : Nat) (isDigit : Char → Bool) : Reader Value := fun cs => do
  let (ds, r) ← digits isDigit cs
  let n : Int := digitsValue radix ds
  if fits n then some (.integer n, r) else none

def integer : Reader Value
  | '0' :: 'x' :: r => radixInteger 16 isHexDigit r
  | '0' :: 'o' :: r => radixInteger 8 (fun c => '0' ≤ c && c ≤ '7') r
  | '0' :: 'b' :: r => radixInteger 2 (fun c => c == '0' || c == '1') r
  | cs => do
    let (negative, r) := sign cs
    let (ds, r) ← wholeDigits r
    let n : Int := digitsValue 10 ds
    let n := if negative then -n else n
    if fits n then some (.integer n, r) else none

/-- A decimal number of exactly so many digits, within bounds. -/
def fixedNumber (width low high : Nat) : Reader Nat := fun cs =>
  let ds := cs.take width
  let n := digitsValue 10 ds
  if ds.length = width && ds.all Char.isDigit && low ≤ n && n ≤ high then some (n, cs.drop width)
  else none

def literally (c : Char) : Reader Unit
  | d :: r => if c = d then some ((), r) else none
  | [] => none

def daysIn (year month : Nat) : Nat :=
  if month = 2 then
    if year % 4 = 0 ∧ (year % 100 ≠ 0 ∨ year % 400 = 0) then 29 else 28
  else if month = 4 ∨ month = 6 ∨ month = 9 ∨ month = 11 then 30 else 31

def skipDate (cs : List Char) : Option (List Char) := do
  let (year, r) ← fixedNumber 4 0 9999 cs
  let (_, r) ← literally '-' r
  let (month, r) ← fixedNumber 2 1 12 r
  let (_, r) ← literally '-' r
  let (_, r) ← fixedNumber 2 1 (daysIn year month) r
  return r

def skipTime (cs : List Char) : Option (List Char) := do
  let (_, r) ← fixedNumber 2 0 23 cs
  let (_, r) ← literally ':' r
  let (_, r) ← fixedNumber 2 0 59 r
  let (_, r) ← literally ':' r
  let (_, r) ← fixedNumber 2 0 60 r
  match r with
  | '.' :: d :: r => if d.isDigit then return r.dropWhile Char.isDigit else none
  | '.' :: [] => none
  | r => return r

def skipOffset (cs : List Char) : Option (List Char) :=
  match cs with
  | c :: r =>
    if c = 'Z' ∨ c = 'z' then some r
    else if c = '+' ∨ c = '-' then do
      let (_, r) ← fixedNumber 2 0 23 r
      let (_, r) ← literally ':' r
      let (_, r) ← fixedNumber 2 0 59 r
      return r
    else some cs
  | [] => some cs

/-- A date, a time, or both with or without an offset from universal time. -/
def moment : Reader Value := fun cs =>
  let rest :=
    match skipDate cs with
    | some r =>
      match r with
      | c :: r' =>
        if c = 'T' ∨ c = 't' ∨ c = ' ' then
          match skipTime r' with
          | some r'' => skipOffset r''
          | none => some r
        else some r
      | [] => some r
    | none => skipTime cs
  rest.map fun r => (.moment (taken cs r), r)

def number : Reader Value := fun cs => (moment cs).or ((decimal cs).or (integer cs))

def word (written : String) (v : Value) : Reader Value := fun cs =>
  if written.toList.isPrefixOf cs then some (v, cs.drop written.toList.length) else none

/-- A value that holds no other values. -/
def scalarValue : Reader Value := fun cs =>
  match cs with
  | '"' :: _ | '\'' :: _ => (quotedText cs).map fun (s, r) => (.text s, r)
  | 't' :: _ => word "true" (.boolean true) cs
  | 'f' :: _ => word "false" (.boolean false) cs
  | _ => number cs

end ScopeGateway.Toml
