/-!
TOML values.
-/
namespace ScopeGateway.Toml

/-- Decimals and moments keep the text that they were written as. -/
inductive Value where
  | text (s : String)
  | integer (n : Int)
  | decimal (written : String)
  | boolean (b : Bool)
  | moment (written : String)
  | array (items : List Value)
  | table (entries : List (String × Value))
deriving Repr

namespace Value

def text? : Value → Option String
  | text s => some s
  | _ => none

def boolean? : Value → Option Bool
  | boolean b => some b
  | _ => none

/-- The integers that count something. -/
def count? : Value → Option Nat
  | integer n => if 0 ≤ n then some n.toNat else none
  | _ => none

/-- A table without entries or an array without items. -/
def isEmpty : Value → Bool
  | array items => items.isEmpty
  | table entries => entries.isEmpty
  | _ => false

/-- The name that a value chooses: a text, or the one entry of a table with nothing inside. -/
def choice? : Value → Option String
  | text s => some s
  | table [(name, inside)] => if inside.isEmpty then some name else none
  | _ => none

end Value

end ScopeGateway.Toml
