import ScopeGateway.Text.Folding.Expansion
import ScopeGateway.Text.Folding.Image
import ScopeGateway.Text.Folding.Refusal

/-!
Folding of characters for domain names: case and compatibility variants go to one form, some
characters vanish, and some are refused. The tables follow the data for internationalized
names, with the German sharp s, the final sigma and the joiners left as they are.
-/
namespace ScopeGateway.Text

/-- What a character becomes; none if it is refused. -/
def foldChar? (c : Char) : Option (List Char) :=
  let n := c.toNat
  if n < 0x80 then some [c.toLower]
  else match foldImage? n with
    | some m => some [Char.ofNat m]
    | none =>
      match expansion? n with
      | some row => some (row.map Char.ofNat)
      | none =>
        if vanishes n then some []
        else if isRefused n then none
        else some [c]

/-- Folds every character; fails if one is refused. -/
def fold? (text : List Char) : Option (List Char) := (text.mapM foldChar?).map List.flatten

end ScopeGateway.Text
