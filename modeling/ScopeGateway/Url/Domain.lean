import ScopeGateway.Text.Composition
import ScopeGateway.Text.Direction
import ScopeGateway.Text.Folding
import ScopeGateway.Text.Joining
import ScopeGateway.Text.Mark
import ScopeGateway.Url.Punycode

/-!
Domain names in ASCII: characters are folded and composed, and a label that still is not ASCII is
written in Punycode behind a marker.
-/
namespace ScopeGateway.Url

open Text

def marker : List Char := ['x', 'n', '-', '-']

/-- No label with characters outside ASCII has more characters than this. -/
def maxLabelSize : Nat := 1000

/-- No label is written in Punycode with more characters than this. -/
def maxPunycodeSize : Nat := 2000

/-- No mark comes first, joiners stand only where they have room, and there are not too many
characters. -/
def isLabel (label : List Char) : Bool :=
  !(label.head?.any isMark) && joinersFit [] label && label.length ≤ maxLabelSize

def compose (text : List Char) : List Char :=
  if text.all Punycode.isBasic then text else composed text

/-- A label that folding and composing do not change, with something in it that is not ASCII. -/
def isNormalLabel (label : List Char) : Bool :=
  fold? label == some label && compose label == label && !label.all Punycode.isBasic &&
    isLabel label

/-- A label as it is read, and as it is written in ASCII. -/
structure Label where
  text : List Char
  ascii : List Char
deriving DecidableEq, Repr

/-- One with the marker has to be the form of a normal label. -/
def Label.ofText? (text : List Char) : Option Label :=
  if marker.isPrefixOf text then
    let code := text.drop marker.length
    if maxPunycodeSize < code.length then none
    else ((Punycode.decode code).filter isNormalLabel).map (⟨·, text⟩)
  else if text.all Punycode.isBasic then some ⟨text, text⟩
  else if isLabel text then some ⟨text, marker ++ Punycode.encode text⟩
  else none

/-- In a name with something written from right to left, every label keeps its direction. -/
def directionsFit (labels : List Label) : Bool :=
  !(labels.any fun l => turns l.text) || labels.all fun l => keepsDirection l.text

/-- Characters that no domain name holds. -/
def isForbidden (c : Char) : Bool :=
  c.toNat ≤ 0x20 || c.toNat == 0x7F || "%#/:<>?@[\\]^|".toList.contains c

/-- The ASCII form of a domain name, if it has one. -/
def domainToAscii? (name : List Char) : Option (List Char) := do
  let labels ← (splitOn (· == '.') (compose (← fold? name))).mapM Label.ofText?
  let ascii := ['.'].intercalate (labels.map Label.ascii)
  if !directionsFit labels || ascii.any isForbidden then none else some ascii

end ScopeGateway.Url
