import ScopeGateway.Form.Component
import ScopeGateway.Text.Split

/-!
Paths of URLs: escapes for what may not stand in them, and the dot segments resolved.
-/
namespace ScopeGateway.Url

open Text

/-- Writes the bytes of the characters that satisfy `p` as escapes. -/
def escapeIf (p : Char → Bool) (text : List Char) : List Char :=
  text.flatMap fun c => if p c then (Utf8.encodeChar c).flatMap Form.escape else [c]

def isControl (c : Char) : Bool := c.toNat < 0x20 || 0x7E < c.toNat

/-- Characters that a path holds only as escapes. -/
def escapedInPath (c : Char) : Bool :=
  isControl c || c == ' ' || c == '"' || c == '#' || c == '<' || c == '>' || c == '?' ||
    c == '\x60' || c == '\x7b' || c == '\x7d'

/-- Characters that a user's name or password holds only as escapes. -/
def escapedInUser (c : Char) : Bool :=
  escapedInPath c || "/:;=@[\\]^|".toList.contains c

/-- The segment with its escaped dots as dots. -/
def plainDots : List Char → List Char
  | '%' :: '2' :: e :: rest =>
    if e = 'e' ∨ e = 'E' then '.' :: plainDots rest else '%' :: '2' :: e :: plainDots rest
  | c :: rest => c :: plainDots rest
  | [] => []

def isSingleDot (segment : List Char) : Bool := plainDots segment == ['.']

def isDoubleDot (segment : List Char) : Bool := plainDots segment == ['.', '.']

/-- A letter with a colon or a bar after it. -/
def isDriveLetter : List Char → Bool
  | [c, d] => c.isAlpha && (d == ':' || d == '|')
  | _ => false

/-- Takes the last segment off, unless it names a drive. -/
def parent (segments : List (List Char)) : List (List Char) :=
  if segments.getLast?.any isDriveLetter then segments else segments.dropLast

/-- Goes on from the directory `around` along the segments. A path that ends in dots ends in a
slash. -/
def resolve (around : List (List Char)) : List (List Char) → List (List Char)
  | [] => around
  | [last] =>
    if isDoubleDot last then parent around ++ [[]]
    else if isSingleDot last then around ++ [[]]
    else around ++ [last]
  | segment :: rest =>
    if isDoubleDot segment then resolve (parent around) rest
    else if isSingleDot segment then resolve around rest
    else resolve (around ++ [segment]) rest

def isSlash (c : Char) : Bool := c == '/' || c == '\\'

/-- The path that a text with or without its first slash stands for. -/
def resolvedPath (text : List Char) : List Char :=
  let text := if text.head?.any isSlash then text.tail else text
  let segments := (splitOn isSlash text).map (escapeIf escapedInPath)
  '/' :: ['/'].intercalate (resolve [] segments)

end ScopeGateway.Url
