import ScopeGateway.Form.Component
import ScopeGateway.Text.Blank

/-!
Queries as lists of named values.
-/
namespace ScopeGateway.Form

open Text
open Text.Utf8 (Bytes)

structure Param where
  name : String
  value : String
deriving DecidableEq, Repr

def rawBytes (text : String) : Bytes := Utf8.encode text.toList

/-- The text that a component stands for; malformed bytes read as U+FFFD. -/
def componentText (bytes : Bytes) : String := String.ofList (Utf8.decodeLossy (decode bytes))

/-- A piece without an equals sign names a parameter with the empty value. -/
def Param.ofPiece (piece : Bytes) : Param :=
  let (name, value) := cut (· == 0x3D) piece
  ⟨componentText name, componentText (value.getD [])⟩

/-- The parameters between the ampersands; empty pieces name none. -/
def parse (query : String) : List Param :=
  ((splitOn (· == 0x26) (rawBytes query)).filter (!·.isEmpty)).map Param.ofPiece

def Param.form (p : Param) : List Char :=
  encode (rawBytes p.name) ++ '=' :: encode (rawBytes p.value)

/-- Every parameter as name, equals sign and value, joined by ampersands. -/
def render (params : List Param) : String :=
  String.ofList (['&'].intercalate (params.map Param.form))

/-- Every part between ampersands, before and after its first equals sign, percent-decodes to
well-formed text. -/
def isLossless (query : String) : Bool :=
  (splitOn (· == 0x26) (rawBytes query)).all fun piece =>
    let (name, value) := cut (· == 0x3D) piece
    Utf8.isValid (percentDecode name) && Utf8.isValid (percentDecode (value.getD []))

end ScopeGateway.Form
