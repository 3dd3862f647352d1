import ScopeGateway.Gateway.Event
import ScopeGateway.Text.Quoted

/-!
Events as lines of a log.
-/
namespace ScopeGateway

open Text

namespace Detail

def json : Detail → String
  | text s => quoted s
  | number n => toString n

end Detail

namespace Event

def jsonFields (e : Event) : String :=
  ",".intercalate (("message", Detail.text e.message) :: e.details |>.map fun (name, d) =>
    quoted name ++ ":" ++ d.json)

def json (e : Event) : String :=
  "\x7b\"level\":" ++ quoted e.level.name ++ ",\"fields\":\x7b" ++ e.jsonFields ++ "\x7d\x7d"

def logLine (e : Event) : LogFormat → String
  | .pretty => e.level.name ++ " " ++ e.line
  | .json => e.json

end Event

end ScopeGateway
