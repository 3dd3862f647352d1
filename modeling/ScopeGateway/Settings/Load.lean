import ScopeGateway.Settings.Document
import ScopeGateway.Settings.Fault

/-!
Settings from a file, and the refusal of faulty ones.
-/
namespace ScopeGateway

inductive SettingsError where
  | unreadable
  | malformed
  | faulty (faults : List Fault)
deriving DecidableEq, Repr

/-- The text for faulty settings; nothing is fixed about the others. -/
def faultyMessage (faults : List Fault) : String :=
  "Validation failed: " ++ ", ".intercalate (faults.map Fault.message)

namespace Settings

def parse (document : String) : Except SettingsError Settings :=
  match parse? document with
  | some s => .ok s
  | none => .error .malformed

/-- The content of a file, if it exists, has to be well-formed text and then a document. -/
def load (content : Option Text.Utf8.Bytes) : Except SettingsError Settings :=
  match content.bind Text.Utf8.decode? with
  | some text => parse (String.ofList text)
  | none => .error .unreadable

/-- All faults are reported at once. -/
def check (s : Settings) : Except SettingsError Unit :=
  if s.faults.isEmpty then .ok () else .error (.faulty s.faults)

end Settings

end ScopeGateway
