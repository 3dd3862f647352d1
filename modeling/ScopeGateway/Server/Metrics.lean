import ScopeGateway.Gateway.Count
import ScopeGateway.Http.Wire
import ScopeGateway.Server.Socket

/-!
The counts of a gateway, kept and shown to whoever asks.
-/
namespace ScopeGateway.Server

open Std.Async

/-- How often each thing was counted. -/
abbrev Tally := List (Count × Nat)

def Tally.add (t : Tally) (c : Count) : Tally :=
  if t.any (·.1 = c) then t.map fun entry => if entry.1 = c then (c, entry.2 + 1) else entry
  else t ++ [(c, 1)]

/-- A line for each count. -/
def Tally.render (t : Tally) : String :=
  String.join (t.map fun (c, n) =>
    let series := match c with
      | .request method status =>
        "proxy_requests_total\x7bmethod=\"" ++ method.text ++ "\",status=\"" ++ toString status ++
          "\"\x7d"
      | .injection => "proxy_scope_injections_total"
    series ++ " " ++ toString n ++ "\n")

/-- Shows the tally to every caller, whatever is asked for. -/
partial def showTally (server : TCP.Socket.Server) (tally : IO.Ref Tally) : Async Unit := do
  let caller ← server.accept
  try
    let _ ← receive caller
    let body := Http.Wire.ascii (Tally.render (← tally.get))
    send caller (Http.Wire.answerHead 200 ⟨[⟨.contentType, .plainText⟩]⟩ (.sized body.length) ++ body)
    caller.shutdown
  catch _ => pure ()
  showTally server tally

end ScopeGateway.Server
