import ScopeGateway.Gateway.Exchange

/-!
Runs of a gateway: one caller after another, until it is asked to stop.
-/
namespace ScopeGateway

open Http

/-- The network between callers and the gateway. When it is down, every connection is refused. -/
inductive Link where
  | up
  | down
deriving DecidableEq, Repr

/-- What happens next: a request comes, something that is no request comes, or the gateway is asked
to stop. -/
inductive Arrival where
  | exchange (e : Exchange)
  | garbage
  | stop
deriving DecidableEq

inductive Seen where
  | nothing
  | refusal
  | answer (a : Answer)
deriving DecidableEq

/-- What an arrival leads to. The end of a tunnel comes at a time of its own. -/
structure Report where
  seen : Seen
  sent : Option Request := none
  events : List Event := []
  tunnelEnd : Option Event := none
  counts : List Count := []
deriving DecidableEq

/-- What is logged when a gateway stops without a request in flight. -/
def stopEvents : List Event := [.draining, .stopped]

namespace Gateway

def refusal : Report := { seen := .refusal }

/-- What is no request is refused before it reaches any route. -/
def badRequest : Report := { seen := .answer ⟨400, {}, ⟨[], true⟩, none⟩ }

/-- The report of a handled exchange, and whether the gateway was asked to stop meanwhile. -/
def serve (g : Gateway) (e : Exchange) : Bool × Report :=
  let h := g.handle e
  (h.stop ≠ .never,
    { seen := .answer h.answer, sent := h.sent, events := h.events, tunnelEnd := h.tunnelEnd
      counts := h.counts })

/-- One arrival, where the flag says that the gateway has been asked to stop. After that, and
without a link, nobody gets through. -/
def step (g : Gateway) (link : Link) (isStopping : Bool) (a : Arrival) : Bool × Report :=
  match a with
  | .stop => (true, { seen := .nothing, events := if isStopping then [] else stopEvents })
  | .exchange e => if isStopping || link = .down then (isStopping, refusal) else g.serve e
  | .garbage => (isStopping, if isStopping || link = .down then refusal else badRequest)

/-- One arrival after another; the flag at the end says that a stop was asked for. -/
def run (g : Gateway) (link : Link) : Bool → List Arrival → Bool × List Report
  | isStopping, [] => (isStopping, [])
  | isStopping, a :: rest =>
    let (isStopping, report) := g.step link isStopping a
    let (last, reports) := g.run link isStopping rest
    (last, report :: reports)

/-- The events of the stop that ends a run, unless it has stopped before. -/
def endEvents (isStopping : Bool) : List Event := if isStopping then [] else stopEvents

end Gateway

end ScopeGateway
