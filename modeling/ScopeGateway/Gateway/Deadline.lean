import ScopeGateway.Gateway.Failure

/-!
Work under a deadline. Times are in milliseconds, on a clock that never runs out.
-/
namespace ScopeGateway

/-- Work that is done after a while, or never. -/
structure Work (α : Type) where
  delay : Option Nat
  result : Except Failure α

/-- What comes of the work within a limit, and when. Work that is done just at the limit is in
time. -/
def Work.within {α : Type} (limit : Nat) (w : Work α) : Except Failure α × Nat :=
  let late := (.error (.late (.ofMillis limit)), limit)
  match w.delay with
  | some n => if n ≤ limit then (w.result, n) else late
  | none => late

end ScopeGateway
