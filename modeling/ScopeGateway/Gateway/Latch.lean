/-!
Latches that ask for a stop. Once triggered a latch stays so. Handles trigger it, listeners belong
to it, and a wait made from a listener ends when the latch is triggered or its last handle is gone.
-/
namespace ScopeGateway

structure Handle where
  latch : Nat
  isLive : Bool := true
deriving DecidableEq, Repr

structure Wait where
  latch : Nat
  isOver : Bool := false
deriving DecidableEq, Repr

/-- Latches with all that was made of them, each numbered in the order of its making. -/
structure Latches where
  triggered : List Bool := [false]
  handles : List Handle := [⟨0, true⟩]
  listeners : List Nat := []
  waits : List Wait := []
deriving DecidableEq, Repr

inductive LatchAction where
  | new
  | clone (handle : Nat)
  | drop (handle : Nat)
  | trigger (handle : Nat)
  | isTriggered (handle : Nat)
  | listen (handle : Nat)
  | cloneListener (listener : Nat)
  | wait (listener : Nat)
  | poll (wait : Nat)
deriving DecidableEq, Repr

inductive LatchAnswer where
  | done
  | number (n : Nat)
  | flag (b : Bool)
  | pending
  | ready
  | finished
deriving DecidableEq, Repr

namespace Latches

/-- The latch of a handle that has not been dropped. -/
def latchOf? (s : Latches) (handle : Nat) : Option Nat :=
  (s.handles[handle]?.filter (·.isLive)).map Handle.latch

def isTriggered (s : Latches) (latch : Nat) : Bool := s.triggered.getD latch false

def hasHandle (s : Latches) (latch : Nat) : Bool :=
  s.handles.any fun h => h.latch == latch && h.isLive

/-- Nothing is left to wait for. -/
def isOpen (s : Latches) (latch : Nat) : Bool := s.isTriggered latch || !s.hasHandle latch

def addHandle (s : Latches) (latch : Nat) : Latches × LatchAnswer :=
  ({ s with handles := s.handles ++ [⟨latch, true⟩] }, .number s.handles.length)

def addListener (s : Latches) (latch : Nat) : Latches × LatchAnswer :=
  ({ s with listeners := s.listeners ++ [latch] }, .number s.listeners.length)

def addWait (s : Latches) (latch : Nat) : Latches × LatchAnswer :=
  ({ s with waits := s.waits ++ [⟨latch, false⟩] }, .number s.waits.length)

def poll (s : Latches) (i : Nat) (w : Wait) : Latches × LatchAnswer :=
  if w.isOver then (s, .finished)
  else if s.isOpen w.latch then ({ s with waits := s.waits.set i ⟨w.latch, true⟩ }, .ready)
  else (s, .pending)

/-- One action and its answer; none if it names something that is not there. -/
def step? (s : Latches) : LatchAction → Option (Latches × LatchAnswer)
  | .new =>
    some ({ s with triggered := s.triggered ++ [false] }.addHandle s.triggered.length)
  | .clone h => (s.latchOf? h).map s.addHandle
  | .drop h => (s.latchOf? h).map fun l => ({ s with handles := s.handles.set h ⟨l, false⟩ }, .done)
  | .trigger h => (s.latchOf? h).map fun l => ({ s with triggered := s.triggered.set l true }, .done)
  | .isTriggered h => (s.latchOf? h).map fun l => (s, .flag (s.isTriggered l))
  | .listen h => (s.latchOf? h).map s.addListener
  | .cloneListener n => s.listeners[n]?.map s.addListener
  | .wait n => s.listeners[n]?.map s.addWait
  | .poll i => s.waits[i]?.map (s.poll i)

/-- The answers to a history of actions. -/
def answers? (s : Latches) : List LatchAction → Option (List LatchAnswer)
  | [] => some []
  | a :: rest => do
    let (s, answer) ← s.step? a
    return answer :: (← s.answers? rest)

end Latches

end ScopeGateway
