import ScopeGateway.Toml.Value

/-!
Tables under construction: which of them a later line may still add to.
-/
namespace ScopeGateway.Toml

/-- How a table came to be: named by a header of its own, only on the way to a deeper header, or
by a dotted key. -/
inductive Origin where
  | header
  | implied
  | dotted
deriving DecidableEq, Repr

inductive Node where
  | leaf (v : Value)
  | table (origin : Origin) (entries : List (String × Node))
  | tables (elements : List (List (String × Node)))

abbrev Entries := List (String × Node)

namespace Entries

def get? (es : Entries) (name : String) : Option Node := List.lookup name es

def set (es : Entries) (name : String) (n : Node) : Entries :=
  if (es.get? name).isSome then es.map fun e => if e.1 == name then (name, n) else e
  else es ++ [(name, n)]

/-- Changes the last element of a list of tables. -/
def updateLast (f : Entries → Option Entries) : List Entries → Option (List Entries)
  | [] => none
  | [last] => (f last).map ([·])
  | first :: rest => (updateLast f rest).map (first :: ·)

/-- Enters `name` as a key. A table that a dotted key runs into must be one that dotted keys made,
and no name is given twice. -/
def addAt (name : String) (v : Value) : List String → Origin → Entries → Option Entries
  | [], origin, es =>
    if origin != .dotted || (es.get? name).isSome then none else some (es.set name (.leaf v))
  | p :: path, _, es =>
    match es.get? p with
    | none => (addAt name v path .dotted []).map fun t => es.set p (.table .dotted t)
    | some (.leaf _) => none
    | some (.table .header _) => none
    | some (.table origin t) => (addAt name v path origin t).map fun t => es.set p (.table origin t)
    | some (.tables ts) =>
      (updateLast (addAt name v path .header) ts).map fun ts => es.set p (.tables ts)

/-- Enters a value under a key of one or more parts. -/
def add (es : Entries) (path : List String) (name : String) (v : Value) : Option Entries :=
  addAt name v path (if path.isEmpty then .dotted else .header) es

/-- Changes the table that a header's path leads to, making tables on the way. -/
def updateAt (f : Entries → Option Entries) : List String → Entries → Option Entries
  | [], es => f es
  | p :: path, es =>
    match es.get? p with
    | none => (updateAt f path []).map fun t => es.set p (.table .implied t)
    | some (.leaf _) => none
    | some (.table origin t) => (updateAt f path t).map fun t => es.set p (.table origin t)
    | some (.tables ts) => (updateLast (updateAt f path) ts).map fun ts => es.set p (.tables ts)

/-- The table that a header's path leads to; an empty one if nothing is there yet. -/
def findAt : List String → Entries → Option Entries
  | [], es => some es
  | p :: path, es =>
    match es.get? p with
    | none => some []
    | some (.leaf _) => none
    | some (.table _ t) => findAt path t
    | some (.tables ts) => ts.getLast?.bind (findAt path)

end Entries

mutual

def Node.value : Node → Value
  | .leaf v => v
  | .table _ es => .table (Node.entryValues es)
  | .tables ts => .array (Node.elementValues ts)

def Node.entryValues : List (String × Node) → List (String × Value)
  | [] => []
  | (name, n) :: es => (name, n.value) :: Node.entryValues es

def Node.elementValues : List (List (String × Node)) → List Value
  | [] => []
  | es :: ts => .table (Node.entryValues es) :: Node.elementValues ts

end

end ScopeGateway.Toml
