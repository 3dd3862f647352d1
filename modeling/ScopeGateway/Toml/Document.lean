import ScopeGateway.Toml.Lexeme
import ScopeGateway.Toml.Tree

/-!
TOML documents: values, keys with values, and headers, line by line.
-/
namespace ScopeGateway.Toml

/-- A key's parts but the last, and the last. -/
def splitKey (parts : List String) : List String × String := (parts.dropLast, parts.getLastD "")

mutual

/-- Reads a value inside of `depth` arrays and inline tables. -/
def value : Nat → Nat → Reader Value
  | 0, _, _ => none
  | fuel + 1, depth, cs =>
    match cs with
    | '[' :: r =>
      if maxDepth ≤ depth + 1 then none
      else do
        let (vs, r) ← items fuel (depth + 1) r
        return (.array vs, r)
    | '\x7b' :: r =>
      if maxDepth ≤ depth + 1 then none
      else
        match skipSpaces r with
        | '\x7d' :: r => some (.table [], r)
        | _ => do
          let (es, r) ← pairs fuel (depth + 1) [] r
          return ((Node.table .header es).value, r)
    | _ => scalarValue cs

/-- The values of an array up to its closing bracket; a comma may follow the last one. -/
def items : Nat → Nat → Reader (List Value)
  | 0, _, _ => none
  | fuel + 1, depth, cs => do
    match ← skipLines (cs.length + 1) cs with
    | ']' :: r => return ([], r)
    | r =>
      let (v, r) ← value fuel depth r
      match ← skipLines (r.length + 1) r with
      | ',' :: r => do
        let (vs, r) ← items fuel depth r
        return (v :: vs, r)
      | ']' :: r => return ([v], r)
      | _ => none

/-- The keys and values of an inline table, which add to `es`, up to its closing brace. -/
def pairs : Nat → Nat → Entries → Reader Entries
  | 0, _, _, _ => none
  | fuel + 1, depth, es, cs => do
    let (parts, r) ← key cs
    let (_, r) ← literally '=' r
    let (v, r) ← value fuel depth (skipSpaces r)
    let (path, name) := splitKey parts
    let es ← es.add path name v
    match skipSpaces r with
    | ',' :: r => pairs fuel depth es r
    | '\x7d' :: r => return (es, r)
    | _ => none

end

/-- Every nested reading takes a character from the text or follows one that did. -/
def valueFuel (cs : List Char) : Nat := 2 * cs.length + 2

/-- A document up to some line: the finished tables, and the one that lines add to now. -/
structure Draft where
  finished : Entries := []
  path : List String := []
  isElement : Bool := false
  current : Entries := []

namespace Draft

/-- Puts the current table in its place among the finished ones. -/
def close (d : Draft) : Option Entries :=
  if d.path.isEmpty then some d.current
  else
    let (path, name) := splitKey d.path
    Entries.updateAt (fun es =>
      if d.isElement then
        match es.get? name with
        | none => some (es.set name (.tables [d.current]))
        | some (.tables ts) => some (es.set name (.tables (ts ++ [d.current])))
        | some _ => none
      else some (es.set name (.table .header d.current))) path d.finished

/-- Goes on with the table of a header. It may be there only as a way to deeper ones. -/
def openTable (d : Draft) (header : List String) : Option Draft := do
  let finished ← d.close
  let (path, name) := splitKey header
  let around ← Entries.findAt path finished
  match around.get? name with
  | none => some ⟨finished, header, false, []⟩
  | some (.table .implied es) => some ⟨finished, header, false, es⟩
  | some _ => none

/-- Goes on with a new element of an array of tables. -/
def openElement (d : Draft) (header : List String) : Option Draft := do
  let finished ← d.close
  let (path, name) := splitKey header
  let around ← Entries.findAt path finished
  match around.get? name with
  | none | some (.tables _) => some ⟨finished, header, true, []⟩
  | some _ => none

/-- A header between brackets, single or double, alone on its line. -/
def header (d : Draft) : List Char → Option (Draft × List Char)
  | '[' :: '[' :: r => do
    let (parts, r) ← key r
    match r with
    | ']' :: ']' :: r =>
      let r ← endOfLine? r
      return (← d.openElement parts, r)
    | _ => none
  | '[' :: r => do
    let (parts, r) ← key r
    match r with
    | ']' :: r =>
      let r ← endOfLine? r
      return (← d.openTable parts, r)
    | _ => none
  | _ => none

/-- A key with its value, alone on their line. -/
def assignment (d : Draft) (cs : List Char) : Option (Draft × List Char) := do
  let (parts, r) ← key cs
  let (_, r) ← literally '=' r
  let (v, r) ← value (valueFuel r) 0 (skipSpaces r)
  let r ← endOfLine? r
  let (path, name) := splitKey parts
  return ({ d with current := ← d.current.add path name v }, r)

/-- Reads line after line; each takes at least one character. -/
def lines : Nat → Draft → List Char → Option Draft
  | 0, _, _ => none
  | fuel + 1, d, cs =>
    match skipSpaces cs with
    | [] => some d
    | '#' :: r => (endOfLine? ('#' :: r)).bind (lines fuel d)
    | '\n' :: r => lines fuel d r
    | '\r' :: r => (newline? ('\r' :: r)).bind (lines fuel d)
    | '[' :: r => (d.header ('[' :: r)).bind fun (d, r) => lines fuel d r
    | r => (d.assignment r).bind fun (d, r) => lines fuel d r

end Draft

/-- A mark of the byte order may stand first. -/
def skipByteOrderMark : List Char → List Char
  | '\uFEFF' :: r => r
  | cs => cs

/-- The table that a document describes, if it is well formed. -/
def parse (document : String) : Option Value := do
  let cs := skipByteOrderMark document.toList
  let draft ← Draft.lines (cs.length + 1) {} cs
  return (Node.table .header (← draft.close)).value

end ScopeGateway.Toml
