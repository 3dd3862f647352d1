import ScopeGateway.Gateway.Event
import ScopeGateway.Text.Alphanumeric
import ScopeGateway.Text.Blank
import ScopeGateway.Text.Utf8

/-!
Filters of the log. A filter is a list of directives with commas between them, and of the
directives that concern an event the most specific one decides whether it is logged.
-/
namespace ScopeGateway

open Text

/-- A field that an event must have, and whether a value is asked for. -/
structure FieldTest where
  name : String
  hasValue : Bool
deriving DecidableEq, Repr

/-- Lets through the events up to a level, from zero to five, of some origin and within some span
of the work. What is not given does not matter. -/
structure Directive where
  origin : Option String := none
  span : Option String := none
  fields : List FieldTest := []
  rank : Nat := 5
deriving DecidableEq, Repr

namespace Directive

def fieldNames (d : Directive) : List String := d.fields.map FieldTest.name

/-- Events alone tell whether such a directive concerns them. -/
def isStatic (d : Directive) : Bool := d.span.isNone && !d.fields.any (·.hasValue)

def concerns (d : Directive) (e : Event) : Bool :=
  d.isStatic && (d.origin.all fun o => o.toList.isPrefixOf e.origin.toList) &&
    d.fieldNames.all e.fieldNames.contains

/-- How much of an event's origin is asked for, where nothing is less than an empty origin. -/
def reach (d : Directive) : Nat := d.origin.elim 0 fun o => Utf8.size o.toList + 1

/-- A longer origin is more specific, then more fields, then fields that come later in the order
of words. -/
def isAtLeast (d other : Directive) : Bool :=
  if d.reach ≠ other.reach then other.reach < d.reach
  else if d.fields.length ≠ other.fields.length then other.fields.length < d.fields.length
  else !(d.fieldNames < other.fieldNames)

end Directive

/-- A number in decimal digits, with or without a plus sign. -/
def unsigned? (text : List Char) : Option Nat :=
  let digits := if text.head? = some '+' then text.tail else text
  if digits.isEmpty || !digits.all Char.isDigit then none
  else some (digits.foldl (fun n c => n * 10 + (c.toNat - '0'.toNat)) 0)

/-- Levels have names, in any case, and numbers. -/
def levelRank? (text : List Char) : Option Nat :=
  match (unsigned? text).filter (· ≤ 5) with
  | some n => some n
  | none =>
    match String.ofList (text.map Char.toLower) with
    | "off" => some 0
    | "error" => some 1
    | "warn" => some 2
    | "info" => some 3
    | "debug" => some 4
    | "trace" => some 5
    | _ => none

/-- What the next character of a directive belongs to. -/
inductive DirectivePhase where
  | start
  | name
  | span
  | field
  | fieldsEnd
  | spanEnd
  | level
deriving DecidableEq, Repr

/-- A directive up to some character of it, and where the part in hand begins. -/
structure DirectiveReader where
  phase : DirectivePhase := .start
  begins : Nat := 0
  directive : Directive := {}
deriving Repr

def FieldTest.ofText (text : List Char) : FieldTest :=
  let (name, value) := cut (· == '=') text
  ⟨String.ofList name, value.isSome⟩

def startsDirective (c : Char) : Bool := c == '-' || c == ':' || c == '_' || isAlphanumeric c

namespace DirectiveReader

def goTo (r : DirectiveReader) (phase : DirectivePhase) (begins : Nat) : DirectiveReader :=
  { r with phase, begins }

/-- Takes the character at a place, with the part in hand before it; fails where no directive goes
on with it. -/
def step (r : DirectiveReader) (place : Nat) (part : List Char) (c : Char) :
    Option DirectiveReader :=
  let d := r.directive
  let named : Directive := { d with origin := some (String.ofList part) }
  match r.phase with
  | .start =>
    if c = '[' then some (r.goTo .span (place + 1))
    else if startsDirective c then some (r.goTo .name place)
    else none
  | .name =>
    if c = '=' then some ⟨.level, place + 1, named⟩
    else if c = '[' then some ⟨.span, place + 1, named⟩
    else some r
  | .span =>
    if c = ']' then some ⟨.spanEnd, place, { d with span := some (String.ofList part) }⟩
    else if c = '\x7b' then
      let span := if part.isEmpty then none else some (String.ofList part)
      some ⟨.field, place + 1, { d with span }⟩
    else some r
  | .field =>
    if c ≠ '\x7d' then some r
    else if part.isEmpty then none
    else some ⟨.fieldsEnd, place, { d with fields := d.fields ++ [.ofText part] }⟩
  | .fieldsEnd => if c = ']' then some (r.goTo .spanEnd place) else none
  | .spanEnd => if c = '=' then some (r.goTo .level (place + 1)) else none
  | .level => some r

/-- The directive, when `rest` is the part in hand. A name alone is a level or else an origin. -/
def finish (r : DirectiveReader) (rest : List Char) : Option Directive :=
  match r.phase with
  | .name =>
    match levelRank? rest with
    | some rank => some { r.directive with rank }
    | none => some { r.directive with origin := some (String.ofList rest) }
  | .level =>
    if rest.isEmpty then some r.directive
    else (levelRank? rest).map fun rank => { r.directive with rank }
  | .spanEnd => some r.directive
  | .start | .span | .field | .fieldsEnd => none

/-- Reads on at a place. The parts are cut out of `text`. -/
def run (text : List Char) : DirectiveReader → Nat → List Char → Option DirectiveReader
  | r, _, [] => some r
  | r, place, c :: rest => do
    let r ← r.step place ((text.take place).drop r.begins) c
    run text r (place + 1) rest

end DirectiveReader

/-- Blanks at both ends are passed over in the reading, but the parts are cut out of the text with
its blanks, so that a level beside a blank is none. -/
def Directive.parse? (text : List Char) : Option Directive := do
  let r ← DirectiveReader.run text {} 0 (trim text)
  r.finish (text.drop r.begins)

structure LogFilter where
  directives : List Directive
deriving DecidableEq, Repr

namespace LogFilter

/-- Without directives only errors are let through. -/
def ofDirectives (ds : List Directive) : LogFilter :=
  ⟨if ds.isEmpty then [{ rank := Level.error.rank }] else ds⟩

/-- The most specific directive that concerns an event; of equals, the last one. -/
def decisive? (f : LogFilter) (e : Event) : Option Directive :=
  (f.directives.filter (·.concerns e)).foldl (fun best d =>
    match best with
    | none => some d
    | some b => if d.isAtLeast b then some d else best) none

def lets (f : LogFilter) (e : Event) : Bool :=
  (f.decisive? e).any fun d => e.level.rank ≤ d.rank

def pieces (text : String) : List (List Char) :=
  (splitOn (· == ',') text.toList).filter (!·.isEmpty)

/-- Every directive has to be one. -/
def parse? (text : String) : Option LogFilter :=
  ((pieces text).mapM Directive.parse?).map ofDirectives

/-- What is no directive is passed over. -/
def ofText (text : String) : LogFilter := ofDirectives ((pieces text).filterMap Directive.parse?)

end LogFilter

end ScopeGateway
