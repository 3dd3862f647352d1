import ScopeGateway.Settings.Basic
import ScopeGateway.Toml.Document

/-!
Settings from a TOML document. What the document does not give has its stock value, and names
that are not known mean nothing.
-/
namespace ScopeGateway

open Toml

/-- What a section gives for each name. -/
abbrev Fields := String → Option Value

/-- A section is a table, or an array of the fields' values in their order. A moment has no
fields. -/
def fieldsOf? (names : List String) : Option Value → Option Fields
  | none | some (.moment _) => some fun _ => none
  | some (.table entries) => some fun field => entries.lookup field
  | some (.array items) => some fun field => items[names.idxOf field]?
  | some _ => none

/-- The field's value, or the stock value where none is given; fails on a value of another kind. -/
def Fields.read {α : Type} (s : Fields) (kind : Value → Option α) (field : String) (stock : α) :
    Option α :=
  match s field with
  | none => some stock
  | some v => kind v

def modeOf? (v : Value) : Option MatchMode :=
  match v.choice? with
  | some "token" => some .token
  | some "substring" => some .substring
  | _ => none

def formatOf? (v : Value) : Option LogFormat :=
  match v.choice? with
  | some "pretty" => some .pretty
  | some "json" => some .json
  | _ => none

def Rule.ofFields? (stock : Rule) (s : Fields) : Option Rule := do
  return ⟨← s.read Value.text? "path_prefix" stock.pathStart,
    ⟨← s.read Value.text? "scope" stock.grant.token,
      ← s.read modeOf? "match_mode" stock.grant.mode⟩⟩

def Limits.ofFields? (stock : Limits) (s : Fields) : Option Limits := do
  return ⟨← s.read Value.count? "connect_secs" stock.connect,
    ← s.read Value.count? "request_secs" stock.request,
    ← s.read Value.count? "idle_secs" stock.idle,
    ← s.read Value.count? "body_idle_secs" stock.bodyIdle⟩

def LogSettings.ofFields? (stock : LogSettings) (s : Fields) : Option LogSettings := do
  return ⟨← s.read Value.text? "log_level" stock.level, ← s.read formatOf? "log_format" stock.format⟩

def MetricsSettings.ofFields? (stock : MetricsSettings) (s : Fields) :
    Option MetricsSettings := do
  return ⟨← s.read Value.boolean? "metrics_enabled" stock.enabled,
    ← s.read Value.text? "metrics_address" stock.address⟩

namespace Settings

/-- The known sections, each with its fields in order. -/
def layout : List (String × List String) :=
  [("listener", ["bind_address"]), ("upstream", ["url"]),
    ("rewrite", ["path_prefix", "scope", "match_mode"]), ("health", ["path"]),
    ("timeouts", ["connect_secs", "request_secs", "idle_secs", "body_idle_secs"]),
    ("observability", ["log_level", "log_format", "metrics_enabled", "metrics_address"])]

def part? (entries : List (String × Value)) (name : String) : Option Fields :=
  fieldsOf? ((layout.lookup name).getD []) (entries.lookup name)

def ofEntries? (entries : List (String × Value)) : Option Settings := do
  let stock : Settings := {}
  let observability ← part? entries "observability"
  return {
    bindAddress :=
      ← (← part? entries "listener").read Value.text? "bind_address" stock.bindAddress
    backendUrl := ← (← part? entries "upstream").read Value.text? "url" stock.backendUrl
    rule := ← stock.rule.ofFields? (← part? entries "rewrite")
    healthPath := ← (← part? entries "health").read Value.text? "path" stock.healthPath
    limits := ← stock.limits.ofFields? (← part? entries "timeouts")
    log := ← stock.log.ofFields? observability
    metrics := ← stock.metrics.ofFields? observability }

/-- The settings that a document gives, if it is well formed and its values are of the right
kinds. -/
def parse? (document : String) : Option Settings :=
  match Toml.parse document with
  | some (.table entries) => ofEntries? entries
  | _ => none

end Settings

end ScopeGateway
