import ScopeGateway.Proofs.Settings.Independence
import ScopeGateway.Proofs.Toml.Names
import ScopeGateway.Settings.Document

/-!
What a document gives for each part of the settings. It is found in the part's section and read
without regard to the other parts.
-/
namespace ScopeGateway

open Toml

namespace Toml.Value

variable {v : Value}

/-- The value chooses a name: it is the name, or a table of that one name with nothing behind it. -/
def Chooses (v : Value) (name : String) : Prop :=
  v = .text name ∨ ∃ inside, v = .table [(name, inside)] ∧ (inside = .table [] ∨ inside = .array [])

/-- What may stand for a section. A moment does so as well, and has no fields. -/
def IsSection : Value → Prop
  | .table _ | .array _ | .moment _ => True
  | _ => False

theorem text?_eq_some_iff {s : String} : v.text? = some s ↔ v = .text s := by
  cases v <;> simp [text?]

theorem boolean?_eq_some_iff {b : Bool} : v.boolean? = some b ↔ v = .boolean b := by
  cases v <;> simp [boolean?]

theorem count?_eq_some_iff {n : Nat} : v.count? = some n ↔ v = .integer n := by
  cases v with
  | integer i =>
    rw [count?, integer.injEq]
    split <;> simp <;> omega
  | _ => simp [count?]

theorem isEmpty_iff : v.isEmpty = true ↔ v = .table [] ∨ v = .array [] := by
  cases v <;> simp [isEmpty]

theorem choice?_eq_some_iff {name : String} : v.choice? = some name ↔ v.Chooses name := by
  unfold choice? Chooses
  split
  · simp
  · rename_i name' inside
    simp only [Option.ite_none_right_eq_some, Option.some.injEq, isEmpty_iff, reduceCtorEq,
      table.injEq, List.cons.injEq, Prod.mk.injEq, and_true, false_or]
    constructor
    · rintro ⟨hinside, rfl⟩
      exact ⟨inside, ⟨rfl, rfl⟩, hinside⟩
    · rintro ⟨_, ⟨rfl, rfl⟩, hinside⟩
      exact ⟨hinside, rfl⟩
  · rename_i htext htable
    refine iff_of_false nofun ?_
    rintro (rfl | ⟨inside, rfl, -⟩)
    · exact htext _ rfl
    · exact htable _ _ rfl

end Toml.Value

/-- The name of a mode in a document. -/
def MatchMode.written : MatchMode → String
  | .token => "token"
  | .substring => "substring"

/-- The name of a format in a document. -/
def LogFormat.written : LogFormat → String
  | .pretty => "pretty"
  | .json => "json"

section
variable {v : Value}

theorem modeOf?_eq_some_iff {mode : MatchMode} :
    modeOf? v = some mode ↔ v.Chooses mode.written := by
  rw [← Value.choice?_eq_some_iff]
  unfold modeOf?
  split
  · rename_i h
    rw [h]
    cases mode <;> simp [MatchMode.written]
  · rename_i h
    rw [h]
    cases mode <;> simp [MatchMode.written]
  · rename_i htoken hsubstring
    cases mode with
    | token => exact iff_of_false nofun htoken
    | substring => exact iff_of_false nofun hsubstring

theorem formatOf?_eq_some_iff {format : LogFormat} :
    formatOf? v = some format ↔ v.Chooses format.written := by
  rw [← Value.choice?_eq_some_iff]
  unfold formatOf?
  split
  · rename_i h
    rw [h]
    cases format <;> simp [LogFormat.written]
  · rename_i h
    rw [h]
    cases format <;> simp [LogFormat.written]
  · rename_i hpretty hjson
    cases format with
    | pretty => exact iff_of_false nofun hpretty
    | json => exact iff_of_false nofun hjson

end

section
variable {f : Fields} {field : String}

/-- A field is read as what its value stands for, or as the stock value where there is none. -/
theorem Fields.read_eq_some_iff {α : Type} {kind : Value → Option α} {StandsFor : Value → α → Prop}
    (hkind : ∀ {v a}, kind v = some a ↔ StandsFor v a) {stock a : α} :
    f.read kind field stock = some a ↔ (f field).elim (a = stock) (StandsFor · a) := by
  unfold Fields.read
  cases f field with
  | none => simp [eq_comm]
  | some v => exact hkind

theorem Rule.ofFields?_eq_some_iff {stock rule : Rule} : stock.ofFields? f = some rule ↔
    f.read Value.text? "path_prefix" stock.pathStart = some rule.pathStart ∧
      f.read Value.text? "scope" stock.grant.token = some rule.grant.token ∧
      f.read modeOf? "match_mode" stock.grant.mode = some rule.grant.mode := by
  constructor
  · intro h
    obtain ⟨_, hpathStart, h⟩ := Option.bind_eq_some_iff.mp h
    obtain ⟨_, htoken, h⟩ := Option.bind_eq_some_iff.mp h
    obtain ⟨_, hmode, h⟩ := Option.bind_eq_some_iff.mp h
    obtain rfl := Option.some.inj h
    exact ⟨hpathStart, htoken, hmode⟩
  · rintro ⟨hpathStart, htoken, hmode⟩
    rw [ofFields?, hpathStart, htoken, hmode]
    rfl

theorem Limits.ofFields?_eq_some_iff {stock limits : Limits} : stock.ofFields? f = some limits ↔
    f.read Value.count? "connect_secs" stock.connect = some limits.connect ∧
      f.read Value.count? "request_secs" stock.request = some limits.request ∧
      f.read Value.count? "idle_secs" stock.idle = some limits.idle ∧
      f.read Value.count? "body_idle_secs" stock.bodyIdle = some limits.bodyIdle := by
  constructor
  · intro h
    obtain ⟨_, hconnect, h⟩ := Option.bind_eq_some_iff.mp h
    obtain ⟨_, hrequest, h⟩ := Option.bind_eq_some_iff.mp h
    obtain ⟨_, hidle, h⟩ := Option.bind_eq_some_iff.mp h
    obtain ⟨_, hbodyIdle, h⟩ := Option.bind_eq_some_iff.mp h
    obtain rfl := Option.some.inj h
    exact ⟨hconnect, hrequest, hidle, hbodyIdle⟩
  · rintro ⟨hconnect, hrequest, hidle, hbodyIdle⟩
    rw [ofFields?, hconnect, hrequest, hidle, hbodyIdle]
    rfl

theorem LogSettings.ofFields?_eq_some_iff {stock log : LogSettings} :
    stock.ofFields? f = some log ↔
      f.read Value.text? "log_level" stock.level = some log.level ∧
        f.read formatOf? "log_format" stock.format = some log.format := by
  constructor
  · intro h
    obtain ⟨_, hlevel, h⟩ := Option.bind_eq_some_iff.mp h
    obtain ⟨_, hformat, h⟩ := Option.bind_eq_some_iff.mp h
    obtain rfl := Option.some.inj h
    exact ⟨hlevel, hformat⟩
  · rintro ⟨hlevel, hformat⟩
    rw [ofFields?, hlevel, hformat]
    rfl

theorem MetricsSettings.ofFields?_eq_some_iff {stock metrics : MetricsSettings} :
    stock.ofFields? f = some metrics ↔
      f.read Value.boolean? "metrics_enabled" stock.enabled = some metrics.enabled ∧
        f.read Value.text? "metrics_address" stock.address = some metrics.address := by
  constructor
  · intro h
    obtain ⟨_, henabled, h⟩ := Option.bind_eq_some_iff.mp h
    obtain ⟨_, haddress, h⟩ := Option.bind_eq_some_iff.mp h
    obtain rfl := Option.some.inj h
    exact ⟨henabled, haddress⟩
  · rintro ⟨henabled, haddress⟩
    rw [ofFields?, henabled, haddress]
    rfl

end

namespace Settings

variable {s : Settings} {entries : List (String × Value)}

/-- The section that a part of the settings stands in. -/
def Part.sectionName : Part → String
  | .bindAddress => "listener"
  | .backendUrl => "upstream"
  | .pathStart | .token | .mode => "rewrite"
  | .healthPath => "health"
  | .connect | .request | .idle | .bodyIdle => "timeouts"
  | .logLevel | .logFormat | .metricsEnabled | .metricsAddress => "observability"

/-- Its name in the section. -/
def Part.key : Part → String
  | .bindAddress => "bind_address"
  | .backendUrl => "url"
  | .pathStart => "path_prefix"
  | .token => "scope"
  | .mode => "match_mode"
  | .healthPath => "path"
  | .connect => "connect_secs"
  | .request => "request_secs"
  | .idle => "idle_secs"
  | .bodyIdle => "body_idle_secs"
  | .logLevel => "log_level"
  | .logFormat => "log_format"
  | .metricsEnabled => "metrics_enabled"
  | .metricsAddress => "metrics_address"

/-- Its place in the section, counted from zero. -/
def Part.place : Part → Nat
  | .bindAddress | .backendUrl | .pathStart | .healthPath | .connect | .logLevel => 0
  | .token | .request | .logFormat => 1
  | .mode | .idle | .metricsEnabled => 2
  | .bodyIdle | .metricsAddress => 3

/-- The values that a document may give for a part. -/
def Part.Admits : Part → Value → Prop
  | .bindAddress, v | .backendUrl, v | .pathStart, v | .token, v | .healthPath, v | .logLevel, v
  | .metricsAddress, v => ∃ text, v = .text text
  | .connect, v | .request, v | .idle, v | .bodyIdle, v => ∃ n : Nat, v = .integer n
  | .metricsEnabled, v => ∃ b, v = .boolean b
  | .mode, v => v.Chooses "token" ∨ v.Chooses "substring"
  | .logFormat, v => v.Chooses "pretty" ∨ v.Chooses "json"

/-- The settings have for a part what the value says. -/
def Says (s : Settings) : Part → Value → Prop
  | .bindAddress, v => v = .text s.bindAddress
  | .backendUrl, v => v = .text s.backendUrl
  | .pathStart, v => v = .text s.rule.pathStart
  | .token, v => v = .text s.rule.grant.token
  | .mode, v => v.Chooses s.rule.grant.mode.written
  | .healthPath, v => v = .text s.healthPath
  | .connect, v => v = .integer s.limits.connect
  | .request, v => v = .integer s.limits.request
  | .idle, v => v = .integer s.limits.idle
  | .bodyIdle, v => v = .integer s.limits.bodyIdle
  | .logLevel, v => v = .text s.log.level
  | .logFormat, v => v.Chooses s.log.format.written
  | .metricsEnabled, v => v = .boolean s.metrics.enabled
  | .metricsAddress, v => v = .text s.metrics.address

/-- A section holds a value for a part: under its name in a table, or at its place in an array. -/
inductive Holds (p : Part) (v : Value) : Value → Prop
  | named {es : List (String × Value)} : (p.key, v) ∈ es → Holds p v (.table es)
  | placed {items : List Value} : items[p.place]? = some v → Holds p v (.array items)

/-- A document gives a value for a part. -/
def Gives (entries : List (String × Value)) (p : Part) (v : Value) : Prop :=
  ∃ inside, (p.sectionName, inside) ∈ entries ∧ Holds p v inside

/-- The settings have for a part what is given, or the stock value where nothing is. -/
def Overlays (s : Settings) (p : Part) (given : Option Value) : Prop :=
  given.elim (s.AgreesAt {} p) (s.Says p)

/-- What is found for a part, once its section is found fit to be one. -/
def given? (entries : List (String × Value)) (p : Part) : Option (Option Value) :=
  (part? entries p.sectionName).map (· p.key)

/-- The settings of a document are read section by section. -/
theorem ofEntries?_eq_some_iff_sections : ofEntries? entries = some s ↔
    (∃ f, part? entries "listener" = some f ∧
      f.read Value.text? "bind_address" "0.0.0.0:8080" = some s.bindAddress) ∧
    (∃ f, part? entries "upstream" = some f ∧
      f.read Value.text? "url" "http://authelia-app:9091" = some s.backendUrl) ∧
    (∃ f, part? entries "rewrite" = some f ∧ ({} : Settings).rule.ofFields? f = some s.rule) ∧
    (∃ f, part? entries "health" = some f ∧
      f.read Value.text? "path" "/healthz" = some s.healthPath) ∧
    (∃ f, part? entries "timeouts" = some f ∧ Limits.ofFields? {} f = some s.limits) ∧
    ∃ f, part? entries "observability" = some f ∧ LogSettings.ofFields? {} f = some s.log ∧
      MetricsSettings.ofFields? {} f = some s.metrics := by
  constructor
  · intro h
    obtain ⟨observability, hobservability, h⟩ := Option.bind_eq_some_iff.mp h
    obtain ⟨listener, hlistener, h⟩ := Option.bind_eq_some_iff.mp h
    obtain ⟨_, hbindAddress, h⟩ := Option.bind_eq_some_iff.mp h
    obtain ⟨upstream, hupstream, h⟩ := Option.bind_eq_some_iff.mp h
    obtain ⟨_, hbackendUrl, h⟩ := Option.bind_eq_some_iff.mp h
    obtain ⟨rewrite, hrewrite, h⟩ := Option.bind_eq_some_iff.mp h
    obtain ⟨_, hrule, h⟩ := Option.bind_eq_some_iff.mp h
    obtain ⟨health, hhealth, h⟩ := Option.bind_eq_some_iff.mp h
    obtain ⟨_, hhealthPath, h⟩ := Option.bind_eq_some_iff.mp h
    obtain ⟨timeouts, htimeouts, h⟩ := Option.bind_eq_some_iff.mp h
    obtain ⟨_, hlimits, h⟩ := Option.bind_eq_some_iff.mp h
    obtain ⟨_, hlog, h⟩ := Option.bind_eq_some_iff.mp h
    obtain ⟨_, hmetrics, h⟩ := Option.bind_eq_some_iff.mp h
    obtain rfl := Option.some.inj h
    exact ⟨⟨listener, hlistener, hbindAddress⟩, ⟨upstream, hupstream, hbackendUrl⟩,
      ⟨rewrite, hrewrite, hrule⟩, ⟨health, hhealth, hhealthPath⟩, ⟨timeouts, htimeouts, hlimits⟩,
      observability, hobservability, hlog, hmetrics⟩
  · rintro ⟨⟨listener, hlistener, hbindAddress⟩, ⟨upstream, hupstream, hbackendUrl⟩,
      ⟨rewrite, hrewrite, hrule⟩, ⟨health, hhealth, hhealthPath⟩, ⟨timeouts, htimeouts, hlimits⟩,
      observability, hobservability, hlog, hmetrics⟩
    simp only [ofEntries?, Option.bind_eq_bind, Option.bind_some, hobservability, hlistener,
      hbindAddress, hupstream, hbackendUrl, hrewrite, hrule, hhealth, hhealthPath, htimeouts,
      hlimits, hlog, hmetrics]
    rfl

/-- In each section they are read part by part. -/
theorem ofEntries?_eq_some_iff : ofEntries? entries = some s ↔
    ∀ p : Part, ∃ given, given? entries p = some given ∧ s.Overlays p given := by
  have hfound {p : Part} {f : Fields} (hf : part? entries p.sectionName = some f) :
      given? entries p = some (f p.key) := by
    rw [given?, hf, Option.map_some]
  rw [ofEntries?_eq_some_iff_sections]
  simp only [Rule.ofFields?_eq_some_iff, Limits.ofFields?_eq_some_iff,
    LogSettings.ofFields?_eq_some_iff, MetricsSettings.ofFields?_eq_some_iff,
    Fields.read_eq_some_iff Value.text?_eq_some_iff,
    Fields.read_eq_some_iff Value.count?_eq_some_iff,
    Fields.read_eq_some_iff Value.boolean?_eq_some_iff,
    Fields.read_eq_some_iff modeOf?_eq_some_iff, Fields.read_eq_some_iff formatOf?_eq_some_iff]
  constructor
  · rintro ⟨⟨listener, hlistener, hbindAddress⟩, ⟨upstream, hupstream, hbackendUrl⟩,
      ⟨rewrite, hrewrite, hpathStart, htoken, hmode⟩, ⟨health, hhealth, hhealthPath⟩,
      ⟨timeouts, htimeouts, hconnect, hrequest, hidle, hbodyIdle⟩,
      observability, hobservability, ⟨hlevel, hformat⟩, henabled, haddress⟩ p
    cases p with
    | bindAddress => exact ⟨_, hfound hlistener, hbindAddress⟩
    | backendUrl => exact ⟨_, hfound hupstream, hbackendUrl⟩
    | pathStart => exact ⟨_, hfound hrewrite, hpathStart⟩
    | token => exact ⟨_, hfound hrewrite, htoken⟩
    | mode => exact ⟨_, hfound hrewrite, hmode⟩
    | healthPath => exact ⟨_, hfound hhealth, hhealthPath⟩
    | connect => exact ⟨_, hfound htimeouts, hconnect⟩
    | request => exact ⟨_, hfound htimeouts, hrequest⟩
    | idle => exact ⟨_, hfound htimeouts, hidle⟩
    | bodyIdle => exact ⟨_, hfound htimeouts, hbodyIdle⟩
    | logLevel => exact ⟨_, hfound hobservability, hlevel⟩
    | logFormat => exact ⟨_, hfound hobservability, hformat⟩
    | metricsEnabled => exact ⟨_, hfound hobservability, henabled⟩
    | metricsAddress => exact ⟨_, hfound hobservability, haddress⟩
  · intro h
    have hpart (p : Part) : ∃ f, part? entries p.sectionName = some f := by
      obtain ⟨_, hgiven, -⟩ := h p
      obtain ⟨f, hf, -⟩ := Option.map_eq_some_iff.mp hgiven
      exact ⟨f, hf⟩
    have hread (p : Part) {f : Fields} (hf : part? entries p.sectionName = some f) :
        s.Overlays p (f p.key) := by
      obtain ⟨given, hgiven, hoverlays⟩ := h p
      obtain rfl := Option.some.inj ((hfound hf).symm.trans hgiven)
      exact hoverlays
    obtain ⟨listener, hlistener⟩ := hpart .bindAddress
    obtain ⟨upstream, hupstream⟩ := hpart .backendUrl
    obtain ⟨rewrite, hrewrite⟩ := hpart .pathStart
    obtain ⟨health, hhealth⟩ := hpart .healthPath
    obtain ⟨timeouts, htimeouts⟩ := hpart .connect
    obtain ⟨observability, hobservability⟩ := hpart .logLevel
    exact ⟨⟨listener, hlistener, hread .bindAddress hlistener⟩,
      ⟨upstream, hupstream, hread .backendUrl hupstream⟩,
      ⟨rewrite, hrewrite, hread .pathStart hrewrite, hread .token hrewrite, hread .mode hrewrite⟩,
      ⟨health, hhealth, hread .healthPath hhealth⟩,
      ⟨timeouts, htimeouts, hread .connect htimeouts, hread .request htimeouts,
        hread .idle htimeouts, hread .bodyIdle htimeouts⟩,
      observability, hobservability,
      ⟨hread .logLevel hobservability, hread .logFormat hobservability⟩,
      hread .metricsEnabled hobservability, hread .metricsAddress hobservability⟩

/-- The fields of its section. -/
def Part.fields (p : Part) : List String := (layout.lookup p.sectionName).getD []

namespace Part

variable (p : Part)

theorem mem_layout : (p.sectionName, p.fields) ∈ layout := by
  cases p <;> decide

theorem getElem?_fields : p.fields[p.place]? = some p.key := by
  cases p <;> rfl

theorem nodup_fields : p.fields.Nodup := by
  cases p <;> decide

theorem idxOf_key : p.fields.idxOf p.key = p.place := by
  obtain ⟨hplace, hkey⟩ := List.getElem?_eq_some_iff.mp p.getElem?_fields
  rw [← hkey]
  exact p.nodup_fields.idxOf_getElem _ hplace

/-- A list of values puts under the part's name the value at its place. -/
theorem mem_zip_fields_iff {items : List Value} {v : Value} :
    (p.key, v) ∈ p.fields.zip items ↔ items[p.place]? = some v := by
  simp only [List.mem_iff_getElem?, List.getElem?_zip_eq_some]
  constructor
  · rintro ⟨i, hi, hv⟩
    obtain ⟨hlt, hkey⟩ := List.getElem?_eq_some_iff.mp hi
    have hplace : i = p.place := by
      rw [← p.idxOf_key, ← hkey, p.nodup_fields.idxOf_getElem _ hlt]
    rwa [← hplace]
  · exact fun hv => ⟨p.place, p.getElem?_fields, hv⟩

end Part

variable {p : Part} {v : Value}

theorem isSome_fieldsOf?_iff {names : List String} :
    (fieldsOf? names (some v)).isSome ↔ v.IsSection := by
  cases v <;> simp [fieldsOf?, Value.IsSection]

/-- What stands for a section gives a part what it holds for it. -/
theorem holds_iff_of_fieldsOf? {inside : Value} {f : Fields} (hinside : inside.IsProper)
    (hf : fieldsOf? p.fields (some inside) = some f) : Holds p v inside ↔ f p.key = some v := by
  cases hinside with
  | table hnames _ =>
    obtain rfl := Option.some.inj hf
    rw [lookup_eq_some_iff_mem hnames]
    exact ⟨fun | .named hmem => hmem, .named⟩
  | array _ =>
    obtain rfl := Option.some.inj hf
    simp only [p.idxOf_key]
    exact ⟨fun | .placed hitem => hitem, .placed⟩
  | moment written =>
    obtain rfl := Option.some.inj hf
    exact iff_of_false nofun nofun
  | _ => cases hf

section
variable (h : (Value.table entries).IsProper)
include h

theorem lookup_iff_mem {name : String} : entries.lookup name = some v ↔ (name, v) ∈ entries := by
  cases h with
  | table hnames _ => exact lookup_eq_some_iff_mem hnames

theorem isSome_given?_iff :
    (given? entries p).isSome ↔ ∀ v, (p.sectionName, v) ∈ entries → v.IsSection := by
  simp only [given?, part?, Option.isSome_map, ← lookup_iff_mem h]
  cases entries.lookup p.sectionName with
  | none => simp [fieldsOf?]
  | some inside => simp [isSome_fieldsOf?_iff]

theorem gives_iff_of_given? {given : Option Value} (hgiven : given? entries p = some given) :
    Gives entries p v ↔ given = some v := by
  obtain ⟨f, hf, rfl⟩ := Option.map_eq_some_iff.mp hgiven
  unfold part? at hf
  simp only [Gives, ← lookup_iff_mem h]
  cases hlookup : entries.lookup p.sectionName with
  | none =>
    rw [hlookup] at hf
    obtain rfl := Option.some.inj hf
    simp
  | some inside =>
    rw [hlookup] at hf
    have hinside : inside.IsProper := by
      cases h with
      | table _ hvalues => exact hvalues _ (mem_of_lookup_eq_some hlookup)
    simp only [Option.some.injEq, exists_eq_left']
    exact holds_iff_of_fieldsOf? hinside hf

theorem overlays_iff_of_given? {given : Option Value} (hgiven : given? entries p = some given) :
    s.Overlays p given ↔ (∀ v, Gives entries p v → s.Says p v) ∧
      ((∀ v, ¬Gives entries p v) → s.AgreesAt {} p) := by
  simp only [gives_iff_of_given? h hgiven]
  cases given with
  | none => simp [Overlays]
  | some v => simp [Overlays]

/-- A document makes settings where all that stands for a section can be one, and they have what it
gives, or the stock value where it gives nothing. -/
theorem ofEntries?_overlays : ofEntries? entries = some s ↔
    (∀ (p : Part) (v : Value), (p.sectionName, v) ∈ entries → v.IsSection) ∧
      ∀ p : Part, (∀ v, Gives entries p v → s.Says p v) ∧
        ((∀ v, ¬Gives entries p v) → s.AgreesAt {} p) := by
  rw [ofEntries?_eq_some_iff]
  constructor
  · intro hgiven
    refine ⟨fun p => ?_, fun p => ?_⟩
    · obtain ⟨given, hp, -⟩ := hgiven p
      exact (isSome_given?_iff h).mp (Option.isSome_of_eq_some hp)
    · obtain ⟨given, hp, hoverlays⟩ := hgiven p
      exact (overlays_iff_of_given? h hp).mp hoverlays
  · rintro ⟨hsections, hparts⟩ p
    obtain ⟨given, hp⟩ :=
      Option.isSome_iff_exists.mp ((isSome_given?_iff h).mpr (hsections p))
    exact ⟨given, hp, (overlays_iff_of_given? h hp).mpr (hparts p)⟩

end

end Settings

end ScopeGateway
