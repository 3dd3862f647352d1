import Mathlib
import ScopeGateway.Proofs.Settings.Given
import ScopeGateway.Settings.Load

/-!
Settings as a document says them, part by part: what the document gives, or else the stock value.
The order of names in the document, the names that are not known, and which form a section has do
not matter.
-/
namespace ScopeGateway.Settings

open Toml

variable {s t : Settings} {entries entries' : List (String × Value)} {p : Part} {v : Value}

theorem Says.admits (hsaid : s.Says p v) : p.Admits v := by
  cases p with
  | bindAddress | backendUrl | pathStart | token | healthPath | logLevel | metricsAddress
  | connect | request | idle | bodyIdle | metricsEnabled => exact ⟨_, hsaid⟩
  | mode =>
    cases hmode : s.rule.grant.mode <;> simp only [Says, hmode] at hsaid
    · exact .inl hsaid
    · exact .inr hsaid
  | logFormat =>
    cases hformat : s.log.format <;> simp only [Says, hformat] at hsaid
    · exact .inl hsaid
    · exact .inr hsaid

theorem exists_said : ∀ {p : Part}, p.Admits v → ∃ s : Settings, s.Says p v
  | .bindAddress, ⟨text, h⟩ => ⟨{ bindAddress := text }, h⟩
  | .backendUrl, ⟨text, h⟩ => ⟨{ backendUrl := text }, h⟩
  | .pathStart, ⟨text, h⟩ => ⟨{ rule := ⟨text, ⟨"", .token⟩⟩ }, h⟩
  | .token, ⟨text, h⟩ => ⟨{ rule := ⟨"", ⟨text, .token⟩⟩ }, h⟩
  | .mode, .inl h => ⟨{ rule := ⟨"", ⟨"", .token⟩⟩ }, h⟩
  | .mode, .inr h => ⟨{ rule := ⟨"", ⟨"", .substring⟩⟩ }, h⟩
  | .healthPath, ⟨text, h⟩ => ⟨{ healthPath := text }, h⟩
  | .connect, ⟨n, h⟩ => ⟨{ limits := { connect := n } }, h⟩
  | .request, ⟨n, h⟩ => ⟨{ limits := { request := n } }, h⟩
  | .idle, ⟨n, h⟩ => ⟨{ limits := { idle := n } }, h⟩
  | .bodyIdle, ⟨n, h⟩ => ⟨{ limits := { bodyIdle := n } }, h⟩
  | .logLevel, ⟨text, h⟩ => ⟨{ log := { level := text } }, h⟩
  | .logFormat, .inl h => ⟨{ log := { format := .pretty } }, h⟩
  | .logFormat, .inr h => ⟨{ log := { format := .json } }, h⟩
  | .metricsEnabled, ⟨b, h⟩ => ⟨{ metrics := { enabled := b } }, h⟩
  | .metricsAddress, ⟨text, h⟩ => ⟨{ metrics := { address := text } }, h⟩

/-- What the settings have for a part is told by that part alone. -/
theorem says_congr (hagrees : s.AgreesAt t p) : s.Says p v ↔ t.Says p v := by
  cases p <;> simp only [AgreesAt] at hagrees <;> simp only [Says, hagrees]

theorem overlays_congr {given : Option Value} (hagrees : s.AgreesAt t p) :
    s.Overlays p given ↔ t.Overlays p given := by
  cases given with
  | none => exact ⟨hagrees.symm.trans, hagrees.trans⟩
  | some v => exact says_congr hagrees

/-- Values of settings can be put together as one likes. -/
theorem exists_agreesAt (from' : Part → Settings) : ∃ s : Settings, ∀ p, s.AgreesAt (from' p) p :=
  ⟨{ bindAddress := (from' .bindAddress).bindAddress
     backendUrl := (from' .backendUrl).backendUrl
     rule := ⟨(from' .pathStart).rule.pathStart,
      ⟨(from' .token).rule.grant.token, (from' .mode).rule.grant.mode⟩⟩
     healthPath := (from' .healthPath).healthPath
     limits := ⟨(from' .connect).limits.connect, (from' .request).limits.request,
      (from' .idle).limits.idle, (from' .bodyIdle).limits.bodyIdle⟩
     log := ⟨(from' .logLevel).log.level, (from' .logFormat).log.format⟩
     metrics := ⟨(from' .metricsEnabled).metrics.enabled,
      (from' .metricsAddress).metrics.address⟩ }, fun p => by cases p <;> rfl⟩

/-- Whether a document makes settings is told part by part as well. -/
theorem exists_ofEntries?_iff (h : (Value.table entries).IsProper) :
    (∃ s, ofEntries? entries = some s) ↔
      (∀ (p : Part) (v : Value), (p.sectionName, v) ∈ entries → v.IsSection) ∧
        ∀ (p : Part) (v : Value), Gives entries p v → p.Admits v := by
  constructor
  · rintro ⟨s, hs⟩
    obtain ⟨hsections, hparts⟩ := (ofEntries?_overlays h).mp hs
    exact ⟨hsections, fun p v hv => ((hparts p).1 v hv).admits⟩
  · rintro ⟨hsections, hadmits⟩
    have hpart (p : Part) : ∃ s : Settings, ∃ given, given? entries p = some given ∧
        s.Overlays p given := by
      obtain ⟨given, hp⟩ :=
        Option.isSome_iff_exists.mp ((isSome_given?_iff h).mpr (hsections p))
      cases given with
      | none => exact ⟨{}, none, hp, .refl _ p⟩
      | some v =>
        obtain ⟨s, hs⟩ := exists_said (hadmits p v ((gives_iff_of_given? h hp).mpr rfl))
        exact ⟨s, some v, hp, hs⟩
    obtain ⟨s, hs⟩ := exists_agreesAt fun p => (hpart p).choose
    refine ⟨s, ofEntries?_eq_some_iff.mpr fun p => ?_⟩
    obtain ⟨given, hp, hoverlays⟩ := (hpart p).choose_spec
    exact ⟨given, hp, (overlays_congr (hs p)).mpr hoverlays⟩

/-- Two values make the same section of such fields: both are tables with the same under the name of
every field, or one is an array and the other a table of its items, each under the name of its
field. -/
inductive SameSection (fields : List String) : Value → Value → Prop
  | refl (v : Value) : SameSection fields v v
  | tables {es es' : List (String × Value)} :
    (∀ field ∈ fields, ∀ v, (field, v) ∈ es ↔ (field, v) ∈ es') →
    SameSection fields (.table es) (.table es')
  | spelled {items : List Value} {es : List (String × Value)} :
    (∀ field ∈ fields, ∀ v, (field, v) ∈ fields.zip items ↔ (field, v) ∈ es) →
    SameSection fields (.array items) (.table es)
  | symm {v w : Value} : SameSection fields v w → SameSection fields w v

/-- What stands for a known section in one document has its like in the other. -/
def SectionsStandIn (entries entries' : List (String × Value)) : Prop :=
  ∀ name fields, (name, fields) ∈ layout → ∀ v, (name, v) ∈ entries →
    ∃ v', (name, v') ∈ entries' ∧ SameSection fields v v'

/-- Two documents have the same known sections, whatever else there is in either. -/
def SameSections (entries entries' : List (String × Value)) : Prop :=
  SectionsStandIn entries entries' ∧ SectionsStandIn entries' entries

theorem SameSection.isSection_iff {fields : List String} {v w : Value}
    (hsame : SameSection fields v w) : v.IsSection ↔ w.IsSection := by
  induction hsame with
  | refl => rfl
  | tables => exact Iff.rfl
  | spelled => exact Iff.rfl
  | symm _ ih => exact ih.symm

theorem SameSection.holds_iff {inside inside' : Value}
    (hsame : SameSection p.fields inside inside') : Holds p v inside ↔ Holds p v inside' := by
  have hkey : p.key ∈ p.fields := List.mem_of_getElem? p.getElem?_fields
  induction hsame with
  | refl => rfl
  | tables hes =>
    constructor
    · rintro (hv | _)
      exact .named ((hes _ hkey _).mp hv)
    · rintro (hv | _)
      exact .named ((hes _ hkey _).mpr hv)
  | spelled hes =>
    constructor
    · rintro (_ | hv)
      exact .named ((hes _ hkey _).mp (p.mem_zip_fields_iff.mpr hv))
    · rintro (hv | _)
      exact .placed (p.mem_zip_fields_iff.mp ((hes _ hkey _).mpr hv))
  | symm _ ih => exact ih.symm

namespace SectionsStandIn

variable (hsame : SectionsStandIn entries entries')
include hsame

theorem isSection (hsections : ∀ v, (p.sectionName, v) ∈ entries' → v.IsSection) :
    ∀ v, (p.sectionName, v) ∈ entries → v.IsSection := by
  intro v hv
  obtain ⟨v', hv', hlike⟩ := hsame _ _ p.mem_layout v hv
  exact hlike.isSection_iff.mpr (hsections v' hv')

theorem gives (hv : Gives entries p v) : Gives entries' p v := by
  obtain ⟨inside, hinside, hholds⟩ := hv
  obtain ⟨inside', hinside', hlike⟩ := hsame _ _ p.mem_layout inside hinside
  exact ⟨inside', hinside', hlike.holds_iff.mp hholds⟩

end SectionsStandIn

/-- Documents with the same known sections make the same settings. -/
theorem SameSections.ofEntries?_eq (hsame : SameSections entries entries')
    (h : (Value.table entries).IsProper) (h' : (Value.table entries').IsProper) :
    ofEntries? entries' = ofEntries? entries := by
  refine Option.ext fun s => ?_
  have hsections (p : Part) : (∀ v, (p.sectionName, v) ∈ entries' → v.IsSection) ↔
      ∀ v, (p.sectionName, v) ∈ entries → v.IsSection :=
    ⟨hsame.1.isSection, hsame.2.isSection⟩
  have hgives (p : Part) (v : Value) : Gives entries' p v ↔ Gives entries p v :=
    ⟨hsame.2.gives, hsame.1.gives⟩
  simp only [ofEntries?_overlays h, ofEntries?_overlays h', hsections, hgives]

theorem parse?_eq_ofEntries? {document : String}
    (hdocument : Toml.parse document = some (.table entries)) :
    parse? document = ofEntries? entries := by
  rw [parse?, hdocument]

theorem parse_eq_ok_iff {document : String} : parse document = .ok s ↔ parse? document = some s := by
  unfold parse
  cases parse? document <;> simp

/-- A document makes settings exactly where everything that stands for a known section can be one,
and what it holds for a known field is of the field's kind. The settings then have what the document
gives for each part, and the stock value where it gives nothing. Documents with the same known
sections make the same settings. -/
theorem parse_overlays_stock {document : String} {root : Value}
    (hdocument : Toml.parse document = some root) :
    ∃ entries, root = .table entries ∧
      ((∃ s, parse document = .ok s) ↔
        (∀ (p : Part) (v : Value), (p.sectionName, v) ∈ entries → v.IsSection) ∧
          ∀ (p : Part) (v : Value), Gives entries p v → p.Admits v) ∧
      (∀ s, parse document = .ok s → ∀ p : Part, (∀ v, Gives entries p v → s.Says p v) ∧
        ((∀ v, ¬Gives entries p v) → s.AgreesAt {} p)) ∧
      ∀ document' entries', Toml.parse document' = some (.table entries') →
        SameSections entries entries' → parse document' = parse document := by
  obtain ⟨entries, rfl⟩ := exists_eq_table_of_parse hdocument
  have hproper := isProper_of_parse hdocument
  refine ⟨entries, rfl, ?_, fun s hs => ?_, fun document' entries' hdocument' hsame => ?_⟩
  · simp only [parse_eq_ok_iff, parse?_eq_ofEntries? hdocument]
    exact exists_ofEntries?_iff hproper
  · rw [parse_eq_ok_iff, parse?_eq_ofEntries? hdocument, ofEntries?_overlays hproper] at hs
    exact hs.2
  · rw [parse, parse, parse?_eq_ofEntries? hdocument, parse?_eq_ofEntries? hdocument',
      hsame.ofEntries?_eq hproper (isProper_of_parse hdocument')]

/-- An array for the limits, and a section in one line. -/
def briefDocument : String :=
  "timeouts = [10, 20]\nrewrite.scope = \"mail\"\n"

/-- The same at length, in another order and with names that are not known. -/
def wordyDocument : String :=
  "note = 07:32:00\n[rewrite]\nscope = \"mail\"\n[timeouts]\nretries = [\"three\"]\n" ++
    "request_secs = 20\nconnect_secs = 10\n"

def briefEntries : List (String × Value) :=
  [("timeouts", .array [.integer 10, .integer 20]), ("rewrite", .table [("scope", .text "mail")])]

/-- The limits of the brief one, each under its name. -/
def namedLimits : List (String × Value) :=
  [("retries", .array [.text "three"]), ("request_secs", .integer 20), ("connect_secs", .integer 10)]

def wordyEntries : List (String × Value) :=
  [("note", .moment "07:32:00"), ("rewrite", .table [("scope", .text "mail")]),
    ("timeouts", .table namedLimits)]

theorem parse_briefDocument : Toml.parse briefDocument = some (.table briefEntries) := by cbv

theorem parse_wordyDocument : Toml.parse wordyDocument = some (.table wordyEntries) := by cbv

theorem sameSections_brief_wordy : SameSections briefEntries wordyEntries := by
  have hlimits {fields : List String} (hlayout : ("timeouts", fields) ∈ layout) :
      SameSection fields (.array [.integer 10, .integer 20]) (.table namedLimits) := by
    obtain rfl : fields = ["connect_secs", "request_secs", "idle_secs", "body_idle_secs"] := by
      simpa [layout] using hlayout
    refine .spelled fun field hfield v => ?_
    change (field, v) ∈ [("connect_secs", .integer 10), ("request_secs", .integer 20)] ↔ _
    simp only [namedLimits, List.mem_cons, List.not_mem_nil, or_false, Prod.mk.injEq] at hfield ⊢
    obtain rfl | rfl | rfl | rfl := hfield <;> simp
  constructor
  · intro name fields hlayout v hv
    simp only [briefEntries, List.mem_cons, List.not_mem_nil, or_false, Prod.mk.injEq] at hv
    obtain ⟨rfl, rfl⟩ | ⟨rfl, rfl⟩ := hv
    · exact ⟨.table namedLimits, by simp [wordyEntries], hlimits hlayout⟩
    · exact ⟨_, by simp [wordyEntries], .refl _⟩
  · intro name fields hlayout v hv
    simp only [wordyEntries, List.mem_cons, List.not_mem_nil, or_false, Prod.mk.injEq] at hv
    obtain ⟨rfl, rfl⟩ | ⟨rfl, rfl⟩ | ⟨rfl, rfl⟩ := hv
    · simp [layout] at hlayout
    · exact ⟨_, by simp [briefEntries], .refl _⟩
    · exact ⟨_, by simp [briefEntries], (hlimits hlayout).symm⟩

/-- The array, the order and the unknown names make no difference. -/
theorem wordyDocument_like_briefDocument :
    Toml.parse briefDocument = some (.table briefEntries) ∧
      Toml.parse wordyDocument = some (.table wordyEntries) ∧
      parse wordyDocument = parse briefDocument ∧
      parse briefDocument = .ok { rule := ⟨"/api/oidc/authorization", ⟨"mail", .token⟩⟩
                                  limits := ⟨10, 20, 90, 60⟩ } := by
  obtain ⟨entries, hentries, -, -, hlike⟩ := parse_overlays_stock parse_briefDocument
  obtain rfl : briefEntries = entries := Value.table.inj hentries
  refine ⟨parse_briefDocument, parse_wordyDocument,
    hlike wordyDocument wordyEntries parse_wordyDocument sameSections_brief_wordy, ?_⟩
  rw [parse_eq_ok_iff, parse?_eq_ofEntries? parse_briefDocument]
  decide +kernel

/-- A moment where a section should be. -/
def momentDocument : String := "timeouts = 1979-05-27T07:32:00Z\n"

def momentEntries : List (String × Value) := [("timeouts", .moment "1979-05-27T07:32:00Z")]

/-- Not only tables and arrays stand for sections: a moment in the place of one changes nothing. -/
theorem momentDocument_makes_settings :
    Toml.parse momentDocument = some (.table momentEntries) ∧
      ¬((∃ s, parse momentDocument = .ok s) ↔
        (∀ (p : Part) (v : Value), (p.sectionName, v) ∈ momentEntries →
          (∃ es, v = .table es) ∨ ∃ items, v = .array items) ∧
        ∀ (p : Part) (v : Value), Gives momentEntries p v → p.Admits v) := by
  have hdocument : Toml.parse momentDocument = some (.table momentEntries) := by cbv
  have hmakes : parse momentDocument = .ok {} := by
    rw [parse_eq_ok_iff, parse?_eq_ofEntries? hdocument]
    decide +kernel
  refine ⟨hdocument, fun hiff => ?_⟩
  obtain ⟨es, hes⟩ | ⟨items, hitems⟩ :=
    (hiff.mp ⟨_, hmakes⟩).1 .connect _ (List.mem_singleton_self _)
  · cases hes
  · cases hitems

end ScopeGateway.Settings
