import ScopeGateway.Proofs.Settings.Conditions

/-!
Every value of settings is checked by itself: whatever becomes of one of them, the faults that tell
of the others stay the same.
-/
namespace ScopeGateway

namespace Settings

/-- The single values that settings consist of. -/
inductive Part where
  | bindAddress
  | backendUrl
  | pathStart
  | token
  | mode
  | healthPath
  | connect
  | request
  | idle
  | bodyIdle
  | logLevel
  | logFormat
  | metricsEnabled
  | metricsAddress
deriving DecidableEq, Repr

/-- Two settings have the same value there. -/
def AgreesAt (s t : Settings) : Part → Prop
  | .bindAddress => s.bindAddress = t.bindAddress
  | .backendUrl => s.backendUrl = t.backendUrl
  | .pathStart => s.rule.pathStart = t.rule.pathStart
  | .token => s.rule.grant.token = t.rule.grant.token
  | .mode => s.rule.grant.mode = t.rule.grant.mode
  | .healthPath => s.healthPath = t.healthPath
  | .connect => s.limits.connect = t.limits.connect
  | .request => s.limits.request = t.limits.request
  | .idle => s.limits.idle = t.limits.idle
  | .bodyIdle => s.limits.bodyIdle = t.limits.bodyIdle
  | .logLevel => s.log.level = t.log.level
  | .logFormat => s.log.format = t.log.format
  | .metricsEnabled => s.metrics.enabled = t.metrics.enabled
  | .metricsAddress => s.metrics.address = t.metrics.address

end Settings

open Settings (Part)

def Setting.part : Setting → Part
  | .bindAddress => .bindAddress
  | .metricsAddress => .metricsAddress
  | .healthPath => .healthPath
  | .pathStart => .pathStart
  | .connect => .connect
  | .request => .request
  | .idle => .idle
  | .bodyIdle => .bodyIdle

/-- The value that a fault tells of. -/
def Fault.part : Fault → Part
  | .notAnAddress setting _ | .relativePath setting _ | .zeroLimit setting => setting.part
  | .unusableBackend _ => .backendUrl
  | .notLiteral _ => .healthPath
  | .notAToken _ => .token

namespace Settings

/-- A value sways the faults that tell of it. Whether the metrics are enabled sways those that tell
of their address. -/
def Part.Sways (p : Part) (f : Fault) : Prop :=
  f.part = p ∨ p = .metricsEnabled ∧ f.part = .metricsAddress

instance (p : Part) (f : Fault) : Decidable (p.Sways f) :=
  inferInstanceAs (Decidable (_ ∨ _))

variable {s t : Settings}

theorem AgreesAt.refl (s : Settings) (p : Part) : s.AgreesAt s p := by
  cases p <;> rfl

theorem AgreesAt.symm {p : Part} (h : s.AgreesAt t p) : t.AgreesAt s p := by
  cases p <;> exact Eq.symm h

theorem AgreesAt.trans {u : Settings} {p : Part} (h : s.AgreesAt t p) (h' : t.AgreesAt u p) :
    s.AgreesAt u p := by
  cases p <;> exact Eq.trans h h'

/-- Settings are their values. -/
theorem eq_of_agreesAt (h : ∀ p : Part, s.AgreesAt t p) : s = t := by
  have hgrant : s.rule.grant = t.rule.grant := (Grant.mk.injEq ..).mpr ⟨h .token, h .mode⟩
  have hrule : s.rule = t.rule := (Rule.mk.injEq ..).mpr ⟨h .pathStart, hgrant⟩
  have hlimits : s.limits = t.limits :=
    (Limits.mk.injEq ..).mpr ⟨h .connect, h .request, h .idle, h .bodyIdle⟩
  have hlog : s.log = t.log := (LogSettings.mk.injEq ..).mpr ⟨h .logLevel, h .logFormat⟩
  have hmetrics : s.metrics = t.metrics :=
    (MetricsSettings.mk.injEq ..).mpr ⟨h .metricsEnabled, h .metricsAddress⟩
  exact (Settings.mk.injEq ..).mpr
    ⟨h .bindAddress, h .backendUrl, hrule, h .healthPath, hlimits, hlog, hmetrics⟩

/-- A condition is broken alike where all that sways its fault is alike. -/
theorem Breaks.of_agreesAt {f : Fault} (hs : s.Breaks f)
    (h : ∀ p : Part, p.Sways f → s.AgreesAt t p) : t.Breaks f := by
  cases hs with
  | bindAddress hparse =>
    have heq : s.bindAddress = t.bindAddress := h .bindAddress (.inl rfl)
    rw [heq] at hparse ⊢
    exact .bindAddress hparse
  | metricsAddress hon hparse =>
    have heq : s.metrics.address = t.metrics.address := h .metricsAddress (.inl rfl)
    have henabled : s.metrics.enabled = t.metrics.enabled := h .metricsEnabled (.inr ⟨rfl, rfl⟩)
    rw [heq] at hparse ⊢
    exact .metricsAddress (henabled ▸ hon) hparse
  | backend hrefuses =>
    have heq : s.backendUrl = t.backendUrl := h .backendUrl (.inl rfl)
    exact .backend (heq ▸ hrefuses)
  | healthPath hrelative =>
    have heq : s.healthPath = t.healthPath := h .healthPath (.inl rfl)
    rw [heq] at hrelative ⊢
    exact .healthPath hrelative
  | literal hliteral =>
    have heq : s.healthPath = t.healthPath := h .healthPath (.inl rfl)
    rw [heq] at hliteral ⊢
    exact .literal hliteral
  | pathStart hrelative =>
    have heq : s.rule.pathStart = t.rule.pathStart := h .pathStart (.inl rfl)
    rw [heq] at hrelative ⊢
    exact .pathStart hrelative
  | token htoken =>
    have heq : s.rule.grant.token = t.rule.grant.token := h .token (.inl rfl)
    rw [heq] at htoken ⊢
    exact .token htoken
  | connect hzero => exact .connect (Eq.trans (h .connect (.inl rfl)).symm hzero)
  | request hzero => exact .request (Eq.trans (h .request (.inl rfl)).symm hzero)
  | idle hzero => exact .idle (Eq.trans (h .idle (.inl rfl)).symm hzero)
  | bodyIdle hzero => exact .bodyIdle (Eq.trans (h .bodyIdle (.inl rfl)).symm hzero)

/-- Faults of which all that sways them is alike are the same faults, in the same order. -/
theorem filter_faults_congr {P : Fault → Bool}
    (h : ∀ f, P f = true → ∀ p : Part, p.Sways f → s.AgreesAt t p) :
    s.faults.filter P = t.faults.filter P := by
  refine Fault.InOrder.eq_of_mem_iff ((inOrder_faults s).pairwise.filter _)
    ((inOrder_faults t).pairwise.filter _) fun f => ?_
  simp only [List.mem_filter, mem_faults_iff]
  constructor
  · rintro ⟨hs, hf⟩
    exact ⟨hs.of_agreesAt (h f hf), hf⟩
  · rintro ⟨ht, hf⟩
    exact ⟨ht.of_agreesAt fun q hq => (h f hf q hq).symm, hf⟩

/-- Where settings differ in one value, the faults that it does not sway are the same. -/
theorem filter_faults_eq {p : Part} (h : ∀ q ≠ p, s.AgreesAt t q) :
    s.faults.filter (¬p.Sways ·) = t.faults.filter (¬p.Sways ·) :=
  filter_faults_congr fun _ hf q hq => h q fun heq => of_decide_eq_true hf (heq ▸ hq)

/-- The faults of settings are the conditions that they break, each once and in a fixed order.
Settings are accepted where they keep every condition, and refused with their faults otherwise.
The faults that one value does not sway are the same whatever it is. -/
theorem faults_are_broken_conditions (s : Settings) :
    (∀ l, l = s.faults ↔
      (∀ f, f ∈ l ↔ s.Breaks f) ∧ l.Pairwise fun a b => a.place < b.place) ∧
    (s.check = .ok () ↔ s.IsSound) ∧
    (∀ e, s.check = .error e ↔ ¬s.IsSound ∧ .faulty s.faults = e) ∧
    ∀ (t : Settings) (p : Part), (∀ q ≠ p, s.AgreesAt t q) →
      s.faults.filter (¬p.Sways ·) = t.faults.filter (¬p.Sways ·) := by
  refine ⟨fun l => eq_faults_iff, ?_, fun e => ?_, fun t p h => filter_faults_eq h⟩
  · rw [check_eq_ok_iff, isSound_iff_faults]
  · rw [check_eq_error_iff, isSound_iff_faults]

/-- Settings that break every condition. -/
def brokenSettings : Settings :=
  { bindAddress := "localhost"
    backendUrl := "https://[::1]?a"
    rule := ⟨"api", ⟨"a b", .token⟩⟩
    healthPath := "live*"
    limits := ⟨0, 0, 0, 0⟩
    metrics := ⟨true, "9090"⟩ }

/-- With the metrics disabled, the fault of their address goes and the others stay. -/
theorem faults_of_brokenSettings :
    (∀ q ≠ Part.metricsEnabled,
      brokenSettings.AgreesAt { brokenSettings with metrics := ⟨false, "9090"⟩ } q) ∧
    brokenSettings.faults.length = 11 ∧
    ({ brokenSettings with metrics := ⟨false, "9090"⟩ } : Settings).faults.filter
        (¬Part.metricsEnabled.Sways ·) =
      [.notAnAddress .bindAddress "localhost", .unusableBackend (.unsupportedScheme "https"),
        .relativePath .healthPath "live*", .notLiteral "live*", .relativePath .pathStart "api",
        .notAToken "a b", .zeroLimit .connect, .zeroLimit .request, .zeroLimit .idle,
        .zeroLimit .bodyIdle] := by
  have hagrees : ∀ q ≠ Part.metricsEnabled,
      brokenSettings.AgreesAt { brokenSettings with metrics := ⟨false, "9090"⟩ } q := by
    intro q hq
    cases q <;> first | rfl | exact absurd rfl hq
  have hfaults := (faults_are_broken_conditions brokenSettings).2.2.2 _ _ hagrees
  refine ⟨hagrees, by decide +kernel, hfaults.symm.trans ?_⟩
  decide +kernel

end Settings

end ScopeGateway
