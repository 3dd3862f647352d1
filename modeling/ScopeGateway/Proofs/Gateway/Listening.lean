import ScopeGateway.CommandLine.Run
import ScopeGateway.Proofs.Gateway.Forwarding
import ScopeGateway.Proofs.Settings.Conditions
import ScopeGateway.Proofs.Text.Split

/-!
How a start ends. It looks at the same settings as the check, in another order and one by one: first
at the metrics' address, then at the address for requests, and only then at all faults together. At
last it lays out the routes, and there it minds something that the check does not.
-/
namespace ScopeGateway

open Net

/-- A path is laid out unless one of its segments begins with a mark. -/
theorem isRoutable_iff {path : String} (h : path.toList.head? = some '/') :
    isRoutable path = true ↔ ∀ c, isCaptureMark c = true → ¬['/', c] <:+: path.toList := by
  have hmark {c : Char} (hc : isCaptureMark c = true) : c ≠ '/' := by
    rintro rfl
    cases hc
  have hfirst : (Text.splitOn (· == '/') path.toList).all (!·.head?.any isCaptureMark) =
      (Text.splitOn (· == '/') path.toList).tail.all (!·.head?.any isCaptureMark) := by
    obtain ⟨rest, hrest⟩ := List.head?_eq_some_iff.mp h
    rw [hrest, Text.splitOn, if_pos (beq_self_eq_true _)]
    rfl
  rw [isRoutable, hfirst, List.all_eq_true]
  constructor
  · intro hall c hc hpair
    obtain ⟨w, hw, hhead⟩ := (Text.exists_mem_tail_splitOn_iff (hmark hc) _).mpr hpair
    simpa [hhead, hc] using hall w hw
  · intro hno w hw
    rw [Bool.not_eq_true', ← Bool.not_eq_true, Option.any_eq_true]
    rintro ⟨c, hhead, hc⟩
    exact hno c hc ((Text.exists_mem_tail_splitOn_iff (hmark hc) _).mp ⟨w, hw, hhead⟩)

namespace Settings

variable {s : Settings} {inUse : SocketAddress → Bool}

/-- Some segment of the health path begins with a colon. -/
def HasColonSegment (s : Settings) : Prop := ['/', ':'] <:+: s.healthPath.toList

/-- Of the two marks the check lets the colon pass. -/
theorem isRoutable_iff_of_check (h : s.check = .ok ()) :
    isRoutable s.healthPath = true ↔ ¬s.HasColonSegment := by
  have hsound := isSound_iff_faults.mpr (check_eq_ok_iff.mp h)
  rw [isRoutable_iff hsound.healthPath]
  refine ⟨fun hno => hno ':' rfl, fun hno c hc hpair => ?_⟩
  rw [isCaptureMark, Bool.or_eq_true, beq_iff_eq, beq_iff_eq] at hc
  obtain rfl | rfl := hc
  · exact hno hpair
  · exact hsound.literal.2.2.2 (hpair.subset (by simp))

/-- The metrics can be served where the settings want them to be. -/
def Installs (s : Settings) (inUse : SocketAddress → Bool) : Prop :=
  ∀ a, s.metrics.enabled = true → SocketAddress.parse s.metrics.address = some a → inUse a = false

/-- The start gets as far as binding the address: it succeeds unless that is in use, be it by the
metrics. -/
def Binds (s : Settings) (inUse : SocketAddress → Bool) (a : SocketAddress) : Prop :=
  ∃ listening : Listening, listening.requests = a ∧
    s.start inUse =
      if inUseBeside listening.metrics inUse a then .error (.busy a) else .ok listening

theorem startMetrics_of_fault
    (h : .notAnAddress .metricsAddress s.metrics.address ∈ s.faults) :
    s.startMetrics inUse = .error (.notAnAddress s.metrics.address) := by
  obtain ⟨hsetting, -⟩ | ⟨-, -, henabled, hparse⟩ := notAnAddress_mem_faults_iff.mp h
  · cases hsetting
  · rw [startMetrics, if_pos henabled, addressOf, hparse]
    rfl

/-- Where the metrics' address is one, only its use by another can be in the way. -/
theorem startMetrics_cases (inUse : SocketAddress → Bool)
    (h : .notAnAddress .metricsAddress s.metrics.address ∉ s.faults) :
    (∃ metrics, s.startMetrics inUse = .ok metrics) ∨
      s.startMetrics inUse = .error .metricsBusy ∧ ¬s.Installs inUse := by
  unfold startMetrics
  cases henabled : s.metrics.enabled with
  | false => exact .inl ⟨none, rfl⟩
  | true =>
    cases hparse : SocketAddress.parse s.metrics.address with
    | none => exact absurd (notAnAddress_mem_faults_iff.mpr (.inr ⟨rfl, rfl, henabled, hparse⟩)) h
    | some a =>
      have haddress : addressOf s.metrics.address = .ok a := by rw [addressOf, hparse]
      rw [if_pos rfl, bind_of_ok haddress]
      cases huse : inUse a with
      | false => exact .inl ⟨some a, rfl⟩
      | true =>
        refine .inr ⟨rfl, fun hinstalls => ?_⟩
        rw [hinstalls a henabled hparse] at huse
        cases huse

theorem startServing_of_fault (h : .notAnAddress .bindAddress s.bindAddress ∈ s.faults) :
    s.startServing inUse = .error (.notAnAddress s.bindAddress) := by
  obtain ⟨-, -, hparse⟩ | ⟨hsetting, -⟩ := notAnAddress_mem_faults_iff.mp h
  · rw [startServing, addressOf, hparse]
    rfl
  · cases hsetting

theorem exists_addressOf (h : .notAnAddress .bindAddress s.bindAddress ∉ s.faults) :
    ∃ a, SocketAddress.parse s.bindAddress = some a ∧ addressOf s.bindAddress = .ok a := by
  cases hparse : SocketAddress.parse s.bindAddress with
  | none => exact absurd (notAnAddress_mem_faults_iff.mpr (.inl ⟨rfl, rfl, hparse⟩)) h
  | some a => exact ⟨a, rfl, by rw [addressOf, hparse]⟩

theorem startServing_of_check_error {e : SettingsError} (h : s.check = .error e)
    (hbind : .notAnAddress .bindAddress s.bindAddress ∉ s.faults) :
    s.startServing inUse = .error (.settings e) := by
  obtain ⟨a, -, ha⟩ := exists_addressOf hbind
  have hg : Gateway.ofSettings s = .error e := bind_of_error h
  rw [startServing, bind_of_ok ha, hg]
  rfl

theorem startServing_of_check (inUse : SocketAddress → Bool) (h : s.check = .ok ()) :
    ∃ a g, SocketAddress.parse s.bindAddress = some a ∧
      s.startServing inUse =
        if isRoutable s.healthPath then if inUse a then .error (.busy a) else .ok (a, g)
        else .error (.unroutable s.healthPath) := by
  obtain ⟨a, hparse, ha⟩ := exists_addressOf (not_mem_faults h _)
  obtain ⟨b, -, hg⟩ := Gateway.exists_ofSettings h
  refine ⟨a, ⟨b, s.rule, s.healthPath, s.limits⟩, hparse, ?_⟩
  rw [startServing, bind_of_ok ha, hg]
  cases isRoutable s.healthPath with
  | false => rfl
  | true =>
    cases inUse a with
    | false => rfl
    | true => rfl

/-- A start ends at the metrics' address, or else at the address for requests, or else at the faults
that are left, or else at the health path, or else it binds. -/
theorem start_cases (h : s.Installs inUse) :
    (.notAnAddress .metricsAddress s.metrics.address ∈ s.faults ∧
      s.start inUse = .error (.notAnAddress s.metrics.address)) ∨
    (.notAnAddress .metricsAddress s.metrics.address ∉ s.faults ∧
      .notAnAddress .bindAddress s.bindAddress ∈ s.faults ∧
      s.start inUse = .error (.notAnAddress s.bindAddress)) ∨
    (.notAnAddress .metricsAddress s.metrics.address ∉ s.faults ∧
      .notAnAddress .bindAddress s.bindAddress ∉ s.faults ∧
      ∃ e, s.check = .error e ∧ s.start inUse = .error (.settings e)) ∨
    (s.check = .ok () ∧ s.HasColonSegment ∧
      s.start inUse = .error (.unroutable s.healthPath)) ∨
    (s.check = .ok () ∧ ¬s.HasColonSegment ∧
      ∃ a, SocketAddress.parse s.bindAddress = some a ∧ s.Binds inUse a) := by
  by_cases hm : .notAnAddress .metricsAddress s.metrics.address ∈ s.faults
  · exact .inl ⟨hm, bind_of_error (startMetrics_of_fault hm)⟩
  obtain ⟨metrics, hmetrics⟩ := (startMetrics_cases inUse hm).resolve_right fun hbusy => hbusy.2 h
  have hstart : s.start inUse = _ := bind_of_ok hmetrics
  by_cases hb : .notAnAddress .bindAddress s.bindAddress ∈ s.faults
  · exact .inr (.inl ⟨hm, hb, hstart.trans (bind_of_error (startServing_of_fault hb))⟩)
  cases hcheck : s.check with
  | error e =>
    refine .inr (.inr (.inl ⟨hm, hb, e, rfl, ?_⟩))
    exact hstart.trans (bind_of_error (startServing_of_check_error hcheck hb))
  | ok u =>
    obtain ⟨a, g, ha, hserving⟩ := startServing_of_check (inUseBeside metrics inUse) hcheck
    by_cases hcolon : s.HasColonSegment
    · refine .inr (.inr (.inr (.inl ⟨rfl, hcolon, hstart.trans (bind_of_error ?_)⟩)))
      rw [hserving, if_neg]
      exact fun hroutable => (isRoutable_iff_of_check hcheck).mp hroutable hcolon
    · refine .inr (.inr (.inr (.inr ⟨rfl, hcolon, a, ha, ⟨metrics, a, g⟩, rfl, ?_⟩)))
      rw [hstart, hserving, if_pos ((isRoutable_iff_of_check hcheck).mpr hcolon)]
      cases inUseBeside metrics inUse a with
      | false => rfl
      | true => rfl

theorem Binds.start_eq {a : SocketAddress} (h : s.Binds inUse a) :
    s.start inUse = .error (.busy a) ∨
      ∃ listening, s.start inUse = .ok listening ∧ listening.requests = a := by
  obtain ⟨listening, hrequests, hstart⟩ := h
  rw [hstart]
  cases inUseBeside listening.metrics inUse a with
  | false => exact .inr ⟨listening, rfl, hrequests⟩
  | true => exact .inl rfl

theorem Binds.eq_busy {a : SocketAddress} (h : s.Binds inUse a) {e : StartError}
    (he : s.start inUse = .error e) : e = .busy a := by
  obtain hbusy | ⟨listening, hok, -⟩ := h.start_eq
  · exact Except.error.inj (he.symm.trans hbusy)
  · cases he.symm.trans hok

theorem Binds.unique {a a' : SocketAddress} (h : s.Binds inUse a) (h' : s.Binds inUse a') :
    a = a' := by
  obtain hbusy | ⟨listening, hok, rfl⟩ := h.start_eq
  · exact StartError.busy.inj (h'.eq_busy hbusy)
  · obtain hbusy' | ⟨listening', hok', rfl⟩ := h'.start_eq
    · cases hok.symm.trans hbusy'
    · rw [Except.ok.inj (hok.symm.trans hok')]

theorem start_eq_notAnAddress_iff (h : s.Installs inUse) {raw : String} :
    s.start inUse = .error (.notAnAddress raw) ↔
      (∃ setting value, .notAnAddress setting value ∈ s.faults) ∧
      raw = if .notAnAddress .metricsAddress s.metrics.address ∈ s.faults then s.metrics.address
        else s.bindAddress := by
  rw [exists_notAnAddress_mem_faults_iff]
  obtain ⟨hm, hstart⟩ | ⟨hm, hb, hstart⟩ | ⟨hm, hb, e, -, hstart⟩ | ⟨hcheck, -, hstart⟩ |
    ⟨hcheck, -, a, -, hbinds⟩ := start_cases h
  · simp [hstart, hm, eq_comm]
  · simp [hstart, hm, hb, eq_comm]
  · simp [hstart, hm, hb]
  · simp [hstart, check_eq_ok_iff.mp hcheck]
  · refine iff_of_false (fun hstart => ?_) (by simp [check_eq_ok_iff.mp hcheck])
    cases hbinds.eq_busy hstart

theorem start_eq_settings_iff (h : s.Installs inUse) {e : SettingsError} :
    s.start inUse = .error (.settings e) ↔
      s.check = .error e ∧ ∀ setting value, .notAnAddress setting value ∉ s.faults := by
  simp only [← not_exists, exists_notAnAddress_mem_faults_iff]
  obtain ⟨hm, hstart⟩ | ⟨hm, hb, hstart⟩ | ⟨hm, hb, e', hcheck, hstart⟩ | ⟨hcheck, -, hstart⟩ |
    ⟨hcheck, -, a, -, hbinds⟩ := start_cases h
  · simp [hstart, hm]
  · simp [hstart, hb]
  · simp [hstart, hcheck, hm, hb]
  · simp [hstart, hcheck]
  · refine iff_of_false (fun hstart => ?_) (by simp [hcheck])
    cases hbinds.eq_busy hstart

theorem start_eq_unroutable_iff (h : s.Installs inUse) {path : String} :
    s.start inUse = .error (.unroutable path) ↔
      path = s.healthPath ∧ s.check = .ok () ∧ s.HasColonSegment := by
  obtain ⟨hm, hstart⟩ | ⟨-, hb, hstart⟩ | ⟨-, -, e, hcheck, hstart⟩ | ⟨hcheck, hcolon, hstart⟩ |
    ⟨-, hcolon, a, -, hbinds⟩ := start_cases h
  · exact iff_of_false (by simp [hstart]) fun hok => not_mem_faults hok.2.1 _ hm
  · exact iff_of_false (by simp [hstart]) fun hok => not_mem_faults hok.2.1 _ hb
  · simp [hstart, hcheck]
  · simp [hstart, hcheck, hcolon, eq_comm]
  · refine iff_of_false (fun hstart => ?_) fun hok => hcolon hok.2.2
    cases hbinds.eq_busy hstart

theorem binds_iff (h : s.Installs inUse) {a : SocketAddress} :
    s.Binds inUse a ↔
      s.check = .ok () ∧ ¬s.HasColonSegment ∧ SocketAddress.parse s.bindAddress = some a := by
  have hends {e : StartError} (hstart : s.start inUse = .error e) (hfree : e ≠ .busy a) :
      ¬s.Binds inUse a := fun hbinds => hfree (hbinds.eq_busy hstart)
  obtain ⟨hm, hstart⟩ | ⟨-, hb, hstart⟩ | ⟨-, -, e, hcheck, hstart⟩ | ⟨-, hcolon, hstart⟩ |
    ⟨hcheck, hcolon, a', ha', hbinds'⟩ := start_cases h
  · exact iff_of_false (hends hstart nofun) fun hok => not_mem_faults hok.1 _ hm
  · exact iff_of_false (hends hstart nofun) fun hok => not_mem_faults hok.1 _ hb
  · exact iff_of_false (hends hstart nofun) fun hok => nomatch hok.1.symm.trans hcheck
  · exact iff_of_false (hends hstart nofun) fun hok => hok.2.1 hcolon
  · constructor
    · intro hbinds
      exact ⟨hcheck, hcolon, hbinds.unique hbinds' ▸ ha'⟩
    · rintro ⟨-, -, ha⟩
      exact Option.some.inj (ha.symm.trans ha') ▸ hbinds'

/-- Requests are not served where the metrics are. -/
example :
    let s : Settings :=
      { backendUrl := "http://[::1]:9091", bindAddress := "[::]:80", metrics := ⟨true, "[::]:80"⟩ }
    s.start (fun _ => false) = .error (.busy ⟨.v6 (Vector.replicate 8 0), 80, 0⟩) := by
  decide +kernel

/-- Once the settings have passed, nothing but an address in use or the health path stops a start. -/
theorem start_error_of_check (h : s.check = .ok ()) {e : StartError}
    (he : s.start inUse = .error e) :
    e = .metricsBusy ∨ (∃ a, e = .busy a) ∨ e = .unroutable s.healthPath ∧ s.HasColonSegment := by
  obtain ⟨metrics, hmetrics⟩ | ⟨hbusy, -⟩ :=
    startMetrics_cases inUse (not_mem_faults h _)
  · obtain ⟨a, g, -, hserving⟩ := startServing_of_check (inUseBeside metrics inUse) h
    rw [start, bind_of_ok hmetrics, hserving] at he
    split_ifs at he with hroutable huse
    · exact .inr (.inl ⟨a, (Except.error.inj he).symm⟩)
    · cases he
    · refine .inr (.inr ⟨(Except.error.inj he).symm, Classical.not_not.mp fun hno => ?_⟩)
      exact hroutable ((isRoutable_iff_of_check h).mpr hno)
  · rw [start, bind_of_error hbusy] at he
    exact .inl (Except.error.inj he).symm

end Settings

/-- A run that serves has the errors of a start. -/
theorem CommandLine.error_serveUntilSignal {s : Settings} {around : Surroundings}
    {early : List Event} {e : StartError} :
    (serveUntilSignal s around early).error = some e ↔ s.start around.inUse = .error e := by
  unfold serveUntilSignal Settings.start
  cases s.startMetrics around.inUse with
  | error e' => simp [bind, Except.bind]
  | ok metrics =>
    simp only [bind, Except.bind]
    cases s.startServing (inUseBeside metrics around.inUse) with
    | error e' => simp
    | ok served => simp [pure, Except.pure]

namespace Settings

/-- A start and the check agree, though they look at the addresses in another order, but for one
thing. If an address is none, the start ends there, at the metrics' address before the other one. If
there are only other faults, it ends with all of them, in their order. Settings without faults name
a backend and make a gateway, and the start comes to bind the address for requests; but if a segment
of the health path begins with a colon, it breaks off before that. So after the check a run of the
program can only find an address in use or break off. -/
theorem start_agrees_unless_unroutable (s : Settings) (inUse : SocketAddress → Bool)
    (h : s.Installs inUse) :
    (∀ raw, s.start inUse = .error (.notAnAddress raw) ↔
      (∃ setting value, .notAnAddress setting value ∈ s.faults) ∧
      raw = if .notAnAddress .metricsAddress s.metrics.address ∈ s.faults then s.metrics.address
        else s.bindAddress) ∧
    (∀ e, s.start inUse = .error (.settings e) ↔ ∃ faults, e = .faulty faults ∧
      s.check = .error (.faulty faults) ∧
      ∀ setting value, .notAnAddress setting value ∉ faults) ∧
    (∀ path, s.start inUse = .error (.unroutable path) ↔
      path = s.healthPath ∧ s.check = .ok () ∧ s.HasColonSegment) ∧
    ((∃ a, s.Binds inUse a) ↔ s.check = .ok () ∧ ¬s.HasColonSegment) ∧
    (∀ a, s.Binds inUse a → SocketAddress.parse s.bindAddress = some a) ∧
    (s.check = .ok () →
      (∃ b, Backend.parse s.backendUrl = .ok b ∧
        Gateway.ofSettings s = .ok ⟨b, s.rule, s.healthPath, s.limits⟩) ∧
      ∀ (around : CommandLine.Surroundings) (e : StartError),
        (CommandLine.runWith s false around).error = some e →
          e = .metricsBusy ∨ (∃ a, e = .busy a) ∨
            e = .unroutable s.healthPath ∧ s.HasColonSegment) := by
  refine ⟨fun raw => start_eq_notAnAddress_iff h, fun e => ?_,
    fun path => start_eq_unroutable_iff h, ?_, fun a hbinds => ((binds_iff h).mp hbinds).2.2,
    fun hcheck => ⟨Gateway.exists_ofSettings hcheck, fun around e he => ?_⟩⟩
  · rw [start_eq_settings_iff h]
    constructor
    · rintro ⟨hcheck, hnone⟩
      obtain ⟨-, rfl⟩ := check_eq_error_iff.mp hcheck
      exact ⟨_, rfl, hcheck, hnone⟩
    · rintro ⟨faults, rfl, hcheck, hnone⟩
      obtain ⟨-, heq⟩ := check_eq_error_iff.mp hcheck
      exact ⟨hcheck, SettingsError.faulty.inj heq ▸ hnone⟩
  · constructor
    · rintro ⟨a, hbinds⟩
      obtain ⟨hcheck, hcolon, -⟩ := (binds_iff h).mp hbinds
      exact ⟨hcheck, hcolon⟩
    · rintro ⟨hcheck, hcolon⟩
      obtain ⟨a, ha, -⟩ := exists_addressOf (not_mem_faults hcheck _)
      exact ⟨a, (binds_iff h).mpr ⟨hcheck, hcolon, ha⟩⟩
  · rw [CommandLine.runWith, hcheck] at he
    exact start_error_of_check hcheck (CommandLine.error_serveUntilSignal.mp he)

/-- Settings with two addresses that are none and a health path without a slash. -/
def misaddressed : Settings :=
  { bindAddress := "localhost", backendUrl := "http://[::1]:9091", healthPath := "health"
    metrics := ⟨true, "9090"⟩ }

/-- The same with an address to listen on, and without metrics. -/
def halfRepaired : Settings := { misaddressed with bindAddress := "[::]:80", metrics := {} }

theorem faults_misaddressed : misaddressed.faults =
    [.notAnAddress .bindAddress "localhost", .notAnAddress .metricsAddress "9090",
      .relativePath .healthPath "health"] := by
  decide +kernel

theorem faults_halfRepaired : halfRepaired.faults = [.relativePath .healthPath "health"] := by
  decide +kernel

/-- A health path as it stood for any name once. -/
def probing : Settings := { backendUrl := "http://[::1]:9091", healthPath := "/:probe" }

theorem check_probing : probing.check = .ok () := check_eq_ok_iff.mpr (by decide +kernel)

theorem installs_of_free (s : Settings) : s.Installs fun _ => false := fun _ _ _ => rfl

/-- The check names the address for requests first, and the start the metrics' address. What is left
of the faults is the same for both, and a start may break off where there are none. -/
theorem start_misaddressed :
    misaddressed.Installs (fun _ => false) ∧
      misaddressed.check = .error (.faulty
        [.notAnAddress .bindAddress "localhost", .notAnAddress .metricsAddress "9090",
          .relativePath .healthPath "health"]) ∧
      misaddressed.start (fun _ => false) = .error (.notAnAddress "9090") ∧
      halfRepaired.start (fun _ => false) =
        .error (.settings (.faulty [.relativePath .healthPath "health"])) ∧
      probing.start (fun _ => false) = .error (.unroutable "/:probe") := by
  have hcheck : misaddressed.check = .error (.faulty misaddressed.faults) :=
    check_eq_error_iff.mpr ⟨by simp [faults_misaddressed], rfl⟩
  have hhalf : halfRepaired.check = .error (.faulty halfRepaired.faults) :=
    check_eq_error_iff.mpr ⟨by simp [faults_halfRepaired], rfl⟩
  rw [faults_misaddressed] at hcheck
  rw [faults_halfRepaired] at hhalf
  obtain ⟨haddress, -⟩ := start_agrees_unless_unroutable misaddressed _ (installs_of_free _)
  obtain ⟨-, hsettings, -⟩ := start_agrees_unless_unroutable halfRepaired _ (installs_of_free _)
  obtain ⟨-, -, hunroutable, -⟩ := start_agrees_unless_unroutable probing _ (installs_of_free _)
  refine ⟨installs_of_free _, hcheck, (haddress _).mpr ⟨⟨.bindAddress, "localhost", ?_⟩, ?_⟩,
    (hsettings _).mpr ⟨_, rfl, hhalf, by simp⟩,
    (hunroutable _).mpr ⟨rfl, check_probing, [], "probe".toList, by decide⟩⟩
  · simp [faults_misaddressed]
  · rw [faults_misaddressed]
    decide +kernel

/-- Settings that pass the check and are never bound. -/
theorem not_always_bound_after_check :
    ¬∀ (s : Settings) (inUse : SocketAddress → Bool),
      s.Installs inUse → s.check = .ok () → ∃ a, s.Binds inUse a := by
  intro hbound
  obtain ⟨a, hbinds⟩ := hbound probing _ (installs_of_free _) check_probing
  have hcolon := ((binds_iff (installs_of_free _)).mp hbinds).2.1
  exact hcolon ⟨[], "probe".toList, by decide⟩

end Settings

end ScopeGateway
