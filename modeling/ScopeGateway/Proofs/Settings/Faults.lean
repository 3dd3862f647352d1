import ScopeGateway.Settings.Load

/-!
Which faults settings have.
-/
namespace ScopeGateway

theorem isToken_iff {token : String} :
    isToken token = true ↔ token.toList ≠ [] ∧ ∀ c ∈ token.toList, Text.isBlank c = false := by
  simp [isToken, String.toList_eq_nil_iff]

theorem mem_faultsOfBackend {url : String} {f : Fault} :
    f ∈ faultsOfBackend url ↔ ∃ e, Backend.parse url = .error e ∧ f = .unusableBackend e := by
  unfold faultsOfBackend
  cases Backend.parse url <;> simp

theorem mem_faultsOfAddress {setting : Setting} {value : String} {f : Fault} :
    f ∈ faultsOfAddress setting value ↔
      f = .notAnAddress setting value ∧ Net.SocketAddress.parse value = none := by
  unfold faultsOfAddress Net.isSocketAddress
  cases Net.SocketAddress.parse value <;> simp

namespace Settings

variable {s : Settings}

theorem notAToken_mem_faults_iff :
    .notAToken s.rule.grant.token ∈ s.faults ↔ isToken s.rule.grant.token = false := by
  simp [faults, mem_faultsOfBackend, faultsOfAddress, faultsOfPath, faultsOfLiteral, faultsOfToken,
    faultsOfLimit, List.mem_ite_nil_left, List.mem_ite_nil_right]

/-- Two settings may lack an address: the one to listen on, and the metrics' if they are enabled. -/
theorem notAnAddress_mem_faults_iff {setting : Setting} {value : String} :
    .notAnAddress setting value ∈ s.faults ↔
      (setting = .bindAddress ∧ value = s.bindAddress ∧
        Net.SocketAddress.parse s.bindAddress = none) ∨
      (setting = .metricsAddress ∧ value = s.metrics.address ∧ s.metrics.enabled = true ∧
        Net.SocketAddress.parse s.metrics.address = none) := by
  simp only [faults, List.mem_append, mem_faultsOfAddress, mem_faultsOfBackend, faultsOfPath,
    faultsOfLiteral, faultsOfToken, faultsOfLimit, List.mem_ite_nil_left, List.mem_ite_nil_right,
    List.mem_singleton, Fault.notAnAddress.injEq, reduceCtorEq, and_false, exists_false, or_false,
    and_assoc, and_left_comm]

theorem exists_notAnAddress_mem_faults_iff :
    (∃ setting value, .notAnAddress setting value ∈ s.faults) ↔
      .notAnAddress .metricsAddress s.metrics.address ∈ s.faults ∨
        .notAnAddress .bindAddress s.bindAddress ∈ s.faults := by
  constructor
  · rintro ⟨setting, value, hmem⟩
    obtain ⟨rfl, rfl, -⟩ | ⟨rfl, rfl, -⟩ := notAnAddress_mem_faults_iff.mp hmem
    · exact .inr hmem
    · exact .inl hmem
  · rintro (hmem | hmem)
    · exact ⟨_, _, hmem⟩
    · exact ⟨_, _, hmem⟩

theorem check_eq_ok_iff : s.check = .ok () ↔ s.faults = [] := by
  simp [check]

theorem not_mem_faults (h : s.check = .ok ()) (f : Fault) : f ∉ s.faults := by
  rw [check_eq_ok_iff.mp h]
  exact List.not_mem_nil

theorem check_eq_error_iff {e : SettingsError} :
    s.check = .error e ↔ s.faults ≠ [] ∧ .faulty s.faults = e := by
  unfold check
  cases s.faults <;> simp

/-- The tokens of settings without faults are those with something in them and no blank. -/
theorem exists_check_iff {token : String} :
    (∃ s : Settings, s.check = .ok () ∧ s.rule.grant.token = token) ↔ isToken token = true := by
  constructor
  · rintro ⟨s, hs, rfl⟩
    rw [← Bool.not_eq_false, ← notAToken_mem_faults_iff, check_eq_ok_iff.mp hs]
    exact List.not_mem_nil
  · intro htoken
    have hbackend : faultsOfBackend "http://[::1]:9091" = [] := by decide +kernel
    have haddress : faultsOfAddress .bindAddress "0.0.0.0:8080" = [] := by decide +kernel
    refine ⟨{ backendUrl := "http://[::1]:9091", rule := ⟨"/", ⟨token, .token⟩⟩ },
      check_eq_ok_iff.mpr ?_, rfl⟩
    simp only [faults, hbackend, haddress, faultsOfToken, htoken, if_true]
    rfl

theorem limits_pos (h : s.check = .ok ()) :
    0 < s.limits.connect ∧ 0 < s.limits.request ∧ 0 < s.limits.idle ∧ 0 < s.limits.bodyIdle := by
  have hpos {setting : Setting} {seconds : Nat} (h : faultsOfLimit setting seconds = []) :
      0 < seconds := by
    unfold faultsOfLimit at h
    split at h
    · cases h
    · omega
  rw [check_eq_ok_iff] at h
  simp only [faults, List.append_eq_nil_iff] at h
  obtain ⟨⟨⟨⟨-, hconnect⟩, hrequest⟩, hidle⟩, hbodyIdle⟩ := h
  exact ⟨hpos hconnect, hpos hrequest, hpos hidle, hpos hbodyIdle⟩

end Settings

end ScopeGateway
