import ScopeGateway.Gateway.Basic
import ScopeGateway.Proofs.Gateway.Target
import ScopeGateway.Proofs.Scope.Amendment
import ScopeGateway.Proofs.Settings.Faults

/-!
The request for the backend: settings without faults name the backend, and both the request's own
query and the amended one may stand in its address.
-/
namespace ScopeGateway

open Http Text

/-- A written query needs no escape in a URI. -/
theorem isQueryChar_of_mem_render {params : List Form.Param} {c : Char}
    (h : c ∈ (Form.render params).toList) : Uri.isQueryChar c = true := by
  -- the alphabet is finite, so it is enough to look at each of its characters
  have hascii : ∀ n < 0x80, (Form.isFormChar (Char.ofNat n) = true ∨ Char.ofNat n = '=' ∨
      Char.ofNat n = '&') → Uri.isQueryChar (Char.ofNat n) = true := by decide +kernel
  obtain ⟨hform, hsmall⟩ := Form.mem_render h
  rw [← Char.ofNat_toNat c] at hform ⊢
  exact hascii _ hsmall hform

namespace Rule

variable {r : Rule} {uri : Uri} {amended : String}

/-- The rule amends this request: its path starts as the rule says, and its query decodes without
loss to parameters whose first scope value lacks the token. -/
def Qualifies (r : Rule) (uri : Uri) : Prop :=
  r.pathStart.toList <+: uri.path.toList ∧ ∃ query, uri.query = some query ∧ r.grant.Amends query

theorem amend_eq_injected_iff : r.amend uri = .injected amended ↔
    r.pathStart.toList <+: uri.path.toList ∧
      ∃ query, uri.query = some query ∧ r.grant.amend query = .injected amended := by
  unfold amend Uri.startsWith
  rw [← List.isPrefixOf_iff_prefix]
  split_ifs with hstart
  · cases uri.query <;> simp [hstart]
  · simp [hstart]

theorem exists_amend_eq_injected : (∃ amended, r.amend uri = .injected amended) ↔
    r.Qualifies uri := by
  simp only [amend_eq_injected_iff, Qualifies, ← Grant.exists_amend_eq_injected_iff]
  tauto

theorem queryFor_of_injected (h : r.amend uri = .injected amended) :
    r.queryFor uri = some amended := by
  rw [queryFor, h]

theorem queryFor_of_not_qualifies (h : ¬r.Qualifies uri) : r.queryFor uri = uri.query := by
  rw [← exists_amend_eq_injected, not_exists] at h
  unfold queryFor
  split
  · exact absurd ‹_› (h _)
  · rfl
  · rfl

theorem queryFor_of_none (h : uri.query = none) : r.queryFor uri = none := by
  rw [queryFor_of_not_qualifies, h]
  rintro ⟨-, query, hquery, -⟩
  rw [h] at hquery
  cases hquery

/-- Whatever becomes of the query, it may stand in a URI. -/
theorem isWritten_queryFor (r : Rule) (h : uri.IsWritten) :
    ∀ q ∈ r.queryFor uri, ∀ c ∈ q.toList, Uri.isQueryChar c = true := by
  by_cases hq : r.Qualifies uri
  · obtain ⟨amended, hamend⟩ := exists_amend_eq_injected.mpr hq
    rw [queryFor_of_injected hamend]
    intro q hmem c hc
    obtain rfl := Option.some.inj hmem
    obtain ⟨-, query, -, hinjected⟩ := amend_eq_injected_iff.mp hamend
    obtain ⟨-, _, -, -, rfl⟩ := Grant.amend_eq_injected_iff.mp hinjected
    exact isQueryChar_of_mem_render hc
  · rw [queryFor_of_not_qualifies hq]
    exact h.2

end Rule

/-- Settings without faults make a gateway that goes by them. -/
theorem Gateway.exists_ofSettings {s : Settings} (h : s.check = .ok ()) :
    ∃ b, Backend.parse s.backendUrl = .ok b ∧
      Gateway.ofSettings s = .ok ⟨b, s.rule, s.healthPath, s.limits⟩ := by
  cases hb : Backend.parse s.backendUrl with
  | ok b => exact ⟨b, rfl, by simp [ofSettings, h, hb, bind, Except.bind, pure, Except.pure]⟩
  | error e =>
    have hfault : .unusableBackend e ∈ s.faults := by
      simp [Settings.faults, mem_faultsOfBackend, hb]
    rw [Settings.check_eq_ok_iff.mp h] at hfault
    cases hfault

/-- The request with its new address and headers, unless the address is too long. -/
theorem Forwarding.request_eq {f : Forwarding} {r : Request} {url : String}
    (hb : Backend.parse url = .ok f.backend) (hr : r.uri.IsWritten)
    (hq : ∀ q ∈ f.query, ∀ c ∈ q.toList, Uri.isQueryChar c = true) :
    f.request r =
      if Utf8.size (f.backend.resource r.uri.path f.query).render ≤ Uri.maxSize then
        .ok { r with
          uri := f.backend.addressOf r.uri.path f.query
          headers := f.headers r.headersWithHost }
      else .error .tooLong := by
  unfold request
  rw [Backend.target_eq hb hr.1 hq]
  split_ifs <;> rfl

end ScopeGateway
