import ScopeGateway.Proofs.Gateway.Switch
import ScopeGateway.Proofs.Http.UriForms

/-!
Who answers a request. The backend does where the target has a path, unless that is the health path.
A target without a path leads nowhere.
-/
namespace ScopeGateway.Gateway

open Http

variable {g : Gateway} {e : Exchange}

theorem handle_of_health (h : e.request.uri.path = g.healthPath) :
    g.handle e = { answer := .ofResponse e.request.method (.plain 200 "OK") } := by
  rw [handle, route, if_pos h]
  rfl

theorem handle_of_path (hhealth : e.request.uri.path ≠ g.healthPath)
    (hpath : e.request.uri.path.toList.head? = some '/') : g.handle e = g.forward e := by
  rw [handle, route, if_neg hhealth, if_pos hpath]
  rfl

theorem handle_of_no_path (hhealth : e.request.uri.path ≠ g.healthPath)
    (hpath : e.request.uri.path.toList.head? ≠ some '/') :
    g.handle e = { answer := .ofResponse e.request.method ⟨404, {}, []⟩ } := by
  rw [handle, route, if_neg hhealth, if_neg hpath]
  rfl

theorem response_of_failure (failure : Failure) :
    failure.response = .plain 502 "Upstream request failed" ∨
      failure.response = .plain 504 "Upstream timed out" := by
  cases failure with
  | late limit => exact .inr rfl
  | unsendable error => exact .inl rfl
  | broken => exact .inl rfl

/-- A request whose target is a path or an absolute address goes to the backend, whatever its method
is, unless its path is the health path: its answer is the backend's, or it says that the backend has
failed or was late. A target that is an asterisk or an authority is answered 404, and nothing is
sent, logged or counted. -/
theorem forwarded_unless_pathless (s : Settings) (h : s.check = .ok ()) :
    ∃ g, Gateway.ofSettings s = .ok g ∧ ∀ (text : String) (e : Exchange),
      Uri.parse text = .ok e.request.uri → e.request.uri.path ≠ s.healthPath →
      (text.toList.head? = some '/' ∨ e.request.uri.scheme.isSome →
        g.handle e = g.forward e ∧
        ((g.handle e).answer =
            .ofResponse e.request.method (.plain 502 "Upstream request failed") ∨
          (g.handle e).answer = .ofResponse e.request.method (.plain 504 "Upstream timed out") ∨
          ∃ head f rest after, g.HandsOn e head f rest after ∧
            (g.handle e).answer = (g.handOn e head f rest after).answer)) ∧
      (¬(text.toList.head? = some '/' ∨ e.request.uri.scheme.isSome) →
        (text = "*" ∨ e.request.uri = ⟨none, some text, "", none⟩) ∧
        g.handle e = { answer := .ofResponse e.request.method ⟨404, {}, []⟩ }) := by
  obtain ⟨b, -, hg⟩ := exists_ofSettings h
  have hcases := answer_cases (g := ⟨b, s.rule, s.healthPath, s.limits⟩) (headLimit_pos h)
  refine ⟨_, hg, fun text e htext hhealth => ?_⟩
  obtain ⟨hpath, hform⟩ | ⟨rfl, huri⟩ | ⟨hslash, huri⟩ := Uri.forms_of_parse htext
  · refine ⟨fun _ => ?_, fun hno => absurd hform hno⟩
    have hforward := handle_of_path (g := ⟨b, s.rule, s.healthPath, s.limits⟩) hhealth hpath
    refine ⟨hforward, ?_⟩
    rw [hforward]
    obtain ⟨failure, hanswer⟩ | ⟨head, f, rest, after, hon⟩ := hcases e
    · rw [hanswer]
      obtain hfailed | hlate := response_of_failure failure
      · exact .inl (by rw [hfailed])
      · exact .inr (.inl (by rw [hlate]))
    · exact .inr (.inr ⟨head, f, rest, after, hon, hon.answer_eq⟩)
  · refine ⟨fun hform => ?_, fun _ => ⟨.inl rfl, handle_of_no_path hhealth ?_⟩⟩
    · rw [huri] at hform
      exact absurd hform (by decide)
    · rw [huri]
      decide
  · refine ⟨fun hform => ?_, fun _ => ⟨.inr huri, handle_of_no_path hhealth ?_⟩⟩
    · rw [huri] at hform
      exact absurd hform (not_or.mpr ⟨hslash, Bool.false_ne_true⟩)
    · rw [huri]
      simp

/-- The method that asks what can be asked for. -/
def optionsMethod : Method := ⟨"OPTIONS", by decide +kernel⟩

/-- A request about the server as a whole. -/
def wholeServerRequest : Request := ⟨optionsMethod, ⟨none, none, "*", none⟩, {}, []⟩

/-- A request with an absolute address that gives no path. -/
def absoluteRequest : Request :=
  { bareRequest with uri := ⟨some "http", some "auth.example.com", "/", some "x=1"⟩ }

theorem parse_wholeServer : Uri.parse "*" = .ok wholeServerRequest.uri := by
  decide +kernel

/-- The one leads nowhere, the other to the backend. -/
theorem handle_pathless_and_absolute :
    ∃ g, Gateway.ofSettings { backendUrl := "http://[::1]:9091" } = .ok g ∧
      ∀ (peer : Net.IpAddress) (contact : Contact),
        g.handle ⟨wholeServerRequest, peer, contact, [], false⟩ =
          { answer := ⟨404, {}, ⟨[], true⟩, none⟩ } ∧
        g.handle ⟨absoluteRequest, peer, contact, [], false⟩ =
          g.forward ⟨absoluteRequest, peer, contact, [], false⟩ := by
  obtain ⟨g, hg, h⟩ := forwarded_unless_pathless _ check_near
  refine ⟨g, hg, fun peer contact => ⟨?_, ?_⟩⟩
  · have hhealth : wholeServerRequest.uri.path ≠ "/healthz" := by decide
    have hform : ¬("*".toList.head? = some '/' ∨ wholeServerRequest.uri.scheme.isSome) := by
      decide
    have hnowhere :=
      (h "*" ⟨wholeServerRequest, peer, contact, [], false⟩ parse_wholeServer hhealth).2 hform
    rw [hnowhere.2]
    rfl
  · have hparse : Uri.parse "http://auth.example.com?x=1" = .ok absoluteRequest.uri := by
      decide +kernel
    have hhealth : absoluteRequest.uri.path ≠ "/healthz" := by decide
    exact ((h _ ⟨absoluteRequest, peer, contact, [], false⟩ hparse hhealth).1 (.inr rfl)).1

/-- A request for the whole server is answered by nobody. -/
theorem not_everything_forwarded :
    ¬∀ (s : Settings) (g : Gateway) (text : String) (e : Exchange),
      s.check = .ok () → Gateway.ofSettings s = .ok g →
      Uri.parse text = .ok e.request.uri → e.request.uri.path ≠ s.healthPath →
      g.handle e = g.forward e := by
  intro hforwarded
  let g : Gateway := ⟨nearBackend, ({} : Settings).rule, "/healthz", {}⟩
  let e : Exchange := ⟨wholeServerRequest, .v4 #v[127, 0, 0, 1], .refused, [], false⟩
  have hhealth : e.request.uri.path ≠ g.healthPath := by decide
  have hsame := hforwarded _ g "*" e check_near ofSettings_near parse_wholeServer hhealth
  rw [handle_of_no_path hhealth (by decide)] at hsame
  obtain ⟨failure, hanswer⟩ | ⟨_, _, _, _, _, script, _, hcontact, -⟩ :=
    answer_cases (g := g) (by decide) e
  · rw [← hsame] at hanswer
    have hstatus : 404 = failure.response.status := congrArg Answer.status hanswer
    obtain hfailed | hlate := response_of_failure failure
    · rw [hfailed] at hstatus
      exact absurd hstatus (by decide)
    · rw [hlate] at hstatus
      exact absurd hstatus (by decide)
  · cases hcontact

end ScopeGateway.Gateway
