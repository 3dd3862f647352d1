import ScopeGateway.Proofs.Gateway.Forwarding

/-!
What the backend gets to see of an address: all of it but the scope that is added.
-/
namespace ScopeGateway

open Http Text

theorem Backend.path_addressOf (b : Backend) {path : String} {rest : List Char}
    (h : path.toList = '/' :: rest) (query : Option String) :
    (b.addressOf path query).path.toList = withoutLastSlash b.basePath ++ '/' :: rest := by
  rw [addressOf, String.toList_ofList, resource, joinAtSlash_eq, h]
  rfl

namespace Gateway

/-- Every request that reaches the backend of a gateway with valid settings has the base path and
then its own path, letter by letter, the backend's authority and its own query. Only a query that
qualifies for it is another one, namely the amended one. -/
theorem forwarded_uri (s : Settings) (h : s.check = .ok ()) :
    ∃ g, Gateway.ofSettings s = .ok g ∧
      ∀ (text : String) (r : Request) (rest : List Char) (peer : Net.IpAddress)
        (protocol : Option FieldValue) (out : Request),
        Uri.parse text = .ok r.uri → r.uri.path.toList = '/' :: rest →
        (Forwarding.mk g.backend (g.rule.queryFor r.uri) peer protocol).request r = .ok out →
        out.uri.path.toList = withoutLastSlash g.backend.basePath ++ '/' :: rest ∧
        out.uri.authority = some g.backend.authority ∧
        (s.rule.Qualifies r.uri → ∃ amended, s.rule.amend r.uri = .injected amended ∧
          out.uri.query = some amended) ∧
        (¬s.rule.Qualifies r.uri → (∀ amended, s.rule.amend r.uri ≠ .injected amended) ∧
          out.uri.query = r.uri.query) := by
  obtain ⟨b, hb, hg⟩ := exists_ofSettings h
  refine ⟨_, hg, fun text r rest peer protocol out htext hpath hout => ?_⟩
  have hwritten := Uri.isWritten_of_parse htext
  rw [Forwarding.request_eq hb hwritten (s.rule.isWritten_queryFor hwritten)] at hout
  split_ifs at hout
  obtain rfl := Except.ok.inj hout
  refine ⟨b.path_addressOf hpath _, rfl, fun hq => ?_, fun hq => ⟨fun amended hamend => ?_, ?_⟩⟩
  · obtain ⟨amended, hamend⟩ := Rule.exists_amend_eq_injected.mpr hq
    exact ⟨amended, hamend, Rule.queryFor_of_injected hamend⟩
  · exact hq (Rule.exists_amend_eq_injected.mp ⟨amended, hamend⟩)
  · exact Rule.queryFor_of_not_qualifies hq

/-- With a base path, an escaped name, a blank behind the scope, a second scope and a fragment. -/
theorem forwarded_uri_below_base :
    ∃ g r out, Gateway.ofSettings { backendUrl := "http://[::1]:9091/base/" } = .ok g ∧
      Uri.parse "/api/oidc/authorization?%73cope=a%20&x=%26&scope=b#part" = .ok r.uri ∧
      (Forwarding.mk g.backend (g.rule.queryFor r.uri) (.v4 #v[127, 0, 0, 1]) none).request r =
        .ok out ∧
      out.uri.path.toList = "/base".toList ++ "/api/oidc/authorization".toList ∧
      out.uri.authority = some "[::1]:9091" ∧ out.uri.query = some "scope=a+groups&x=%26" := by
  have hcheck : ({ backendUrl := "http://[::1]:9091/base/" } : Settings).check = .ok () :=
    Settings.check_eq_ok_iff.mpr (by decide +kernel)
  have hbackend : Backend.parse "http://[::1]:9091/base/" = .ok ⟨⟨[], .address (.v6
      #v[0, 0, 0, 0, 0, 0, 0, 1]), some 9091, "/base/".toList, false⟩, "[::1]:9091"⟩ := by
    decide +kernel
  obtain ⟨b, hb, hready⟩ := exists_ofSettings hcheck
  obtain ⟨g, hg, h⟩ := forwarded_uri _ hcheck
  obtain rfl := Except.ok.inj (hg.symm.trans hready)
  obtain rfl := Except.ok.inj (hb.symm.trans hbackend)
  let r : Request := ⟨⟨"GET", by decide +kernel⟩,
    ⟨none, none, "/api/oidc/authorization", some "%73cope=a%20&x=%26&scope=b"⟩, {}, []⟩
  have huri : Uri.parse "/api/oidc/authorization?%73cope=a%20&x=%26&scope=b#part" = .ok r.uri := by
    decide +kernel
  have hwritten := Uri.isWritten_of_parse huri
  have hout := Forwarding.request_eq (f := ⟨_, _, .v4 #v[127, 0, 0, 1], none⟩) hbackend hwritten
    (({} : Settings).rule.isWritten_queryFor hwritten)
  rw [if_pos (by decide +kernel)] at hout
  obtain ⟨hpath, hauthority, hquery, -⟩ :=
    h _ r "api/oidc/authorization".toList _ _ _ huri (by decide +kernel) hout
  have hamend : ({} : Settings).rule.amend r.uri = .injected "scope=a+groups&x=%26" := by
    decide +kernel
  obtain ⟨amended, hinjected, hamended⟩ := hquery (Rule.exists_amend_eq_injected.mp ⟨_, hamend⟩)
  obtain rfl := Amendment.injected.inj (hamend.symm.trans hinjected)
  exact ⟨_, r, _, hg, huri, hout, hpath, hauthority, hamended⟩

end Gateway

end ScopeGateway
