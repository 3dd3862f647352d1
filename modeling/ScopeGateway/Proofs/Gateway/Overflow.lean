import ScopeGateway.Gateway.Exchange
import ScopeGateway.Proofs.Gateway.Forwarding

/-!
When amending a query keeps a request from the backend: only where it makes the address too long.
-/
namespace ScopeGateway

open Http Text

/-- There is an amended query, and with it the address at the backend is too long. -/
def Rule.Overflows (r : Rule) (b : Backend) (uri : Uri) : Prop :=
  ∃ amended, r.amend uri = .injected amended ∧
    Uri.maxSize < Utf8.size (b.resource uri.path (some amended)).render

namespace Forwarding

variable {rule : Rule} {b : Backend} {url : String} {r out : Request} {peer : Net.IpAddress}
  {protocol : Option FieldValue}

theorem request_of_overflows (hb : Backend.parse url = .ok b) (hr : r.uri.IsWritten)
    (h : rule.Overflows b r.uri) :
    (Forwarding.mk b (rule.queryFor r.uri) peer protocol).request r = .error .tooLong := by
  obtain ⟨amended, hamend, hsize⟩ := h
  rw [request_eq hb hr (rule.isWritten_queryFor hr), Rule.queryFor_of_injected hamend]
  exact if_neg (Nat.not_le.mpr hsize)

/-- Nothing but the query sets the request apart from the one with its own query. -/
theorem request_of_not_overflows (hb : Backend.parse url = .ok b) (hr : r.uri.IsWritten)
    (hown : (Forwarding.mk b r.uri.query peer protocol).request r = .ok out)
    (h : ¬rule.Overflows b r.uri) :
    (Forwarding.mk b (rule.queryFor r.uri) peer protocol).request r =
      .ok { out with uri := { out.uri with query := rule.queryFor r.uri } } := by
  rw [request_eq hb hr hr.2] at hown
  split_ifs at hown with hsize
  obtain rfl := Except.ok.inj hown
  rw [request_eq hb hr (rule.isWritten_queryFor hr)]
  by_cases hq : rule.Qualifies r.uri
  · obtain ⟨amended, hamend⟩ := Rule.exists_amend_eq_injected.mpr hq
    have hfits : Utf8.size (b.resource r.uri.path (some amended)).render ≤ Uri.maxSize :=
      Nat.not_lt.mp fun hlong => h ⟨amended, hamend, hlong⟩
    rw [Rule.queryFor_of_injected hamend, if_pos hfits]
    rfl
  · rw [Rule.queryFor_of_not_qualifies hq, if_pos hsize]
    rfl

end Forwarding

namespace Gateway

theorem forward_of_error {g : Gateway} {e : Exchange} {error : UriError}
    (h : (g.forwarding e).request e.request = .error error) :
    (g.forward e).sent = none ∧
      (g.forward e).answer = .ofResponse e.request.method (Failure.unsendable error).response := by
  unfold forward
  simp only [h]
  exact ⟨rfl, rfl⟩

/-- Where a request can be sent with its own query, it can be sent with the amended one unless that
makes the address too long. Then nothing is sent, and the answer has the status 502. -/
theorem forwardable_unless_overflow (s : Settings) (h : s.check = .ok ()) :
    ∃ g, Gateway.ofSettings s = .ok g ∧
      ∀ (text : String) (r : Request) (peer : Net.IpAddress) (protocol : Option FieldValue)
        (out : Request),
        Uri.parse text = .ok r.uri →
        (Forwarding.mk g.backend r.uri.query peer protocol).request r = .ok out →
        (s.rule.Overflows g.backend r.uri →
          (Forwarding.mk g.backend (g.rule.queryFor r.uri) peer protocol).request r =
            .error .tooLong ∧
          ∀ e : Exchange, e.request = r → (g.forward e).sent = none ∧
            (g.forward e).answer = .ofResponse r.method (.plain 502 "Upstream request failed")) ∧
        (¬s.rule.Overflows g.backend r.uri →
          (Forwarding.mk g.backend (g.rule.queryFor r.uri) peer protocol).request r =
            .ok { out with uri := { out.uri with query := s.rule.queryFor r.uri } }) := by
  obtain ⟨b, hb, hg⟩ := exists_ofSettings h
  refine ⟨_, hg, fun text r peer protocol out htext hown => ?_⟩
  have hwritten := Uri.isWritten_of_parse htext
  constructor
  · intro hover
    refine ⟨Forwarding.request_of_overflows hb hwritten hover, fun e he => ?_⟩
    subst he
    exact forward_of_error (Forwarding.request_of_overflows hb hwritten hover)
  · intro hfits
    exact Forwarding.request_of_not_overflows hb hwritten hown hfits

/-- A short scope and a parameter of some length behind it. -/
def longQuery (scope : String) (n : Nat) : String :=
  Form.render [⟨"scope", scope⟩, ⟨"x", String.ofList (List.replicate n 'a')⟩]

/-- An authorization request of almost any size. All that is said of it is said of every size, so
that no long text has to be evaluated. -/
def longUri (n : Nat) : Uri :=
  ⟨none, none, "/api/oidc/authorization", some (longQuery "a" n)⟩

/-- The method of a plain request. -/
def getMethod : Method := ⟨"GET", by decide +kernel⟩

def longRequest (n : Nat) : Request := ⟨⟨"GET", by decide +kernel⟩, longUri n, {}, []⟩

/-- A backend without a base path. -/
def nearBackend : Backend :=
  ⟨⟨[], .address (.v6 #v[0, 0, 0, 0, 0, 0, 0, 1]), some 9091, ['/'], false⟩, "[::1]:9091"⟩

theorem encode_replicate (n : Nat) :
    Form.encode (Form.rawBytes (String.ofList (List.replicate n 'a'))) = List.replicate n 'a' := by
  have hbytes : Utf8.encodeChar 'a' = [0x61] := by decide
  have hchars : Form.encodeByte 0x61 = ['a'] := by decide
  induction n with
  | zero => rfl
  | succ n ih =>
    simp only [Form.rawBytes, String.toList_ofList, List.replicate_succ, Utf8.encode_cons, hbytes,
      Form.encode, List.flatMap_append, List.flatMap_singleton, hchars] at ih ⊢
    rw [ih]
    rfl

theorem size_longQuery (scope : String) (n : Nat) :
    Utf8.size (longQuery scope n).toList = Utf8.size (Form.Param.form ⟨"scope", scope⟩) + 3 + n := by
  have hname : Form.encode (Form.rawBytes "x") = ['x'] := by decide +kernel
  have htext : (longQuery scope n).toList =
      Form.Param.form ⟨"scope", scope⟩ ++ ['&', 'x', '='] ++ List.replicate n 'a' := by
    rw [longQuery, Form.render, String.toList_ofList, List.map_cons, List.map_cons, List.map_nil,
      List.intercalate_cons_cons, List.intercalate_singleton, Form.Param.form, Form.Param.form,
      encode_replicate, hname]
    simp only [List.append_assoc]
    rfl
  rw [htext, Utf8.size_append, Utf8.size_append, Utf8.size_replicate]
  exact congrArg (_ + ·) (Nat.mul_one n)

theorem amend_longUri (n : Nat) :
    ({} : Settings).rule.amend (longUri n) = .injected (longQuery "a groups" n) := by
  refine Rule.amend_eq_injected_iff.mpr ⟨List.prefix_rfl, _, rfl, ?_⟩
  rw [Grant.amend_eq_injected_iff]
  refine ⟨Form.isLossless_render _, "a", ?_, ⟨by decide, ?_⟩, ?_⟩
  · rw [longQuery, Form.parse_render]
    rfl
  · rw [← Grant.carriedBy_iff]
    decide +kernel
  · rw [longQuery, longQuery, Form.parse_render]
    rfl

theorem resource_nearBackend (query : Option String) :
    nearBackend.resource "/api/oidc/authorization" query =
      ⟨"/api/oidc/authorization".toList, query.map String.toList⟩ := by
  have hpath : joinAtSlash ['/'] "/api/oidc/authorization".toList =
      "/api/oidc/authorization".toList := by
    decide +kernel
  exact congrArg (Uri.Resource.mk · _) hpath

theorem size_authorization (query : String) :
    Utf8.size (Uri.Resource.render
      ⟨"/api/oidc/authorization".toList, some query.toList⟩) = 24 + Utf8.size query.toList := by
  have hpath : Utf8.size "/api/oidc/authorization".toList = 23 := by decide +kernel
  have hmark : Utf8.charSize '?' = 1 := by decide
  rw [Uri.Resource.render, Utf8.size_append, hpath, Option.elim_some, Utf8.size_cons, hmark]
  omega

theorem longUri_isWritten (n : Nat) : (longUri n).IsWritten := by
  have hpath : ∀ c ∈ "/api/oidc/authorization".toList, Uri.isPathChar c = true :=
    List.all_eq_true.mp (by decide +kernel)
  refine ⟨hpath, fun q hq c hc => ?_⟩
  obtain rfl := Option.some.inj hq
  exact isQueryChar_of_mem_render hc

theorem size_longUri (n : Nat) :
    Utf8.size (Uri.Resource.render
      ⟨"/api/oidc/authorization".toList, some (longQuery "a" n).toList⟩) = 34 + n := by
  have hform : Utf8.size (Form.Param.form ⟨"scope", "a"⟩) = 7 := by decide +kernel
  rw [size_authorization, size_longQuery, hform]
  omega

theorem parse_longUri {n : Nat} (h : n ≤ 65500) :
    Uri.parse (longUri n).render = .ok (longUri n) := by
  apply Uri.parse_render (longUri_isWritten n)
  · decide +kernel
  · exact (size_longUri n).trans_le (Nat.add_le_add_left h 34)

theorem longUri_overflows {n : Nat} (h : 65493 < n) :
    ({} : Settings).rule.Overflows nearBackend (longUri n) := by
  have hform : Utf8.size (Form.Param.form ⟨"scope", "a groups"⟩) = 14 := by decide +kernel
  refine ⟨_, amend_longUri n, ?_⟩
  rw [longUri, resource_nearBackend, Option.map_some, size_authorization, size_longQuery, hform,
    Uri.maxSize]
  omega

theorem parse_nearBackend : Backend.parse "http://[::1]:9091" = .ok nearBackend := by
  decide +kernel

theorem check_near : ({ backendUrl := "http://[::1]:9091" } : Settings).check = .ok () :=
  Settings.check_eq_ok_iff.mpr (by decide +kernel)

theorem ofSettings_of_near {s : Settings} (h : s.check = .ok ())
    (hurl : s.backendUrl = "http://[::1]:9091") :
    Gateway.ofSettings s = .ok ⟨nearBackend, s.rule, s.healthPath, s.limits⟩ := by
  obtain ⟨b, hb, hg⟩ := exists_ofSettings h
  rw [hurl] at hb
  obtain rfl := Except.ok.inj (hb.symm.trans parse_nearBackend)
  exact hg

theorem ofSettings_near : Gateway.ofSettings { backendUrl := "http://[::1]:9091" } =
    .ok ⟨nearBackend, ({} : Settings).rule, "/healthz", {}⟩ :=
  ofSettings_of_near check_near rfl

/-- A request for the root can be sent, whatever its headers and its body are. -/
theorem exists_request_of_root {f : Forwarding} {r : Request} (hb : f.backend = nearBackend)
    (hquery : f.query = none) (hr : r.uri = ⟨none, none, "/", none⟩) :
    ∃ out, f.request r = .ok out := by
  have hparse : Uri.parse "/" = .ok r.uri := by
    rw [hr]
    decide +kernel
  have hbackend : Backend.parse "http://[::1]:9091" = .ok f.backend :=
    parse_nearBackend.trans (congrArg Except.ok hb.symm)
  have hout := Forwarding.request_eq hbackend (Uri.isWritten_of_parse hparse)
    (by rw [hquery]; nofun)
  have hsize : Utf8.size (nearBackend.resource "/" none).render ≤ Uri.maxSize := by
    decide +kernel
  rw [hb, hquery, hr, if_pos hsize] at hout
  exact ⟨_, hout⟩

theorem longRequest_sendable {n : Nat} (h : n ≤ 65500) (peer : Net.IpAddress)
    (protocol : Option FieldValue) :
    ∃ out, (Forwarding.mk nearBackend (longUri n).query peer protocol).request (longRequest n) =
      .ok out := by
  have hwritten : (longRequest n).uri.IsWritten := longUri_isWritten n
  have hown := Forwarding.request_eq (f := ⟨nearBackend, (longUri n).query, peer, protocol⟩)
    parse_nearBackend hwritten hwritten.2
  refine ⟨_, hown.trans (if_pos ?_)⟩
  change Utf8.size (nearBackend.resource "/api/oidc/authorization" _).render ≤ Uri.maxSize
  rw [resource_nearBackend, longUri, Option.map_some, size_longUri]
  exact Nat.add_le_add_left h 34

theorem longRequest_unsendable {n : Nat} (h : 65493 < n) (peer : Net.IpAddress)
    (protocol : Option FieldValue) :
    (Forwarding.mk nearBackend (({} : Settings).rule.queryFor (longUri n)) peer protocol).request
      (longRequest n) = .error .tooLong :=
  Forwarding.request_of_overflows (r := longRequest n) parse_nearBackend (longUri_isWritten n)
    (longUri_overflows h)

/-- A request of 65,530 bytes is too long once its scope is amended. -/
theorem longRequest_is_refused :
    ∃ g, Gateway.ofSettings { backendUrl := "http://[::1]:9091" } = .ok g ∧
      (∃ out, (Forwarding.mk g.backend (longUri 65496).query (.v4 #v[127, 0, 0, 1]) none).request
        (longRequest 65496) = .ok out) ∧
      (Forwarding.mk g.backend (g.rule.queryFor (longUri 65496)) (.v4 #v[127, 0, 0, 1])
        none).request (longRequest 65496) = .error .tooLong ∧
      (g.forward ⟨longRequest 65496, .v4 #v[127, 0, 0, 1], .refused, [], false⟩).sent = none ∧
      (g.forward ⟨longRequest 65496, .v4 #v[127, 0, 0, 1], .refused, [], false⟩).answer.status =
        502 := by
  obtain ⟨g, hg, h⟩ := forwardable_unless_overflow _ check_near
  obtain rfl := Except.ok.inj (hg.symm.trans ofSettings_near)
  obtain ⟨out, hown⟩ := longRequest_sendable (n := 65496) (by decide) (.v4 #v[127, 0, 0, 1]) none
  obtain ⟨hfails, hforward⟩ :=
    (h _ (longRequest 65496) _ _ out (parse_longUri (by decide)) hown).1
      (longUri_overflows (by decide))
  obtain ⟨hsent, hanswer⟩ :=
    hforward ⟨longRequest 65496, .v4 #v[127, 0, 0, 1], .refused, [], false⟩ rfl
  refine ⟨_, hg, ⟨out, hown⟩, hfails, hsent, ?_⟩
  rw [hanswer]
  rfl

/-- An amended query may be too long where the request's own is not. -/
theorem not_always_forwardable :
    ¬∀ (s : Settings) (g : Gateway) (text : String) (r : Request) (peer : Net.IpAddress)
        (protocol : Option FieldValue) (out : Request),
      s.check = .ok () → Gateway.ofSettings s = .ok g → Uri.parse text = .ok r.uri →
      (Forwarding.mk g.backend r.uri.query peer protocol).request r = .ok out →
      ∃ out', (Forwarding.mk g.backend (g.rule.queryFor r.uri) peer protocol).request r =
        .ok out' := by
  intro h
  obtain ⟨out, hown⟩ := longRequest_sendable (n := 65496) (by decide) (.v4 #v[127, 0, 0, 1]) none
  obtain ⟨out', hamended⟩ := h _ _ _ (longRequest 65496) _ _ out check_near ofSettings_near
    (parse_longUri (by decide)) hown
  have hfails := longRequest_unsendable (n := 65496) (by decide) (.v4 #v[127, 0, 0, 1]) none
  exact absurd (hfails.symm.trans hamended) nofun

end Gateway

end ScopeGateway
