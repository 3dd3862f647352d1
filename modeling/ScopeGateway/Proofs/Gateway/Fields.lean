import ScopeGateway.Proofs.Gateway.Overflow
import ScopeGateway.Proofs.Http.Authority
import ScopeGateway.Proofs.Http.HopByHop

/-!
The fields of a request on its way to the backend, name by name. All of them follow from one
equation for the values of a name after the hop.
-/
namespace ScopeGateway

open Http Text Text.Utf8

namespace Http.Request

variable {r : Request} {n : FieldName}

theorem values_headersWithHost : r.headersWithHost.values n =
    if n = .host ∧ r.headers.values .host = [] then
      (r.uri.authority.bind FieldValue.ofText?).toList
    else r.headers.values n := by
  unfold headersWithHost
  split
  · rename_i hhost
    rw [if_neg fun h => Headers.contains_iff.mp hhost h.2]
  · rename_i hhost
    have hnone : r.headers.values .host = [] := by
      by_contra hsome
      exact hhost (Headers.contains_iff.mpr hsome)
    split
    · rename_i host hauthority
      rw [Headers.values_set, hauthority]
      by_cases hn : n = .host
      · rw [if_pos hn.symm, if_pos ⟨hn, hnone⟩]
        rfl
      · rw [if_neg (Ne.symm hn), if_neg fun h => hn h.1]
    · rename_i hauthority
      rw [hauthority]
      split
      · rename_i hn
        rw [hn.1, hnone]
        rfl
      · rfl

theorem lists_headersWithHost : r.headersWithHost.Lists n ↔ r.headers.Lists n := by
  apply Headers.lists_congr
  rw [values_headersWithHost, if_neg fun h => absurd h.1 (by decide)]

theorem values_headersWithHost_of_ne (h : n = .host → r.headers.values .host ≠ []) :
    r.headersWithHost.values n = r.headers.values n := by
  rw [values_headersWithHost, if_neg fun hhost => h hhost.1 hhost.2]

end Http.Request

namespace Forwarding

variable {f : Forwarding} {r out : Request} {n : FieldName}

/-- What the hop makes of the values of a name. -/
theorem values_headers (f : Forwarding) (h : Headers) (n : FieldName) :
    (f.headers h).values n =
      if n = .upgrade then f.protocol.toList
      else if n = .connection then (f.protocol.map fun _ => Headers.upgradeValue).toList
      else if n = .forwardedFor then [h.endToEnd.chain f.peer]
      else if h.Lists n ∨ n ∈ Headers.hopNames then []
      else h.values n :=
  h.values_passedOn f.peer f.protocol n

theorem headers_of_request (h : f.request r = .ok out) :
    out.headers = f.headers r.headersWithHost := by
  obtain ⟨uri, -, hout⟩ := bind_eq_ok_iff.mp h
  obtain rfl := Except.ok.inj hout
  rfl

theorem values_of_request (h : f.request r = .ok out) (n : FieldName) :
    out.headers.values n =
      if n = .upgrade then f.protocol.toList
      else if n = .connection then (f.protocol.map fun _ => Headers.upgradeValue).toList
      else if n = .forwardedFor then [r.headersWithHost.endToEnd.chain f.peer]
      else if r.headers.Lists n ∨ n ∈ Headers.hopNames then []
      else r.headersWithHost.values n := by
  rw [headers_of_request h, values_headers]
  simp only [Request.lists_headersWithHost]

theorem values_of_removed (h : f.request r = .ok out) (hfor : n ≠ .forwardedFor)
    (hconn : n ≠ .connection) (hup : n ≠ .upgrade)
    (hn : r.headers.Lists n ∨ n ∈ Headers.hopNames) : out.headers.values n = [] := by
  rw [values_of_request h, if_neg hup, if_neg hconn, if_neg hfor, if_pos hn]

theorem values_of_passed (h : f.request r = .ok out) (hfor : n ≠ .forwardedFor)
    (hhop : n ∉ Headers.hopNames) (hlist : ¬r.headers.Lists n) :
    out.headers.values n = r.headersWithHost.values n := by
  have hup : n ≠ .upgrade := by
    rintro rfl
    exact hhop (by decide)
  have hconn : n ≠ .connection := by
    rintro rfl
    exact hhop (by decide)
  rw [values_of_request h, if_neg hup, if_neg hconn, if_neg hfor,
    if_neg (not_or.mpr ⟨hlist, hhop⟩)]

/-- The forwarders that are kept are those that came in, unless the connection lists them. -/
theorem values_forwardedFor_endToEnd (r : Request) :
    r.headersWithHost.endToEnd.values .forwardedFor =
      if r.headers.Lists .forwardedFor then [] else r.headers.values .forwardedFor := by
  rw [Headers.values_endToEnd,
    Request.values_headersWithHost_of_ne fun h => absurd h (by decide)]
  simp only [Request.lists_headersWithHost]
  exact if_congr (or_iff_left (by decide)) rfl rfl

theorem values_host_of_authority {text : String} {a : String} (hnone : r.headers.values .host = [])
    (htext : Uri.parse text = .ok r.uri) (ha : r.uri.authority = some a) :
    (r.headersWithHost.values .host).map FieldValue.bytes = [encode a.toList] := by
  obtain ⟨v, hv, hbytes⟩ := FieldValue.exists_ofText? (Uri.isPlain_of_parse htext a ha)
  rw [Request.values_headersWithHost, if_pos ⟨rfl, hnone⟩, ha, Option.bind_some, hv,
    Option.toList_some, List.map_singleton, hbytes]

/-- Every name of a request on its way to the backend. The wish to switch is the gateway's own;
fields of the connection are gone; the peer stands at the end of the one chain of forwarders; a
missing host is the authority of the address, unless the connection lists the host; and all else is
as it came in. -/
theorem outbound_fields (f : Forwarding) (r out : Request) (h : f.request r = .ok out) :
    (f.protocol = none →
      out.headers.values .connection = [] ∧ out.headers.values .upgrade = []) ∧
    (∀ protocol, f.protocol = some protocol →
      (out.headers.values .connection).map FieldValue.bytes = [encode "upgrade".toList] ∧
      out.headers.values .upgrade = [protocol]) ∧
    (∀ n : FieldName, n ∈ [.proxyAuthenticate, .proxyAuthorization, .te, .trailer,
        .transferEncoding, .keepAlive, .proxyConnection] ∨ r.headers.Lists n →
      n ≠ .forwardedFor → n ≠ .connection → n ≠ .upgrade → out.headers.values n = []) ∧
    (∃ chain before,
      FieldValue.ofBytes? (r.headersWithHost.endToEnd.forwarders f.peer) = some chain ∧
      out.headers.values .forwardedFor = [chain] ∧
      (r.headers.Lists .forwardedFor → chain.bytes = encode f.peer.render.toList) ∧
      (¬r.headers.Lists .forwardedFor → chain.bytes = [0x2C, 0x20].intercalate
        ((r.headers.values .forwardedFor).map FieldValue.bytes ++
          [encode f.peer.render.toList])) ∧
      chain.bytes = before ++ encode f.peer.render.toList ∧
      (before = [] ∨ [0x2C, 0x20] <:+ before) ∧ 0x2C ∉ encode f.peer.render.toList) ∧
    (r.headers.values .host = [] →
      (r.uri.authority = none ∨ r.headers.Lists .host → out.headers.values .host = []) ∧
      ∀ text a, Uri.parse text = .ok r.uri → r.uri.authority = some a → ¬r.headers.Lists .host →
        (out.headers.values .host).map FieldValue.bytes = [encode a.toList]) ∧
    ∀ n : FieldName, n ∉ Headers.hopNames → n ≠ .forwardedFor → ¬r.headers.Lists n →
      (n = .host → r.headers.values .host ≠ []) →
      out.headers.values n = r.headers.values n := by
  have hhost : FieldName.host ≠ .forwardedFor ∧ FieldName.host ∉ Headers.hopNames := by decide
  refine ⟨fun hnone => ?_, fun protocol hsome => ?_, fun n hn hfor hconn hup => ?_, ?_,
    fun hnone => ⟨fun hgone => ?_, fun text a htext ha hlist => ?_⟩,
    fun n hhop hfor hlist hkept => ?_⟩
  · rw [values_of_request h, values_of_request h, hnone]
    exact ⟨rfl, rfl⟩
  · rw [values_of_request h, values_of_request h, hsome]
    exact ⟨rfl, rfl⟩
  · have hnames : ∀ n : FieldName, n ∈ [FieldName.proxyAuthenticate, .proxyAuthorization, .te,
        .trailer, .transferEncoding, .keepAlive, .proxyConnection] → n ∈ Headers.hopNames := by
      decide
    exact values_of_removed h hfor hconn hup (hn.symm.imp_right (hnames n))
  · -- the forwarders are counted after the names that the connection lists are gone
    obtain ⟨before, hchain, hbefore, hcomma⟩ :=
      Headers.exists_forwarders_eq r.headersWithHost.endToEnd f.peer
    refine ⟨_, before, Headers.ofBytes?_forwarders _ _, values_of_request h _, fun hlist => ?_,
      fun hlist => ?_, hchain, hbefore, hcomma⟩
    · change Headers.forwarders _ _ = _
      rw [Headers.forwarders_eq_intercalate, values_forwardedFor_endToEnd, if_pos hlist]
      simp
    · change Headers.forwarders _ _ = _
      rw [Headers.forwarders_eq_intercalate, values_forwardedFor_endToEnd, if_neg hlist]
  · -- a host from the address is listed like any other
    by_cases hlist : r.headers.Lists .host
    · exact values_of_removed h hhost.1 (by decide) (by decide) (.inl hlist)
    · have hauthority := hgone.resolve_right hlist
      rw [values_of_passed h hhost.1 hhost.2 hlist, Request.values_headersWithHost,
        if_pos ⟨rfl, hnone⟩, hauthority]
      rfl
  · rw [values_of_passed h hhost.1 hhost.2 hlist]
    exact values_host_of_authority hnone htext ha
  · rw [values_of_passed h hfor hhop hlist, Request.values_headersWithHost_of_ne hkept]

/-- A wish to switch that lists two more names, with two forwarders, and with the host in its
address alone. -/
def switchRequest : Request :=
  ⟨Gateway.getMethod, ⟨some "http", some "auth.example.com", "/ws", none⟩,
    ⟨[⟨.connection, FieldValue.mk (encode " Upgrade ,X-Hop".toList)⟩,
      ⟨.connection, FieldValue.mk (encode "te,".toList)⟩,
      ⟨FieldName.mk "x-hop", FieldValue.mk (encode "1".toList)⟩,
      ⟨.forwardedFor, FieldValue.mk (encode "10.0.0.1".toList)⟩,
      ⟨.forwardedFor, FieldValue.mk (encode "10.0.0.2".toList)⟩,
      ⟨.upgrade, FieldValue.mk (encode "websocket".toList)⟩]⟩, []⟩

theorem parse_switchRequest :
    Uri.parse "http://auth.example.com/ws" = .ok switchRequest.uri := by
  decide +kernel

theorem outbound_fields_of_switch :
    ∃ out, Forwarding.request ⟨Gateway.nearBackend, none, .v4 #v[203, 0, 113, 7],
        switchRequest.headers.wantedProtocol?⟩ switchRequest = .ok out ∧
      (out.headers.values .connection).map FieldValue.bytes = [encode "upgrade".toList] ∧
      (out.headers.values .upgrade).map FieldValue.bytes = [encode "websocket".toList] ∧
      out.headers.values (FieldName.mk "x-hop") = [] ∧
      (out.headers.values .forwardedFor).map FieldValue.bytes =
        [encode "10.0.0.1, 10.0.0.2, 203.0.113.7".toList] ∧
      (out.headers.values .host).map FieldValue.bytes = [encode "auth.example.com".toList] := by
  let f : Forwarding := ⟨Gateway.nearBackend, none, .v4 #v[203, 0, 113, 7],
    switchRequest.headers.wantedProtocol?⟩
  have hout := request_eq (f := f) Gateway.parse_nearBackend
    (Uri.isWritten_of_parse parse_switchRequest) nofun
  rw [if_pos (by decide +kernel)] at hout
  have hprotocol : f.protocol = some (FieldValue.mk (encode "websocket".toList)) := by
    decide +kernel
  obtain ⟨-, hswitch, hgone, ⟨chain, -, -, hvalues, -, hchain, -⟩, hhost, -⟩ :=
    outbound_fields f switchRequest _ hout
  obtain ⟨hconn, hup⟩ := hswitch _ hprotocol
  refine ⟨_, hout, hconn, ?_, hgone _ (.inr (by decide +kernel)) (by decide) (by decide)
    (by decide), ?_, (hhost (by decide +kernel)).2 _ _ parse_switchRequest rfl (by decide +kernel)⟩
  · rw [hup]
    rfl
  · rw [hvalues, List.map_singleton, hchain (by decide +kernel)]
    decide +kernel

end Forwarding

end ScopeGateway
