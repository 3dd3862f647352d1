import ScopeGateway.Gateway.Exchange
import ScopeGateway.Proofs.Gateway.Fields

/-!
The host that the backend gets to see: the one that was given, unless the connection lists it.
-/
namespace ScopeGateway

open Http Text Text.Utf8

namespace Backend

variable {b : Backend} {url : String} {r : Request}

/-- The backend's name as a request without a host gets it. -/
def ownHost (b : Backend) : String :=
  b.url.host.render ++ b.url.service.elim "" fun n => ":" ++ toString n

theorem isAuthority_of_parse (h : Backend.parse url = .ok b) :
    Uri.isAuthority (authorityOf b.url).toList = true := by
  unfold Backend.parse at h
  split at h
  · cases h
  · cases h
  · unfold ofUrl at h
    split_ifs at h with htail hauthority
    obtain rfl := Except.ok.inj h
    exact hauthority

theorem isPlain_ownHost (h : Backend.parse url = .ok b) : IsPlain b.ownHost.toList := by
  have hplain := Uri.isPlain_of_isAuthority (isAuthority_of_parse h)
  unfold authorityOf at hplain
  unfold ownHost
  cases hservice : b.url.service with
  | none =>
    intro c hc
    rw [Option.elim_none, String.append_empty] at hc
    apply hplain
    rw [String.append_assoc, String.toList_append]
    exact List.mem_append_left _ hc
  | some n =>
    rwa [hservice, Option.getD_some, String.append_assoc] at hplain

theorem received_of_host (h : r.headers.values .host ≠ []) : b.received r = r := by
  rw [received, if_pos (Headers.contains_iff.mpr h)]

theorem values_host_received (hb : Backend.parse url = .ok b) (h : r.headers.values .host = []) :
    ((b.received r).headers.values .host).map FieldValue.bytes = [encode b.ownHost.toList] := by
  obtain ⟨v, hv, hbytes⟩ := FieldValue.exists_ofText? (isPlain_ownHost hb)
  unfold ownHost at hv
  have hnone : ¬r.headers.contains .host = true := fun hc => Headers.contains_iff.mp hc h
  rw [received, if_neg hnone]
  simp only [hv, Headers.values_append, h, if_true, List.nil_append, List.map_singleton, hbytes]

end Backend

namespace Forwarding

/-- Where a host was given, the backend gets the same values, unless the connection lists the host.
Then they are gone, and what the backend gets is its own name. -/
theorem host_kept_unless_listed (f : Forwarding) (r out : Request) (h : f.request r = .ok out)
    (hhost : r.headers.values .host ≠ []) :
    (¬r.headers.Lists .host →
      out.headers.values .host = r.headers.values .host ∧ f.backend.received out = out) ∧
    (r.headers.Lists .host → out.headers.values .host = [] ∧
      ∀ url, Backend.parse url = .ok f.backend →
        ((f.backend.received out).headers.values .host).map FieldValue.bytes =
          [encode f.backend.ownHost.toList]) := by
  refine ⟨fun hlist => ?_, fun hlist => ?_⟩
  · have hkept : out.headers.values .host = r.headers.values .host := by
      rw [values_of_passed h (by decide) (by decide) hlist,
        Request.values_headersWithHost_of_ne fun _ => hhost]
    exact ⟨hkept, Backend.received_of_host (hkept ▸ hhost)⟩
  · have hgone : out.headers.values .host = [] :=
      values_of_removed h (by decide) (by decide) (by decide) (.inl hlist)
    exact ⟨hgone, fun url hb => Backend.values_host_received hb hgone⟩

/-- A request whose connection lists the host. -/
def listedRequest : Request :=
  ⟨Gateway.getMethod, ⟨none, none, "/", none⟩,
    ⟨[⟨.host, FieldValue.mk (encode "auth.example.com".toList)⟩,
      ⟨.connection, FieldValue.mk (encode "close, Host".toList)⟩]⟩, []⟩

theorem values_host_listedRequest : (listedRequest.headers.values .host).map FieldValue.bytes =
    [encode "auth.example.com".toList] := by
  decide +kernel

theorem lists_listedRequest : listedRequest.headers.Lists .host := by
  decide +kernel

theorem host_of_listedRequest :
    (listedRequest.headers.values .host).map FieldValue.bytes =
        [encode "auth.example.com".toList] ∧
      ∃ out, Forwarding.request ⟨Gateway.nearBackend, none, .v4 #v[203, 0, 113, 7], none⟩
          listedRequest = .ok out ∧
        out.headers.values .host = [] ∧
        ((Gateway.nearBackend.received out).headers.values .host).map FieldValue.bytes =
          [encode "[::1]:9091".toList] := by
  obtain ⟨out, hout⟩ := Gateway.exists_request_of_root (r := listedRequest)
    (f := ⟨Gateway.nearBackend, none, .v4 #v[203, 0, 113, 7], none⟩) rfl rfl rfl
  have hhost : listedRequest.headers.values .host ≠ [] := by decide +kernel
  obtain ⟨hgone, hown⟩ :=
    (host_kept_unless_listed _ _ out hout hhost).2 lists_listedRequest
  refine ⟨values_host_listedRequest, out, hout, hgone, ?_⟩
  have hname : Gateway.nearBackend.ownHost = "[::1]:9091" := by decide +kernel
  rw [hown _ Gateway.parse_nearBackend, hname]

/-- A connection that lists the host takes it from the request. -/
theorem host_not_always_kept :
    ¬∀ (f : Forwarding) (r out : Request), f.request r = .ok out →
      r.headers.values .host ≠ [] → out.headers.values .host = r.headers.values .host := by
  intro hkept
  obtain ⟨out, hout⟩ := Gateway.exists_request_of_root (r := listedRequest)
    (f := ⟨Gateway.nearBackend, none, .v4 #v[203, 0, 113, 7], none⟩) rfl rfl rfl
  have hhost : listedRequest.headers.values .host ≠ [] := by decide +kernel
  have hgone : out.headers.values .host = [] :=
    values_of_removed hout (by decide) (by decide) (by decide) (.inl lists_listedRequest)
  exact hhost ((hkept _ _ _ hout hhost).symm.trans hgone)

end Forwarding

end ScopeGateway
