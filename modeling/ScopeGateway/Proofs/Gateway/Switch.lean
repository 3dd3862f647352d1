import ScopeGateway.Proofs.Gateway.Outcome
import ScopeGateway.Proofs.Http.HopByHop

/-!
Switches of protocols: who is told of one, and when the connections are joined.
-/
namespace ScopeGateway.Gateway

open Http Text
open Text.Utf8 (Bytes)

variable {g : Gateway} {e : Exchange}

/-- The request is sent, and of the acts that answer it a head comes in time and is handed on. -/
def HandsOn (g : Gateway) (e : Exchange) (h : ResponseHead) (f : Framing) (rest : Bytes)
    (after : List Act) : Prop :=
  ∃ out script, (g.forwarding e).request e.request = .ok out ∧ e.contact = .acts script ∧
    Ends g.headLimit script (.head h rest) after ∧ framing? e.request.method h = some f

theorem HandsOn.answer_eq {h : ResponseHead} {f : Framing} {rest : Bytes} {after : List Act}
    (hon : g.HandsOn e h f rest after) :
    (g.forward e).answer = (g.handOn e h f rest after).answer := by
  obtain ⟨out, script, hout, hcontact, hends, hframing⟩ := hon
  rw [(forward_of_ends hout hcontact hends).2, answerTo, opening_of_framed hframing]

/-- The answer is the gateway's own, or the head of the backend is handed on. -/
theorem answer_cases (hlimit : 0 < g.headLimit) (e : Exchange) :
    (∃ failure : Failure,
      (g.forward e).answer = .ofResponse e.request.method failure.response) ∨
    ∃ h f rest after, g.HandsOn e h f rest after := by
  cases hout : (g.forwarding e).request e.request with
  | error error => exact .inl ⟨_, (forward_of_error hout).2⟩
  | ok out =>
    cases hcontact : e.contact with
    | refused => exact .inl ⟨_, (forward_of_refused hout hcontact).2⟩
    | acts script =>
      obtain ⟨reply, after, hends⟩ := exists_ends_append (.nil hlimit) script
      have hanswer := (forward_of_ends hout hcontact hends).2
      cases reply with
      | late => exact .inl ⟨_, hanswer⟩
      | broken => exact .inl ⟨_, hanswer⟩
      | head h rest =>
        cases hframing : framing? e.request.method h with
        | none =>
          -- a head whose framing is none counts as no head
          left
          rw [answerTo, opening_of_unframed hframing] at hanswer
          exact ⟨_, hanswer⟩
        | some f => exact .inr ⟨h, f, rest, after, out, script, hout, hcontact, hends, hframing⟩

/-- An answer of the gateway's own switches to nothing and has no field of the connection. -/
theorem ownAnswer_facts (m : Method) (failure : Failure) :
    (Answer.ofResponse m failure.response).status ≠ switchingProtocols ∧
      (Answer.ofResponse m failure.response).tunnel = none ∧
      ∀ n ∈ Headers.hopNames, (Answer.ofResponse m failure.response).headers.values n = [] := by
  have hplain : ∀ n ∈ Headers.hopNames,
      Headers.values ⟨[⟨.contentType, .plainText⟩]⟩ n = [] := by
    decide
  have hfailed : (502 : Nat) ≠ switchingProtocols := by decide
  have hlate : (504 : Nat) ≠ switchingProtocols := by decide
  cases failure with
  | late limit => exact ⟨hlate, rfl, hplain⟩
  | unsendable error => exact ⟨hfailed, rfl, hplain⟩
  | broken => exact ⟨hfailed, rfl, hplain⟩

theorem values_returnedHeaders {h : ResponseHead} (hstatus : h.status ≠ switchingProtocols)
    {n : FieldName} (hn : h.headers.Lists n ∨ n ∈ Headers.hopNames) :
    (returnedHeaders h).values n = [] := by
  rw [returnedHeaders, if_neg hstatus, Headers.values_endToEnd, if_pos hn]

theorem tunnelAfter_eq {h : ResponseHead} (hstatus : h.status = switchingProtocols) (rest : Bytes)
    (acts : List Act) : e.tunnelAfter h rest acts =
      if e.request.headers.wantedProtocol?.isSome then
        some ⟨e.tunnel, rest ++ written acts, e.isReset⟩
      else none := by
  rw [Exchange.tunnelAfter, joins, decide_eq_true hstatus, Bool.true_and]

theorem of_tunnelAfter_isSome {h : ResponseHead} {rest : Bytes} {acts : List Act}
    (htunnel : (e.tunnelAfter h rest acts).isSome) :
    h.status = switchingProtocols ∧ e.request.headers.wantedProtocol?.isSome := by
  unfold Exchange.tunnelAfter at htunnel
  split at htunnel
  · rename_i hswitch
    rw [joins, Bool.and_eq_true, decide_eq_true_eq] at hswitch
    exact hswitch
  · cases htunnel

/-- A caller is told of a switch of protocols where the backend tells of one, with all that the
backend says of it and whether or not the caller wished for it. The connections are joined where
the caller did. Every other answer is without the fields of the connection. -/
theorem switched_as_backend_switches (s : Settings) (h : s.check = .ok ()) :
    ∃ g, Gateway.ofSettings s = .ok g ∧ ∀ e : Exchange,
      ((g.forward e).answer.status = switchingProtocols ↔
        ∃ head f rest after, g.HandsOn e head f rest after ∧ head.status = switchingProtocols) ∧
      (∀ head f rest after, g.HandsOn e head f rest after → head.status = switchingProtocols →
        (g.forward e).answer.headers = head.headers ∧
        (g.forward e).answer.tunnel =
          if e.request.headers.wantedProtocol?.isSome then
            some ⟨e.tunnel, rest ++ written after, e.isReset⟩
          else none) ∧
      ((g.forward e).answer.tunnel.isSome →
        (g.forward e).answer.status = switchingProtocols ∧
        e.request.headers.wantedProtocol?.isSome) ∧
      ((g.forward e).answer.status ≠ switchingProtocols →
        (∀ n ∈ Headers.hopNames, (g.forward e).answer.headers.values n = []) ∧
        ∀ head f rest after, g.HandsOn e head f rest after → ∀ n, head.headers.Lists n →
          (g.forward e).answer.headers.values n = []) := by
  obtain ⟨b, -, hg⟩ := exists_ofSettings h
  have hcases := answer_cases (g := ⟨b, s.rule, s.healthPath, s.limits⟩) (headLimit_pos h)
  refine ⟨_, hg, fun e => ⟨⟨fun hstatus => ?_, ?_⟩, ?_, fun htunnel => ?_, fun hstatus => ⟨?_, ?_⟩⟩⟩
  · obtain ⟨failure, hanswer⟩ | ⟨head, f, rest, after, hon⟩ := hcases e
    · rw [hanswer] at hstatus
      exact absurd hstatus (ownAnswer_facts _ failure).1
    · refine ⟨head, f, rest, after, hon, ?_⟩
      rwa [hon.answer_eq] at hstatus
  · rintro ⟨head, f, rest, after, hon, hstatus⟩
    rw [hon.answer_eq]
    exact hstatus
  · intro head f rest after hon hstatus
    rw [hon.answer_eq]
    exact ⟨if_pos hstatus, tunnelAfter_eq hstatus rest after⟩
  · obtain ⟨failure, hanswer⟩ | ⟨head, f, rest, after, hon⟩ := hcases e
    · rw [hanswer, (ownAnswer_facts _ failure).2.1] at htunnel
      cases htunnel
    · rw [hon.answer_eq] at htunnel ⊢
      exact of_tunnelAfter_isSome htunnel
  · obtain ⟨failure, hanswer⟩ | ⟨head, f, rest, after, hon⟩ := hcases e
    · rw [hanswer]
      exact (ownAnswer_facts _ failure).2.2
    · rw [hon.answer_eq] at hstatus ⊢
      exact fun n hn => values_returnedHeaders hstatus (.inr hn)
  · intro head f rest after hon n hn
    rw [hon.answer_eq] at hstatus ⊢
    exact values_returnedHeaders hstatus (.inl hn)

/-- The backend switches to a protocol, and goes on in it. -/
def switchScript : List Act :=
  [.write (Utf8.encode
    "HTTP/1.1 101 Switching Protocols\r\nConnection: upgrade\r\nUpgrade: echo\r\n\r\npo".toList),
    .write (Utf8.encode "ng".toList)]

theorem ends_switchScript : ∃ head, Ends 30000 switchScript
    (.head head (Utf8.encode "po".toList)) (switchScript.drop 1) ∧
      head.status = switchingProtocols ∧
      head.headers.fields.map (fun f => f.name.text) = ["connection", "upgrade"] := by
  have hbefore : Awaits 30000 [] := .nil (by decide)
  exact ⟨_, .found hbefore rfl, rfl, by decide +kernel⟩

/-- A head that answers a request for the root within half a minute is handed on. -/
theorem handsOn_of_root {h : ResponseHead} {f : Framing} {rest : Bytes} {script after : List Act}
    (hb : g.backend = nearBackend) (hlimit : g.limits.request = 30)
    (he : e.request.uri = bareRequest.uri) (hcontact : e.contact = .acts script)
    (hends : Ends 30000 script (.head h rest) after)
    (hframing : framing? e.request.method h = some f) : g.HandsOn e h f rest after := by
  obtain ⟨out, hout⟩ :=
    exists_request_of_root (f := g.forwarding e) hb (Rule.queryFor_of_none (he ▸ rfl)) he
  refine ⟨out, script, hout, hcontact, ?_, hframing⟩
  rw [headLimit, hlimit]
  exact hends

/-- The switch is handed on, whatever the request wished for. -/
theorem handsOn_switchScript {g : Gateway} {e : Exchange} (hb : g.backend = nearBackend)
    (hlimit : g.limits.request = 30) (he : e.request.uri = bareRequest.uri)
    (hcontact : e.contact = .acts switchScript) :
    ∃ head, g.HandsOn e head .ended (Utf8.encode "po".toList) (switchScript.drop 1) ∧
      head.status = switchingProtocols ∧
      head.headers.fields.map (fun f => f.name.text) = ["connection", "upgrade"] := by
  obtain ⟨head, hends, hstatus, hfields⟩ := ends_switchScript
  have hframing : framing? e.request.method head = some .ended := by
    rw [framing?, hasNoBody, hstatus]
    rfl
  exact ⟨head, handsOn_of_root hb hlimit he hcontact hends hframing, hstatus, hfields⟩

/-- A request that wishes to switch. -/
def wishfulRequest : Request :=
  { bareRequest with
    headers := ⟨[⟨.connection, FieldValue.mk (Utf8.encode "keep-alive, Upgrade".toList)⟩,
      ⟨.upgrade, FieldValue.mk (Utf8.encode "echo".toList)⟩]⟩ }

theorem switch_of_wishfulRequest :
    ∃ g, Gateway.ofSettings { backendUrl := "http://[::1]:9091" } = .ok g ∧
      ∀ peer : Net.IpAddress, ∃ answer,
        (g.forward ⟨wishfulRequest, peer, .acts switchScript, Utf8.encode "ping".toList,
          false⟩).answer = answer ∧
        answer.status = 101 ∧
        answer.headers.fields.map (fun f => f.name.text) = ["connection", "upgrade"] ∧
        answer.tunnel =
          some ⟨Utf8.encode "ping".toList, Utf8.encode "pong".toList, false⟩ := by
  obtain ⟨g, hg, h⟩ := switched_as_backend_switches _ check_near
  obtain rfl := Except.ok.inj (hg.symm.trans ofSettings_near)
  refine ⟨_, hg, fun peer => ⟨_, rfl, ?_⟩⟩
  let g : Gateway := ⟨nearBackend, ({} : Settings).rule, "/healthz", {}⟩
  let e : Exchange :=
    ⟨wishfulRequest, peer, .acts switchScript, Utf8.encode "ping".toList, false⟩
  obtain ⟨head, hon, hstatus, hfields⟩ :=
    handsOn_switchScript (g := g) (e := e) rfl rfl rfl rfl
  obtain ⟨hswitched, hswitch, -⟩ := h e
  obtain ⟨hheaders, htunnel⟩ := hswitch head _ _ _ hon hstatus
  have hwish : wishfulRequest.headers.wantedProtocol?.isSome = true := by decide +kernel
  refine ⟨hswitched.mpr ⟨head, _, _, _, hon, hstatus⟩, ?_, ?_⟩
  · rw [hheaders]
    exact hfields
  · rw [htunnel, if_pos hwish]
    rfl

/-- A caller is told of a switch that it has not wished for. -/
theorem not_only_switched_on_wish :
    ¬∀ (s : Settings) (g : Gateway) (e : Exchange),
      s.check = .ok () → Gateway.ofSettings s = .ok g →
      e.request.headers.wantedProtocol? = none →
      (g.forward e).answer.status ≠ switchingProtocols := by
  intro honWish
  let g : Gateway := ⟨nearBackend, ({} : Settings).rule, "/healthz", {}⟩
  let e : Exchange := ⟨bareRequest, .v4 #v[127, 0, 0, 1], .acts switchScript, [], false⟩
  obtain ⟨head, hon, hstatus, -⟩ := handsOn_switchScript (g := g) (e := e) rfl rfl rfl rfl
  have hwish : e.request.headers.wantedProtocol? = none := by decide
  have hstays := honWish _ g e check_near ofSettings_near hwish
  rw [hon.answer_eq] at hstays
  exact hstays hstatus

end ScopeGateway.Gateway
