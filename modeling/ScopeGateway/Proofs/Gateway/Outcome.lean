import ScopeGateway.Proofs.Gateway.Overflow
import ScopeGateway.Proofs.Gateway.Relay

/-!
What becomes of a request for the backend: it is sent once at most, and what ends the wait for a
head decides the answer.
-/
namespace ScopeGateway

open Http Text
open Text.Utf8 (Bytes)

/-- The answer carries on a head and what follows it: its status, its fields from end to end, and
of the body no more than the backend has written and no less than what comes before any silence. A
switch of protocols keeps all fields. -/
structure Answer.CarriesOn (a : Answer) (limit : Nat) (h : ResponseHead) (f : Framing)
    (acts : List Act) : Prop where
  status_eq : a.status = h.status
  headers_eq : a.headers = if h.status = switchingProtocols then h.headers else h.headers.endToEnd
  body_prefix : a.body.bytes <+: (f.feed (written acts)).1
  body_of_isWhole : a.body.isWhole = true → a.body.bytes = (f.feed (written acts)).1
  heard_prefix : ∀ heard unheard, acts = heard ++ unheard → ¬FallsSilent limit f heard →
    (f.feed (written heard)).1 <+: a.body.bytes

namespace Gateway

/-- The answer to a request that has been sent, by what the wait for a head has ended with. -/
def answerTo (g : Gateway) (e : Exchange) (after : List Act) (reply : Reply) : Answer :=
  match g.opening e.request.method reply with
  | .error failure => .ofResponse e.request.method failure.response
  | .ok o => (g.handOn e o.head o.framing o.rest after).answer

section
variable {g : Gateway} {e : Exchange} {out : Request} {script after : List Act} {reply : Reply}
  {m : Method} {h : ResponseHead} {f : Framing} {rest : Bytes}

theorem opening_of_framed (hframing : framing? m h = some f) :
    g.opening m (.head h rest) = .ok ⟨h, f, rest⟩ := by
  simp only [opening, hframing]

theorem opening_of_unframed (hframing : framing? m h = none) :
    g.opening m (.head h rest) = .error .broken := by
  simp only [opening, hframing]

theorem forward_of_refused (hout : (g.forwarding e).request e.request = .ok out)
    (hcontact : e.contact = .refused) :
    (g.forward e).sent = none ∧
      (g.forward e).answer = .ofResponse e.request.method Failure.broken.response := by
  unfold forward attempt
  simp only [hout, hcontact]
  exact ⟨rfl, rfl⟩

theorem forward_of_ends (hout : (g.forwarding e).request e.request = .ok out)
    (hcontact : e.contact = .acts script) (hends : Ends g.headLimit script reply after) :
    (g.forward e).sent = some (g.backend.received out) ∧
      (g.forward e).answer = g.answerTo e after reply := by
  unfold forward attempt answerTo
  simp only [hout, hcontact, hends.awaitHead_eq]
  cases g.opening e.request.method reply with
  | error failure => exact ⟨rfl, rfl⟩
  | ok o => exact ⟨rfl, rfl⟩

end

theorem carriesOn_handOn (g : Gateway) (e : Exchange) (h : ResponseHead) (f : Framing)
    (rest : Bytes) (after : List Act) :
    (g.handOn e h f rest after).answer.CarriesOn g.bodyLimit h f (.write rest :: after) where
  status_eq := rfl
  headers_eq := rfl
  body_prefix := by
    obtain ⟨later, heq, -⟩ :=
      exists_relayBody_append g.bodyLimit 0 f (.write rest :: after)
    exact ⟨later, heq.symm⟩
  body_of_isWhole hwhole := by
    obtain ⟨later, heq, hlater⟩ :=
      exists_relayBody_append g.bodyLimit 0 f (.write rest :: after)
    rw [heq, hlater hwhole, List.append_nil]
    rfl
  heard_prefix heard unheard hacts hsilent := by
    have hprefix := feed_prefix_relayBody hsilent unheard
    rw [← hacts] at hprefix
    exact hprefix

theorem headLimit_pos {s : Settings} (h : s.check = .ok ()) : 0 < s.limits.request * 1000 := by
  obtain ⟨-, hrequest, -, -⟩ := Settings.limits_pos h
  exact Nat.mul_pos hrequest (by decide)

/-- One attempt, and one answer by what comes first. A request that cannot be built is not sent. Of
one that is sent, the first event to end the wait decides: a head that comes within the limit and
announces a framing is carried on with its body, the limit makes the answer late, and all else
makes it fail. -/
theorem one_attempt_one_answer (s : Settings) (h : s.check = .ok ()) :
    ∃ g, Gateway.ofSettings s = .ok g ∧ ∀ e : Exchange,
      (∀ error, (g.forwarding e).request e.request = .error error →
        (g.forward e).sent = none ∧ (g.forward e).answer =
          .ofResponse e.request.method (.plain 502 "Upstream request failed")) ∧
      ∀ out, (g.forwarding e).request e.request = .ok out →
        (e.contact = .refused →
          (g.forward e).sent = none ∧ (g.forward e).answer =
            .ofResponse e.request.method (.plain 502 "Upstream request failed")) ∧
        ∀ script, e.contact = .acts script →
          (g.forward e).sent = some (g.backend.received out) ∧
          (∃! end_ : Reply × List Act, Ends (s.limits.request * 1000) script end_.1 end_.2) ∧
          ∀ reply after, Ends (s.limits.request * 1000) script reply after →
            (reply = .late → (g.forward e).answer =
              .ofResponse e.request.method (.plain 504 "Upstream timed out")) ∧
            (reply = .broken → (g.forward e).answer =
              .ofResponse e.request.method (.plain 502 "Upstream request failed")) ∧
            ∀ head rest, reply = .head head rest →
              (framing? e.request.method head = none → (g.forward e).answer =
                .ofResponse e.request.method (.plain 502 "Upstream request failed")) ∧
              ∀ f, framing? e.request.method head = some f →
                (g.forward e).answer.CarriesOn (s.limits.bodyIdle * 1000) head f
                  (.write rest :: after) := by
  obtain ⟨b, -, hg⟩ := exists_ofSettings h
  refine ⟨_, hg, fun e => ⟨fun error herror => forward_of_error herror, fun out hout =>
    ⟨fun hrefused => forward_of_refused hout hrefused, fun script hscript => ?_⟩⟩⟩
  obtain ⟨reply, after, hends⟩ := exists_ends_append (.nil (headLimit_pos h)) script
  refine ⟨(forward_of_ends hout hscript hends).1, ⟨(reply, after), hends, fun end_ hend => ?_⟩,
    fun reply after hends => ?_⟩
  · -- both ends are what the wait computes
    exact hend.awaitHead_eq.symm.trans hends.awaitHead_eq
  · have hanswer := (forward_of_ends hout hscript hends).2
    refine ⟨fun hlate => ?_, fun hbroken => ?_, fun head rest hhead => ⟨fun hnone => ?_,
      fun f hsome => ?_⟩⟩
    · rw [hanswer, hlate]
      rfl
    · rw [hanswer, hbroken]
      rfl
    · rw [hanswer, hhead, answerTo, opening_of_unframed hnone]
      rfl
    · rw [hanswer, hhead, answerTo, opening_of_framed hsome]
      exact carriesOn_handOn _ e head f rest after

/-- A request without anything. -/
def bareRequest : Request := ⟨getMethod, ⟨none, none, "/", none⟩, {}, []⟩

/-- A head in two parts with a pause between them, and a body with a longer one. -/
def pausingScript : List Act :=
  [.write (Utf8.encode "HTTP/1.1 200 OK\r\nConnection: x-hop\r\nX-H".toList), .pass 29999,
    .write (Utf8.encode "op: 1\r\nX-End: 2\r\nContent-Length: 2\r\n\r\nh".toList),
    .pass 59999, .write (Utf8.encode "i".toList)]

theorem ends_pausingScript : ∃ head, Ends 30000 pausingScript
    (.head head (Utf8.encode "h".toList)) (pausingScript.drop 3) ∧
      head.status = 200 ∧ framing? bareRequest.method head = some (.sized 2) ∧
      head.headers.endToEnd.fields.map (fun f => f.name.text) = ["x-end", "content-length"] := by
  have hbefore : Awaits 30000 (pausingScript.take 2) := ⟨by decide, by decide, _, rfl⟩
  exact ⟨_, .found hbefore rfl, rfl, by decide +kernel, by decide +kernel⟩

/-- The pauses are shorter than the limits, so all of the body is there. -/
theorem one_answer_to_bareRequest :
    ∃ g, Gateway.ofSettings { backendUrl := "http://[::1]:9091" } = .ok g ∧
      ∀ peer : Net.IpAddress, ∃ answer,
        (g.forward ⟨bareRequest, peer, .acts pausingScript, [], false⟩).answer = answer ∧
        (g.forward ⟨bareRequest, peer, .acts pausingScript, [], false⟩).sent.isSome ∧
        answer.status = 200 ∧
        (answer.headers.fields.map fun f => f.name.text).Perm ["content-length", "x-end"] ∧
        answer.body.bytes = Utf8.encode "hi".toList := by
  obtain ⟨g, hg, h⟩ := one_attempt_one_answer _ check_near
  obtain rfl := Except.ok.inj (hg.symm.trans ofSettings_near)
  refine ⟨_, hg, fun peer => ⟨_, rfl, ?_⟩⟩
  let g : Gateway := ⟨nearBackend, ({} : Settings).rule, "/healthz", {}⟩
  let e : Exchange := ⟨bareRequest, peer, .acts pausingScript, [], false⟩
  obtain ⟨out, hout⟩ := exists_request_of_root (f := g.forwarding e) (r := e.request) rfl
    (Rule.queryFor_of_none rfl) rfl
  obtain ⟨head, hends, hstatus, hframing, hfields⟩ := ends_pausingScript
  obtain ⟨hsent, -, hanswer⟩ := ((h e).2 out hout).2 _ rfl
  have hcarries := ((hanswer _ _ hends).2.2 _ _ rfl).2 _ hframing
  refine ⟨by rw [hsent]; rfl, hcarries.status_eq.trans hstatus, ?_, ?_⟩
  · rw [hcarries.headers_eq, hstatus]
    exact (List.Perm.of_eq hfields).trans (.swap ..)
  · have hsilent : ¬FallsSilent 60000 (.sized 2)
        (.write (Utf8.encode "h".toList) :: pausingScript.drop 3) :=
      not_fallsSilent_of_elapsed (by decide)
    have hheard := hcarries.heard_prefix _ [] (List.append_nil _).symm hsilent
    exact hcarries.body_prefix.eq_of_length
      (hcarries.body_prefix.length_le.antisymm hheard.length_le)

end Gateway

end ScopeGateway
