import ScopeGateway.Proofs.Gateway.Routing

/-!
Requests to stop while an exchange is under way: they change neither what its sender gets nor what
the backend gets, and the events of an exchange are about its sender.
-/
namespace ScopeGateway

open Http
open Text.Utf8 (Bytes)

/-- The acts of a backend that asks nobody to stop. -/
def withoutStops (acts : List Act) : List Act := acts.filter (· ≠ .stop)

def Contact.withoutStops : Contact → Contact
  | .refused => .refused
  | .acts script => .acts (ScopeGateway.withoutStops script)

def Exchange.withoutStops (e : Exchange) : Exchange :=
  { e with contact := e.contact.withoutStops }

theorem withoutStops_cons {act : Act} (h : act ≠ .stop) (acts : List Act) :
    withoutStops (act :: acts) = act :: withoutStops acts :=
  List.filter_cons_of_pos (decide_eq_true h)

theorem awaitHead_withoutStops (limit elapsed : Nat) (r : HeadReader) (acts : List Act) :
    awaitHead limit elapsed r (withoutStops acts) =
      ((awaitHead limit elapsed r acts).1, withoutStops (awaitHead limit elapsed r acts).2) := by
  fun_induction awaitHead limit elapsed r acts with
  | case1 => rfl
  | case2 elapsed r bytes rest r' hfeed ih =>
    rw [withoutStops_cons (by simp), awaitHead, hfeed]
    exact ih
  | case3 elapsed r bytes rest hfeed =>
    rw [withoutStops_cons (by simp), awaitHead, hfeed]
  | case4 elapsed r bytes rest h after hfeed =>
    rw [withoutStops_cons (by simp), awaitHead, hfeed]
  | case5 elapsed r millis rest hlimit =>
    rw [withoutStops_cons (by simp), awaitHead, if_pos hlimit]
  | case6 elapsed r millis rest hlimit ih =>
    rw [withoutStops_cons (by simp), awaitHead, if_neg hlimit]
    exact ih
  | case7 => rfl
  | case8 elapsed r rest ih => exact ih

theorem written_withoutStops (acts : List Act) : written (withoutStops acts) = written acts := by
  fun_induction written acts with
  | case1 => rfl
  | case2 => rfl
  | case3 bytes rest ih => exact congrArg (bytes ++ ·) ih
  | case4 millis rest ih => exact ih
  | case5 rest ih => exact ih

theorem relayBody_withoutStops (limit silence : Nat) (f : Framing) (acts : List Act) :
    relayBody limit silence f (withoutStops acts) = relayBody limit silence f acts := by
  fun_induction relayBody limit silence f acts with
  | case1 silence acts => rw [relayBody]
  | case2 silence f hf =>
    change relayBody limit silence f [] = _
    rw [relayBody]
    exact hf
  | case3 silence f bytes rest hf part hfeed =>
    rw [withoutStops_cons (by simp), relayBody]
    · rw [hfeed]
    · exact hf
  | case4 silence f bytes rest hf part g hfeed ih =>
    rw [withoutStops_cons (by simp), relayBody]
    · rw [hfeed]
      exact congrArg (·.after part) ih
    · exact hf
  | case5 silence f millis rest hf hlimit =>
    rw [withoutStops_cons (by simp), relayBody]
    · rw [if_pos hlimit]
    · exact hf
  | case6 silence f millis rest hf hlimit ih =>
    rw [withoutStops_cons (by simp), relayBody]
    · rw [if_neg hlimit]
      exact ih
    · exact hf
  | case7 silence f rest hf =>
    rw [withoutStops_cons (by simp), relayBody]
    exact hf
  | case8 silence f rest hf ih => exact ih

/-- An exchange asks to stop where it is sent and its backend asks for it before it closes, and its
own events are about its sender. -/
structure Handling.Fits (h : Handling) (contact : Contact) : Prop where
  stop_iff : h.stop ≠ .never ↔
    h.sent.isSome ∧ ∃ script, contact = .acts script ∧ Act.stop ∈ untilClose script
  hasCaller : ∀ event ∈ h.before ++ h.once, event.hasCaller = true

theorem stopRequest_ne_never_iff (script : List Act) (n : Nat) :
    stopRequest script n ≠ .never ↔ Act.stop ∈ untilClose script := by
  unfold stopRequest
  simp only
  split_ifs with hearly hlate
  · exact iff_of_true nofun (List.take_subset _ _ (List.contains_iff_mem.mp hearly))
  · exact iff_of_true nofun (List.contains_iff_mem.mp hlate)
  · exact iff_of_false (absurd rfl) fun hmem => hlate (List.contains_iff_mem.mpr hmem)

theorem Handling.fits_unsent {h : Handling} {contact : Contact} (hstop : h.stop = .never)
    (hsent : h.sent = none)
    (hcaller : ∀ event ∈ h.before ++ h.once, event.hasCaller = true) :
    h.Fits contact where
  stop_iff := by simp [hstop, hsent]
  hasCaller := hcaller

theorem Handling.fits_sent {h : Handling} {script : List Act} {n : Nat}
    (hstop : h.stop = stopRequest script n) (hsent : h.sent.isSome)
    (hcaller : ∀ event ∈ h.before ++ h.once, event.hasCaller = true) :
    h.Fits (.acts script) where
  stop_iff := by simp [hstop, stopRequest_ne_never_iff, hsent]
  hasCaller := hcaller

namespace Gateway

theorem answer_handOn_withoutStops (g : Gateway) (e : Exchange) (h : ResponseHead) (f : Framing)
    (rest : Bytes) (acts : List Act) :
    (g.handOn e.withoutStops h f rest (withoutStops acts)).answer =
      (g.handOn e h f rest acts).answer := by
  have hbody := relayBody_withoutStops g.bodyLimit 0 f (.write rest :: acts)
  have htunnel : e.withoutStops.tunnelAfter h rest (withoutStops acts) =
      e.tunnelAfter h rest acts := by
    unfold Exchange.tunnelAfter
    rw [written_withoutStops]
    rfl
  unfold handOn
  rw [htunnel, ← hbody]
  rfl

theorem attempt_withoutStops (g : Gateway) (e : Exchange) (out : Request) :
    (g.attempt e.withoutStops out).answer = (g.attempt e out).answer ∧
      (g.attempt e.withoutStops out).sent = (g.attempt e out).sent := by
  have hrequest : e.withoutStops.request = e.request := rfl
  unfold attempt
  cases hcontact : e.contact with
  | refused =>
    have hquiet : e.withoutStops.contact = .refused := by
      rw [Exchange.withoutStops, hcontact]
      rfl
    simp only [hquiet, hrequest, and_self]
  | acts script =>
    have hquiet : e.withoutStops.contact = .acts (withoutStops script) := by
      rw [Exchange.withoutStops, hcontact]
      rfl
    simp only [hquiet, hrequest, awaitHead_withoutStops]
    cases g.opening e.request.method (awaitHead g.headLimit 0 {} script).1 with
    | error failure => exact ⟨rfl, rfl⟩
    | ok o => exact ⟨answer_handOn_withoutStops g e o.head o.framing o.rest _, rfl⟩

/-- Nobody gets anything else when nobody asks to stop. -/
theorem handle_withoutStops (g : Gateway) (e : Exchange) :
    (g.handle e.withoutStops).answer = (g.handle e).answer ∧
      (g.handle e.withoutStops).sent = (g.handle e).sent := by
  have hrequest : e.withoutStops.request = e.request := rfl
  have hforwarding : g.forwarding e.withoutStops = g.forwarding e := rfl
  unfold handle
  rw [hrequest]
  cases (g.route e.request.uri).own? with
  | some own => exact ⟨rfl, rfl⟩
  | none =>
    unfold forward
    simp only [hrequest, hforwarding]
    split
    · exact ⟨rfl, rfl⟩
    · exact g.attempt_withoutStops e _

theorem hasCaller_of_mem_fail {m : Method} {f : Failure} {sent : Option Request}
    {stop : StopRequest} :
    ∀ event ∈ (fail m f sent stop).before ++ (fail m f sent stop).once,
      event.hasCaller = true := by
  intro event hevent
  obtain rfl := List.mem_singleton.mp hevent
  rfl

theorem fits_attempt (g : Gateway) (e : Exchange) (out : Request) :
    (g.attempt e out).Fits e.contact := by
  unfold attempt
  cases e.contact with
  | refused => exact Handling.fits_unsent rfl rfl hasCaller_of_mem_fail
  | acts script =>
    simp only
    split
    · exact Handling.fits_sent rfl rfl hasCaller_of_mem_fail
    · exact Handling.fits_sent rfl rfl nofun

theorem hasCaller_of_mem_events {r : Rule} {uri : Uri} {event : Event} (h : event ∈ r.events uri) :
    event.hasCaller = true := by
  unfold Rule.events at h
  split at h
  · obtain rfl := List.mem_singleton.mp h
    rfl
  · obtain rfl := List.mem_singleton.mp h
    rfl
  · cases h

theorem fits_handle (g : Gateway) (e : Exchange) : (g.handle e).Fits e.contact := by
  have hbefore {h : Handling} (hfits : h.Fits e.contact) (counts : List Count) :
      Handling.Fits { h with before := g.rule.events e.request.uri, counts } e.contact := by
    refine ⟨hfits.stop_iff, fun event hevent => ?_⟩
    obtain hevent | hevent := List.mem_append.mp hevent
    · exact hasCaller_of_mem_events hevent
    · exact hfits.hasCaller event (List.mem_append_right _ hevent)
  unfold handle
  cases g.route e.request.uri with
  | health => exact Handling.fits_unsent rfl rfl nofun
  | nowhere => exact Handling.fits_unsent rfl rfl nofun
  | backend =>
    simp only [Route.own?]
    unfold forward
    simp only
    split
    · exact hbefore (Handling.fits_unsent rfl rfl hasCaller_of_mem_fail) _
    · exact hbefore (g.fits_attempt e _) _

end Gateway

end ScopeGateway
