import ScopeGateway.Proofs.Gateway.Outcome

/-!
Which requests can be sent: all of them, as long as their address at the backend is short enough.
What the reader of URLs leaves in a base path, the reader of targets takes as it stands.
-/
namespace ScopeGateway

open Http Text

namespace Backend

variable {b : Backend} {path : String} {query : Option String}

/-- The path behind the base path, with the query behind a question mark, is short enough for an
address. -/
def HasRoom (b : Backend) (path : String) (query : Option String) : Prop :=
  Utf8.size (joinAtSlash b.basePath path.toList ++ query.elim [] fun q => '?' :: q.toList) ≤
    Uri.maxSize

theorem hasRoom_iff : b.HasRoom path query ↔
    Utf8.size (b.resource path query).render ≤ Uri.maxSize := by
  rw [render_resource]
  rfl

end Backend

namespace Handling

/-- A failure is logged among the exchange's own events. -/
theorem failed_mem_events_iff {h : Handling} {m : Method} {f : Failure} :
    .failed m f ∈ h.events ↔ .failed m f ∈ h.before ++ h.once := by
  unfold events
  cases h.stop <;> simp

end Handling

namespace Gateway

variable {g : Gateway} {e : Exchange} {out : Request} {m : Method} {f : Failure}

theorem failed_not_mem_events (r : Rule) (uri : Uri) : .failed m f ∉ r.events uri := by
  unfold Rule.events
  cases r.amend uri <;> simp

theorem failed_mem_fail_iff {m' : Method} {f' : Failure} {sent : Option Request}
    {stop : StopRequest} : .failed m f ∈ (fail m' f' sent stop).once ↔ m = m' ∧ f = f' := by
  rw [show (fail m' f' sent stop).once = [.failed m' f'] from rfl, List.mem_singleton,
    Event.failed.injEq]

theorem opening_ne_unsendable {reply : Reply} {error : UriError} :
    g.opening m reply ≠ .error (.unsendable error) := by
  unfold opening
  split
  · simp
  · simp
  · split <;> simp

/-- Once a request is built, it is not for want of an address that an attempt fails. -/
theorem unsendable_not_mem_attempt {error : UriError} :
    .failed m (.unsendable error) ∉ (g.attempt e out).once := by
  unfold attempt
  split
  · simp [failed_mem_fail_iff]
  · simp only
    split
    · rename_i failure hfailure
      rw [failed_mem_fail_iff]
      rintro ⟨-, rfl⟩
      exact opening_ne_unsendable hfailure
    · exact List.not_mem_nil

/-- A failure for want of an address is logged exactly where the request cannot be built. -/
theorem unsendable_mem_forward_iff :
    (∃ m error, .failed m (.unsendable error) ∈ (g.forward e).events) ↔
      ∃ error, (g.forwarding e).request e.request = .error error := by
  simp only [Handling.failed_mem_events_iff]
  unfold forward
  simp only [List.mem_append, failed_not_mem_events, false_or]
  cases (g.forwarding e).request e.request with
  | error error => simp [failed_mem_fail_iff]
  | ok out => simp [unsendable_not_mem_attempt]

end Gateway

namespace Backend

/-- Every target that can be read has an address at every backend that can be read, with the joined
path and the query letter by letter, unless that is too long. So a gateway fails for want of an
address only where the query it forwards makes the address too long. -/
theorem addressed_unless_too_long (url : String) (b : Backend) (hb : Backend.parse url = .ok b)
    (text : String) (u : Uri) (hu : Uri.parse text = .ok u) :
    (b.HasRoom u.path u.query → ∃ out, b.target u.path u.query = .ok out ∧
      out.path.toList = joinAtSlash b.basePath u.path.toList ∧ out.query = u.query) ∧
    (¬b.HasRoom u.path u.query → b.target u.path u.query = .error .tooLong) ∧
    ∀ (g : Gateway) (e : Exchange), g.backend = b → e.request.uri = u →
      ((∃ m error, .failed m (.unsendable error) ∈ (g.forward e).events) ↔
        ¬b.HasRoom u.path (g.rule.queryFor u)) := by
  have hwritten := Uri.isWritten_of_parse hu
  simp only [hasRoom_iff]
  refine ⟨fun hroom => ?_, fun hlong => ?_, ?_⟩
  · refine ⟨_, (target_eq hb hwritten.1 hwritten.2).trans (if_pos hroom), ?_, rfl⟩
    exact String.toList_ofList
  · exact (target_eq hb hwritten.1 hwritten.2).trans (if_neg hlong)
  · rintro g e rfl rfl
    rw [Gateway.unsendable_mem_forward_iff]
    have hquery := g.rule.isWritten_queryFor hwritten
    have hrequest := Forwarding.request_eq (f := g.forwarding e) hb hwritten hquery
    constructor
    · rintro ⟨error, herror⟩ hroom
      cases herror.symm.trans (hrequest.trans (if_pos hroom))
    · intro hlong
      exact ⟨_, hrequest.trans (if_neg hlong)⟩

/-- A base path with braces and a target with quotes, braces and a second question mark. -/
theorem addressed_below_braces :
    ∃ b u out, Backend.parse "http://[::1]:9091/a\x7bb\x7d/" = .ok b ∧
      Uri.parse "/x\"\x7b?y=\x7c?z#part" = .ok u ∧ b.target u.path u.query = .ok out ∧
      out.path = "/a%7Bb%7D/x\"\x7b" ∧ out.query = some "y=\x7c?z" := by
  let b : Backend :=
    ⟨⟨[], .address (.v6 #v[0, 0, 0, 0, 0, 0, 0, 1]), some 9091, "/a%7Bb%7D/".toList, false⟩,
      "[::1]:9091"⟩
  let u : Uri := ⟨none, none, "/x\"\x7b", some "y=\x7c?z"⟩
  have hb : Backend.parse "http://[::1]:9091/a\x7bb\x7d/" = .ok b := by decide +kernel
  have hu : Uri.parse "/x\"\x7b?y=\x7c?z#part" = .ok u := by decide +kernel
  have hroom : b.HasRoom u.path u.query := by
    unfold HasRoom
    decide +kernel
  obtain ⟨out, hout, hpath, hquery⟩ := (addressed_unless_too_long _ b hb _ u hu).1 hroom
  refine ⟨b, u, out, hb, hu, hout, String.toList_inj.mp (hpath.trans ?_), hquery⟩
  decide +kernel

end Backend

end ScopeGateway
