import ScopeGateway.Proofs.Gateway.Switch
import ScopeGateway.Proofs.Gateway.Timeline

/-!
What cuts the body of an answer: a silence of the limit, and never how long the body is or lasts.
-/
namespace ScopeGateway.Gateway

open Http Text
open Text.Utf8 (Bytes)

theorem bodyLimit_pos {s : Settings} (h : s.check = .ok ()) :
    0 < s.limits.bodyIdle * 1000 := by
  obtain ⟨-, -, -, hbody⟩ := Settings.limits_pos h
  exact Nat.mul_pos hbody (by decide)

/-- The body of an answer that is handed on gets through up to the first moment at which it has
been silent for the limit, and breaks off there. Without such a moment all of it gets through, and
it is whole if the backend has not broken it off. -/
theorem body_cut_by_silence_alone (s : Settings) (h : s.check = .ok ()) :
    ∃ g, Gateway.ofSettings s = .ok g ∧ ∀ e head f rest after,
      g.HandsOn e head f rest after → head.status ≠ switchingProtocols →
      ∀ tl, tl = Timeline.ofActs 0 f (.write rest :: after) →
      ∀ limit, limit = s.limits.bodyIdle * 1000 →
        (g.forward e).answer.status = head.status ∧
        (g.forward e).answer.headers = head.headers.endToEnd ∧
        tl.bytes = (f.feed (written (.write rest :: after))).1 ∧
        (∀ m, IsLeast (tl.silences 0 limit) m →
          (g.forward e).answer.body = ⟨tl.bytesBefore m, false⟩) ∧
        (tl.silences 0 limit = ∅ → (g.forward e).answer.body.bytes = tl.bytes) ∧
        ((g.forward e).answer.body.isWhole = true ↔
          tl.silences 0 limit = ∅ ∧ ∃ ending ∈ tl.ending, ending.isWhole = true) := by
  obtain ⟨b, -, hg⟩ := exists_ofSettings h
  refine ⟨_, hg, fun e head f rest after hon hstatus tl htl limit hlimit => ?_⟩
  have hpos : 0 < 0 + limit := by
    rw [Nat.zero_add, hlimit]
    exact bodyLimit_pos h
  have hrelays := Timeline.relays_relayBody (Nat.zero_le 0) hpos f (.write rest :: after)
  rw [← htl, Nat.sub_zero, hlimit] at hrelays
  rw [hon.answer_eq, hlimit]
  refine ⟨rfl, if_neg hstatus, ?_, fun m hm => hrelays.of_isLeast hm,
    fun hnone => hrelays.bytes_eq hnone, hrelays.isWhole_iff⟩
  rw [htl]
  exact Timeline.bytes_ofActs 0 f _

/-- A body that takes far longer than any limit, without a long pause in it. -/
def slowScript : List Act :=
  [.write (Utf8.encode "HTTP/1.1 200 OK\r\nContent-Length: 3\r\n\r\nh".toList),
    .pass 59999, .write (Utf8.encode "i".toList), .pass 59999, .write (Utf8.encode "!".toList)]

/-- Only the framing of a body goes on in the pause, until it is over. -/
def stalledScript : List Act :=
  [.write (Utf8.encode "HTTP/1.1 200 OK\r\nTransfer-Encoding: chunked\r\n\r\n1\r\nh".toList),
    .pass 30000, .write (Utf8.encode "\r\n2\r".toList), .pass 30000,
    .write (Utf8.encode "\ni!\r\n0\r\n\r\n".toList)]

theorem ends_slowScript : ∃ head, Ends 30000 slowScript
    (.head head (Utf8.encode "h".toList)) (slowScript.drop 1) ∧
      head.status = 200 ∧ framing? bareRequest.method head = some (.sized 3) := by
  have hbefore : Awaits 30000 [] := .nil (by decide)
  exact ⟨_, .found hbefore rfl, rfl, by decide +kernel⟩

theorem ends_stalledScript : ∃ head, Ends 30000 stalledScript
    (.head head (Utf8.encode "1\r\nh".toList)) (stalledScript.drop 1) ∧
      head.status = 200 ∧ framing? bareRequest.method head = some (.chunked .sizeStart 0) := by
  have hbefore : Awaits 30000 [] := .nil (by decide)
  exact ⟨_, .found hbefore rfl, rfl, by decide +kernel⟩

theorem timeline_slowScript :
    Timeline.ofActs 0 (.sized 3) (.write (Utf8.encode "h".toList) :: slowScript.drop 1) =
      ⟨[⟨0, Utf8.encode "h".toList⟩, ⟨59999, Utf8.encode "i".toList⟩,
        ⟨119998, Utf8.encode "!".toList⟩], some ⟨119998, true⟩⟩ := by
  decide +kernel

theorem timeline_stalledScript :
    Timeline.ofActs 0 (.chunked .sizeStart 0)
        (.write (Utf8.encode "1\r\nh".toList) :: stalledScript.drop 1) =
      ⟨[⟨0, Utf8.encode "h".toList⟩, ⟨60000, Utf8.encode "i!".toList⟩], some ⟨60000, true⟩⟩ := by
  decide +kernel

theorem silences_slowScript :
    (Timeline.ofActs 0 (.sized 3)
      (.write (Utf8.encode "h".toList) :: slowScript.drop 1)).silences 0 60000 = ∅ := by
  rw [timeline_slowScript]
  refine Set.eq_empty_of_forall_notMem fun m => ?_
  rintro ⟨since, -, rfl, hframes, hend⟩
  -- too late for a silence before the second frame is too late for one before the end
  have hsecond : 59999 ≤ since ∨ since + 60000 ≤ 59999 :=
    hframes ⟨59999, Utf8.encode "i".toList⟩ (by simp)
  have hlast : since + 60000 ≤ 119998 := hend _ rfl
  omega

theorem isLeast_silences_stalledScript :
    IsLeast ((Timeline.ofActs 0 (.chunked .sizeStart 0)
      (.write (Utf8.encode "1\r\nh".toList) :: stalledScript.drop 1)).silences 0 60000) 60000 := by
  rw [timeline_stalledScript]
  refine ⟨⟨0, .inl rfl, rfl, by simp, by simp⟩, ?_⟩
  rintro m ⟨since, -, rfl, -, -⟩
  omega

/-- Two minutes in short pauses cut nothing, and one minute without a frame cuts. -/
theorem slow_body_and_stalled_body :
    ∃ g, Gateway.ofSettings { backendUrl := "http://[::1]:9091" } = .ok g ∧
      ∀ peer : Net.IpAddress,
        ((g.forward ⟨bareRequest, peer, .acts slowScript, [], false⟩).answer.body.bytes =
            Utf8.encode "hi!".toList ∧
          (g.forward ⟨bareRequest, peer, .acts slowScript, [], false⟩).answer.body.isWhole = true) ∧
        (g.forward ⟨bareRequest, peer, .acts stalledScript, [], false⟩).answer.body =
          ⟨Utf8.encode "h".toList, false⟩ := by
  obtain ⟨g, hg, h⟩ := body_cut_by_silence_alone _ check_near
  obtain rfl := Except.ok.inj (hg.symm.trans ofSettings_near)
  let g : Gateway := ⟨nearBackend, ({} : Settings).rule, "/healthz", {}⟩
  have hlimit : 60000 = ({} : Settings).limits.bodyIdle * 1000 := by decide
  have hstatus : (200 : Nat) ≠ switchingProtocols := by decide
  refine ⟨g, hg, fun peer => ⟨?_, ?_⟩⟩
  · let e : Exchange := ⟨bareRequest, peer, .acts slowScript, [], false⟩
    obtain ⟨head, hends, hok, hframing⟩ := ends_slowScript
    have hon := handsOn_of_root (g := g) (e := e) rfl rfl rfl rfl hends hframing
    obtain ⟨-, -, -, -, hall, hwhole⟩ := h e head _ _ _ hon (hok ▸ hstatus) _ rfl _ hlimit
    refine ⟨(hall silences_slowScript).trans ?_, hwhole.mpr ⟨silences_slowScript, ?_⟩⟩
    · rw [timeline_slowScript]
      decide +kernel
    · rw [timeline_slowScript]
      exact ⟨_, rfl, rfl⟩
  · let e : Exchange := ⟨bareRequest, peer, .acts stalledScript, [], false⟩
    obtain ⟨head, hends, hok, hframing⟩ := ends_stalledScript
    have hon := handsOn_of_root (g := g) (e := e) rfl rfl rfl rfl hends hframing
    obtain ⟨-, -, -, hcut, -⟩ := h e head _ _ _ hon (hok ▸ hstatus) _ rfl _ hlimit
    refine (hcut 60000 isLeast_silences_stalledScript).trans ?_
    rw [timeline_stalledScript]
    decide +kernel

end ScopeGateway.Gateway
