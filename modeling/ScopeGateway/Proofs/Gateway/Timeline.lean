import Mathlib.Order.Bounds.Basic
import ScopeGateway.Proofs.Gateway.Relay

/-!
A body in time: its frames, each at the moment when it arrives, and where the body ends. The clock
alone says what is silence, and the first silence says what is relayed.
-/
namespace ScopeGateway

open Http
open Text.Utf8 (Bytes)

/-- Some bytes of a body that arrive together. -/
structure Frame where
  moment : Nat
  bytes : Bytes
deriving DecidableEq, Repr

/-- The end of a body, where it is whole or has been broken off. -/
structure BodyEnd where
  moment : Nat
  isWhole : Bool
deriving DecidableEq, Repr

/-- A body as it arrives. One that never ends stays silent after its last frame. -/
structure Timeline where
  frames : List Frame
  ending : Option BodyEnd
deriving DecidableEq, Repr

namespace Timeline

/-- With a part of the body before it. No bytes make no frame. -/
def after (tl : Timeline) (moment : Nat) (part : Bytes) : Timeline :=
  { tl with frames := if part.isEmpty then tl.frames else ⟨moment, part⟩ :: tl.frames }

/-- The body that some acts write from a moment on. -/
def ofActs : Nat → Framing → List Act → Timeline
  | t, .ended, _ => ⟨[], some ⟨t, true⟩⟩
  | _, _, [] => ⟨[], none⟩
  | t, f, .write bytes :: rest =>
    match f.feed bytes with
    | (part, none) => (Timeline.mk [] (some ⟨t, false⟩)).after t part
    | (part, some g) => (ofActs t g rest).after t part
  | t, f, .pass millis :: rest => ofActs (t + millis) f rest
  | t, f, .close :: _ => ⟨[], some ⟨t, f.isWholeAtClose⟩⟩
  | t, f, .stop :: rest => ofActs t f rest

def bytes (tl : Timeline) : Bytes := tl.frames.flatMap Frame.bytes

def bytesBefore (tl : Timeline) (m : Nat) : Bytes :=
  (tl.frames.filter (·.moment < m)).flatMap Frame.bytes

/-- The moments at which the limit has elapsed since the frame before, or since the start, and the
body has not ended. What comes just at the limit comes too late. -/
def silences (tl : Timeline) (start limit : Nat) : Set Nat :=
  {m | ∃ since, (since = start ∨ ∃ fr ∈ tl.frames, fr.moment = since) ∧ m = since + limit ∧
    (∀ fr ∈ tl.frames, fr.moment ≤ since ∨ m ≤ fr.moment) ∧ ∀ e ∈ tl.ending, m ≤ e.moment}

/-- Nothing in it comes before this moment. -/
def StartsAt (tl : Timeline) (t : Nat) : Prop :=
  (∀ fr ∈ tl.frames, t ≤ fr.moment) ∧ ∀ e ∈ tl.ending, t ≤ e.moment

/-- What gets through of a body: the frames before the first silence, or all of them. -/
inductive Relays (tl : Timeline) (start limit : Nat) : RelayedBody → Prop
  | cut {m : Nat} : IsLeast (tl.silences start limit) m →
    Relays tl start limit ⟨tl.bytesBefore m, false⟩
  | ended {e : BodyEnd} : tl.silences start limit = ∅ → tl.ending = some e →
    Relays tl start limit ⟨tl.bytes, e.isWhole⟩

section
variable {tl : Timeline} {t start limit m : Nat} {part : Bytes}

theorem mem_frames_after {fr : Frame} :
    fr ∈ (tl.after t part).frames ↔ (part ≠ [] ∧ fr = ⟨t, part⟩) ∨ fr ∈ tl.frames := by
  cases part <;> simp [after]

theorem StartsAt.mono {t' : Nat} (h : tl.StartsAt t) (ht : t' ≤ t) : tl.StartsAt t' :=
  ⟨fun fr hfr => ht.trans (h.1 fr hfr), fun e he => ht.trans (h.2 e he)⟩

theorem StartsAt.after (h : tl.StartsAt t) (part : Bytes) : (tl.after t part).StartsAt t := by
  refine ⟨fun fr hfr => ?_, h.2⟩
  obtain ⟨-, rfl⟩ | hfr := mem_frames_after.mp hfr
  · exact le_rfl
  · exact h.1 fr hfr

theorem startsAt_ofActs (t : Nat) (f : Framing) (acts : List Act) :
    (ofActs t f acts).StartsAt t := by
  fun_induction ofActs t f acts with
  | case1 acts t => simp [StartsAt]
  | case2 t f hf => simp [StartsAt]
  | case3 t f bytes rest hf part hfeed =>
    refine StartsAt.after ?_ part
    simp [StartsAt]
  | case4 t f bytes rest hf part g hfeed ih => exact ih.after part
  | case5 t f millis rest hf ih => exact ih.mono (Nat.le_add_right t millis)
  | case6 t f rest hf => simp [StartsAt]
  | case7 t f rest hf ih => exact ih

theorem bytes_after : (tl.after t part).bytes = part ++ tl.bytes := by
  cases part <;> simp [after, bytes]

theorem bytesBefore_after (h : t < m) :
    (tl.after t part).bytesBefore m = part ++ tl.bytesBefore m := by
  cases part <;> simp [after, bytesBefore, h]

theorem bytesBefore_eq_nil (h : tl.StartsAt m) : tl.bytesBefore m = [] := by
  have hnone : tl.frames.filter (·.moment < m) = [] := by
    simpa [List.filter_eq_nil_iff] using h.1
  rw [bytesBefore, hnone]
  rfl

/-- All that some acts write of a body is in its frames. -/
theorem bytes_ofActs (t : Nat) (f : Framing) (acts : List Act) :
    (ofActs t f acts).bytes = (f.feed (written acts)).1 := by
  fun_induction ofActs t f acts with
  | case1 acts t =>
    rw [Framing.feed_ended]
    rfl
  | case2 t f hf => rfl
  | case3 t f bytes rest hf part hfeed =>
    rw [bytes_after, written, Framing.feed_append, hfeed]
    exact List.append_nil part
  | case4 t f bytes rest hf part g hfeed ih =>
    rw [bytes_after, ih, feed_written_write hfeed]
  | case5 t f millis rest hf ih => exact ih
  | case6 t f rest hf => rfl
  | case7 t f rest hf ih => exact ih

/-- No wait begins before the start and before all frames. -/
theorem StartsAt.le_since {since : Nat} (h : tl.StartsAt t)
    (hsince : since = start ∨ ∃ fr ∈ tl.frames, fr.moment = since) : min start t ≤ since := by
  obtain rfl | ⟨fr, hfr, rfl⟩ := hsince
  · exact min_le_left _ _
  · exact (min_le_right _ _).trans (h.1 fr hfr)

/-- A limit that has not elapsed by now elapses later. -/
theorem lt_of_mem_silences (h : tl.StartsAt t) (ht : t < start + limit) (hlimit : 0 < limit)
    (hm : m ∈ tl.silences start limit) : t < m := by
  obtain ⟨since, hsince, rfl, -, -⟩ := hm
  have := h.le_since hsince
  omega

/-- Before the end nothing has been silent for the limit. -/
theorem silences_eq_empty {e : BodyEnd} (h : tl.StartsAt t) (ht : t < start + limit)
    (hlimit : 0 < limit) (he : tl.ending = some e) (hend : e.moment ≤ t) :
    tl.silences start limit = ∅ := by
  refine Set.eq_empty_of_forall_notMem fun m hm => ?_
  have hlate := lt_of_mem_silences h ht hlimit hm
  obtain ⟨-, -, -, -, hearly⟩ := hm
  have := hearly e he
  omega

/-- If nothing comes until the limit has elapsed since the start, this is the first silence. -/
theorem isLeast_silences (h : tl.StartsAt (start + limit)) :
    IsLeast (tl.silences start limit) (start + limit) := by
  refine ⟨⟨start, .inl rfl, rfl, fun fr hfr => .inr (h.1 fr hfr), h.2⟩, fun m hm => ?_⟩
  obtain ⟨since, hsince, rfl, -, -⟩ := hm
  have := h.le_since hsince
  omega

/-- After a frame the limit counts from that frame on. -/
theorem silences_after (h : tl.StartsAt t) (hstart : start ≤ t) (ht : t < start + limit)
    (hpart : part ≠ []) : (tl.after t part).silences start limit = tl.silences t limit := by
  have hmem (fr : Frame) : fr ∈ (tl.after t part).frames ↔ fr = ⟨t, part⟩ ∨ fr ∈ tl.frames := by
    rw [mem_frames_after, and_iff_right hpart]
  ext m
  constructor
  · rintro ⟨since, hsince, rfl, hframes, hend⟩
    refine ⟨since, ?_, rfl, fun fr hfr => hframes fr ((hmem fr).mpr (.inr hfr)), hend⟩
    obtain rfl | ⟨fr, hfr, rfl⟩ := hsince
    · -- the frame stands between the start and the silence, unless it came with the start
      have := hframes ⟨t, part⟩ ((hmem _).mpr (.inl rfl))
      exact .inl (by dsimp only at this; omega)
    · obtain rfl | hfr := (hmem fr).mp hfr
      · exact .inl rfl
      · exact .inr ⟨fr, hfr, rfl⟩
  · rintro ⟨since, hsince, rfl, hframes, hend⟩
    have hlate : t ≤ since := min_self t ▸ h.le_since hsince
    refine ⟨since, .inr ?_, rfl, fun fr hfr => ?_, hend⟩
    · obtain rfl | ⟨fr, hfr, rfl⟩ := hsince
      · exact ⟨_, (hmem _).mpr (.inl rfl), rfl⟩
      · exact ⟨fr, (hmem fr).mpr (.inr hfr), rfl⟩
    · obtain rfl | hfr := (hmem fr).mp hfr
      · exact .inl hlate
      · exact hframes fr hfr

/-- If nothing comes until the limit has elapsed since the start, nothing gets through. -/
theorem Relays.of_startsAt (h : tl.StartsAt (start + limit)) :
    tl.Relays start limit ⟨[], false⟩ := by
  rw [← bytesBefore_eq_nil h]
  exact .cut (isLeast_silences h)

/-- A body that ends before the limit has elapsed gets through. -/
theorem Relays.of_ending {e : BodyEnd} (h : tl.StartsAt t) (hstart : start ≤ t)
    (ht : t < start + limit) (he : tl.ending = some e) (hend : e.moment ≤ t) :
    tl.Relays start limit ⟨tl.bytes, e.isWhole⟩ :=
  .ended (silences_eq_empty h ht (by omega) he hend) he

theorem Relays.of_isLeast {r : RelayedBody} (hr : tl.Relays start limit r)
    (hm : IsLeast (tl.silences start limit) m) : r = ⟨tl.bytesBefore m, false⟩ := by
  cases hr with
  | cut hleast => rw [hleast.unique hm]
  | ended hnone hend =>
    rw [hnone] at hm
    exact absurd hm.1 (Set.notMem_empty m)

theorem Relays.bytes_eq {r : RelayedBody} (hr : tl.Relays start limit r)
    (hnone : tl.silences start limit = ∅) : r.bytes = tl.bytes := by
  cases hr with
  | cut hleast =>
    rw [hnone] at hleast
    exact absurd hleast.1 (Set.notMem_empty _)
  | ended _ hend => rfl

theorem Relays.isWhole_iff {r : RelayedBody} (hr : tl.Relays start limit r) :
    r.isWhole = true ↔ tl.silences start limit = ∅ ∧ ∃ e ∈ tl.ending, e.isWhole = true := by
  cases hr with
  | cut hleast =>
    refine iff_of_false Bool.false_ne_true ?_
    rintro ⟨hnone, -⟩
    exact Set.notMem_empty _ (hnone ▸ hleast.1)
  | ended hnone hend => simp [hnone, hend]

theorem Relays.after {r : RelayedBody} (h : tl.StartsAt t) (hstart : start ≤ t)
    (ht : t < start + limit)
    (hr : tl.Relays (if part.isEmpty then start else t) limit r) :
    (tl.after t part).Relays start limit (r.after part) := by
  have hsilences : (tl.after t part).silences start limit =
      tl.silences (if part.isEmpty then start else t) limit := by
    cases part with
    | nil => rfl
    | cons b part => exact silences_after h hstart ht (List.cons_ne_nil b part)
  have hlate : t < (if part.isEmpty then start else t) + limit := by
    split <;> omega
  cases hr with
  | cut hleast =>
    rw [RelayedBody.after, ← bytesBefore_after (lt_of_mem_silences h hlate (by omega) hleast.1)]
    rw [← hsilences] at hleast
    exact .cut hleast
  | ended hnone hend =>
    rw [RelayedBody.after, ← bytes_after (t := t)]
    rw [← hsilences] at hnone
    exact .ended hnone hend

end

/-- A relay in which some silence has passed goes on as the timeline of the body says. -/
theorem relays_relayBody {start limit t : Nat} (hstart : start ≤ t) (ht : t < start + limit)
    (f : Framing) (acts : List Act) :
    (ofActs t f acts).Relays start limit (relayBody limit (t - start) f acts) := by
  fun_induction ofActs t f acts generalizing start with
  | case1 acts t =>
    rw [relayBody]
    exact .of_ending (e := ⟨t, true⟩) (by simp [StartsAt]) hstart ht rfl le_rfl
  | case2 t f hf =>
    rw [relayBody]
    · exact .of_startsAt (by simp [StartsAt])
    · exact hf
  | case3 t f bytes rest hf part hfeed =>
    have hbroken : (Timeline.mk [] (some ⟨t, false⟩)).StartsAt t := by simp [StartsAt]
    rw [relayBody]
    · rw [hfeed]
      have hpart : ((Timeline.mk [] (some ⟨t, false⟩)).after t part).bytes = part :=
        bytes_after.trans (List.append_nil part)
      have hends := Relays.of_ending (hbroken.after part) hstart ht rfl le_rfl
      rwa [hpart] at hends
    · exact hf
  | case4 t f bytes rest hf part g hfeed ih =>
    rw [relayBody]
    · rw [hfeed]
      refine .after (startsAt_ofActs t g rest) hstart ht ?_
      -- with a frame the wait starts anew at this moment, and without one it goes on
      cases part with
      | nil => exact ih hstart ht
      | cons b part =>
        have hanew := ih le_rfl (by omega)
        rwa [Nat.sub_self] at hanew
    · exact hf
  | case5 t f millis rest hf ih =>
    rw [relayBody]
    · split_ifs with hlimit
      · exact .of_startsAt ((startsAt_ofActs _ f rest).mono (by omega))
      · rw [show t - start + millis = t + millis - start by omega]
        exact ih (by omega) (by omega)
    · exact hf
  | case6 t f rest hf =>
    rw [relayBody]
    · exact .of_ending (e := ⟨t, f.isWholeAtClose⟩) (by simp [StartsAt]) hstart ht rfl le_rfl
    · exact hf
  | case7 t f rest hf ih =>
    rw [relayBody]
    · exact ih hstart ht
    · exact hf

end Timeline

end ScopeGateway
