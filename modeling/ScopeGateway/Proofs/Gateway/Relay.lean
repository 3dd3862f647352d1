import ScopeGateway.Proofs.Gateway.Conversation

/-!
Which part of a body is relayed: a beginning of it, and all of it unless the backend falls silent.
-/
namespace ScopeGateway

open Http
open Text.Utf8 (Bytes)

/-- Some stretch of the acts lasts for the limit and adds nothing to a body that is not at its
end. -/
def FallsSilent (limit : Nat) (f : Framing) (acts : List Act) : Prop :=
  ∃ before stretch after g, acts = before ++ stretch ++ after ∧ Act.close ∉ before ++ stretch ∧
    f.feed (written (before ++ stretch)) = ((f.feed (written before)).1, some g) ∧
    g ≠ .ended ∧ limit ≤ elapsed stretch

/-- The same of a stretch that the acts begin with, some silence having passed before it. -/
def StaysSilent (limit silence : Nat) (f : Framing) (acts : List Act) : Prop :=
  ∃ stretch after g, acts = stretch ++ after ∧ Act.close ∉ stretch ∧
    f.feed (written stretch) = ([], some g) ∧ g ≠ .ended ∧ limit ≤ silence + elapsed stretch

theorem Http.Framing.feed_ended (bytes : Bytes) :
    Framing.ended.feed bytes = ([], some .ended) := by
  induction bytes with
  | nil => rfl
  | cons b rest ih =>
    rw [feed, step]
    simp only [ih, List.append_nil]

variable {limit silence : Nat} {f g : Framing} {acts : List Act} {bytes part : Bytes}

theorem feed_written_write (hfeed : f.feed bytes = (part, some g)) (acts : List Act) :
    f.feed (written (.write bytes :: acts)) =
      (part ++ (g.feed (written acts)).1, (g.feed (written acts)).2) := by
  rw [written, Framing.feed_append, hfeed]

theorem FallsSilent.cons_write (hfeed : f.feed bytes = (part, some g))
    (h : FallsSilent limit g acts) : FallsSilent limit f (.write bytes :: acts) := by
  obtain ⟨before, stretch, after, last, rfl, hopen, hsame, hlast, hlimit⟩ := h
  refine ⟨.write bytes :: before, stretch, after, last, rfl, ?_, ?_, hlast, hlimit⟩
  · rw [List.cons_append, List.mem_cons, not_or]
    exact ⟨nofun, hopen⟩
  · rw [List.cons_append, feed_written_write hfeed, feed_written_write hfeed, hsame]

theorem FallsSilent.cons {act : Act} (hopen : act ≠ .close) (hwrite : written [act] = [])
    (h : FallsSilent limit f acts) : FallsSilent limit f (act :: acts) := by
  obtain ⟨before, stretch, after, last, rfl, hbefore, hsame, hlast, hlimit⟩ := h
  have hact : Act.close ∉ [act] := by
    rw [List.mem_singleton]
    exact hopen.symm
  have hwritten (acts : List Act) : written (act :: acts) = written acts := by
    rw [← List.singleton_append, written_append hact, hwrite, List.nil_append]
  refine ⟨act :: before, stretch, after, last, rfl, ?_, ?_, hlast, hlimit⟩
  · rw [List.cons_append, List.mem_cons, not_or]
    exact ⟨hopen.symm, hbefore⟩
  · rw [List.cons_append, hwritten, hwritten, hsame]

theorem not_fallsSilent_of_elapsed (h : elapsed acts < limit) : ¬FallsSilent limit f acts := by
  rintro ⟨before, stretch, after, -, rfl, -, -, -, hlimit⟩
  rw [elapsed_append, elapsed_append] at h
  omega

/-- A silence from the start on is one. -/
theorem StaysSilent.fallsSilent (h : StaysSilent limit 0 f acts) : FallsSilent limit f acts := by
  obtain ⟨stretch, after, last, rfl, hopen, hsame, hlast, hlimit⟩ := h
  rw [Nat.zero_add] at hlimit
  exact ⟨[], stretch, after, last, rfl, hopen, hsame, hlast, hlimit⟩

/-- Some bytes of the framing alone do not end a silence, but bytes of the body do. -/
theorem StaysSilent.cons_write (hfeed : f.feed bytes = (part, some g))
    (h : StaysSilent limit (if part.isEmpty then silence else 0) g acts) :
    FallsSilent limit f (.write bytes :: acts) ∨
      StaysSilent limit silence f (.write bytes :: acts) := by
  cases part with
  | nil =>
    obtain ⟨stretch, after, last, rfl, hopen, hsame, hlast, hlimit⟩ := h
    refine .inr ⟨.write bytes :: stretch, after, last, rfl, ?_, ?_, hlast, hlimit⟩
    · rw [List.mem_cons, not_or]
      exact ⟨nofun, hopen⟩
    · rw [feed_written_write hfeed, hsame]
      rfl
  | cons b part => exact .inl (FallsSilent.cons_write hfeed h.fallsSilent)

theorem StaysSilent.cons_pass {millis : Nat} (h : StaysSilent limit (silence + millis) f acts) :
    StaysSilent limit silence f (.pass millis :: acts) := by
  obtain ⟨stretch, after, last, rfl, hopen, hsame, hlast, hlimit⟩ := h
  refine ⟨.pass millis :: stretch, after, last, rfl, ?_, hsame, hlast, ?_⟩
  · rw [List.mem_cons, not_or]
    exact ⟨nofun, hopen⟩
  · rwa [elapsed, ← Nat.add_assoc]

theorem StaysSilent.cons_stop (h : StaysSilent limit silence f acts) :
    StaysSilent limit silence f (.stop :: acts) := by
  obtain ⟨stretch, after, last, rfl, hopen, hsame, hlast, hlimit⟩ := h
  refine ⟨.stop :: stretch, after, last, rfl, ?_, hsame, hlast, hlimit⟩
  rw [List.mem_cons, not_or]
  exact ⟨nofun, hopen⟩

/-- Unless all of the body gets through, the backend has fallen silent somewhere. -/
theorem relayBody_bytes_or (limit silence : Nat) (f : Framing) (acts : List Act) :
    (relayBody limit silence f acts).bytes = (f.feed (written acts)).1 ∨
      FallsSilent limit f acts ∨ StaysSilent limit silence f acts := by
  fun_induction relayBody limit silence f acts with
  | case1 silence acts => exact .inl (by rw [Framing.feed_ended])
  | case2 silence f hf => exact .inl rfl
  | case3 silence f bytes rest hf part hfeed =>
    left
    rw [written, Framing.feed_append, hfeed]
  | case4 silence f bytes rest hf part g hfeed ih =>
    obtain ih | ih | ih := ih
    · left
      rw [feed_written_write hfeed]
      exact congrArg (part ++ ·) ih
    · exact .inr (.inl (ih.cons_write hfeed))
    · exact .inr (ih.cons_write hfeed)
  | case5 silence f millis rest hf hlimit =>
    -- the cut itself: this act is the last of the silence
    exact .inr (.inr ⟨[.pass millis], rest, f, rfl, by simp, rfl, hf, hlimit⟩)
  | case6 silence f millis rest hf hlimit ih =>
    obtain ih | ih | ih := ih
    · exact .inl ih
    · exact .inr (.inl (ih.cons (by simp) rfl))
    · exact .inr (.inr ih.cons_pass)
  | case7 silence f rest hf => exact .inl rfl
  | case8 silence f rest hf ih =>
    obtain ih | ih | ih := ih
    · exact .inl ih
    · exact .inr (.inl (ih.cons (by simp) rfl))
    · exact .inr (.inr ih.cons_stop)

theorem relayBody_bytes (h : ¬FallsSilent limit f acts) :
    (relayBody limit 0 f acts).bytes = (f.feed (written acts)).1 := by
  obtain heq | hsilent | hsilent := relayBody_bytes_or limit 0 f acts
  · exact heq
  · exact absurd hsilent h
  · exact absurd hsilent.fallsSilent h

theorem relayBody_prefix_append (limit silence : Nat) (f : Framing) (a b : List Act) :
    (relayBody limit silence f a).bytes <+: (relayBody limit silence f (a ++ b)).bytes := by
  fun_induction relayBody limit silence f a with
  | case1 silence a => exact List.nil_prefix
  | case2 silence f hf => exact List.nil_prefix
  | case3 silence f bytes rest hf part hfeed =>
    rw [List.cons_append, relayBody]
    · rewrite [hfeed]
      exact List.prefix_rfl
    · exact hf
  | case4 silence f bytes rest hf part g hfeed ih =>
    rw [List.cons_append, relayBody]
    · rw [hfeed]
      exact (List.prefix_append_right_inj part).mpr ih
    · exact hf
  | case5 silence f millis rest hf hlimit => exact List.nil_prefix
  | case6 silence f millis rest hf hlimit ih =>
    rw [List.cons_append, relayBody]
    · rwa [if_neg hlimit]
    · exact hf
  | case7 silence f rest hf => exact List.nil_prefix
  | case8 silence f rest hf ih =>
    rw [List.cons_append, relayBody]
    · exact ih
    · exact hf

/-- What comes before any silence gets through. -/
theorem feed_prefix_relayBody {heard : List Act} (h : ¬FallsSilent limit f heard)
    (unheard : List Act) :
    (f.feed (written heard)).1 <+: (relayBody limit 0 f (heard ++ unheard)).bytes := by
  rw [← relayBody_bytes h]
  exact relayBody_prefix_append limit 0 f heard unheard

/-- Nothing is relayed that the backend has not written, and what is called whole is whole. -/
theorem exists_relayBody_append (limit silence : Nat) (f : Framing) (acts : List Act) :
    ∃ later, (f.feed (written acts)).1 = (relayBody limit silence f acts).bytes ++ later ∧
      ((relayBody limit silence f acts).isWhole = true → later = []) := by
  fun_induction relayBody limit silence f acts with
  | case1 silence acts => exact ⟨[], by rw [Framing.feed_ended]; rfl, fun _ => rfl⟩
  | case2 silence f hf => exact ⟨[], rfl, nofun⟩
  | case3 silence f bytes rest hf part hfeed =>
    refine ⟨[], ?_, nofun⟩
    rw [written, Framing.feed_append, hfeed, List.append_nil]
  | case4 silence f bytes rest hf part g hfeed ih =>
    obtain ⟨later, heq, hwhole⟩ := ih
    refine ⟨later, ?_, hwhole⟩
    rw [feed_written_write hfeed, heq]
    exact (List.append_assoc _ _ _).symm
  | case5 silence f millis rest hf hlimit => exact ⟨_, rfl, nofun⟩
  | case6 silence f millis rest hf hlimit ih => exact ih
  | case7 silence f rest hf => exact ⟨[], rfl, fun _ => rfl⟩
  | case8 silence f rest hf ih => exact ih

end ScopeGateway
