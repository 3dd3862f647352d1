import ScopeGateway.Proofs.Gateway.LatchStep

/-!
What has been done to latches and what it comes to: of which latch a handle, a listener or a wait
is, what has triggered a latch, and when nobody is left to trigger it. Nothing else decides what the
latches answer.
-/
namespace ScopeGateway

/-- Actions and their answers, the latest first. -/
abbrev LatchLog := List (LatchAction × LatchAnswer)

namespace LatchLog

/-- The log of a whole history, from the first latch on. -/
def Answered (log : LatchLog) : Prop :=
  Latches.answers? {} (log.reverse.map Prod.fst) = some (log.reverse.map Prod.snd)

/-- The latch of an item: that of what it was made of, a new one if it was made of nothing. -/
def latchOf? : LatchLog → LatchItem → Option Nat
  | [], item => if item = ⟨.handle, 0⟩ then some 0 else none
  | (a, answer) :: log, item =>
    if a.made? answer = some item then
      match a.on? with
      | none => some (1 + (log.map Prod.fst).count .new)
      | some source => latchOf? log source
    else latchOf? log item

/-- Some handle of the latch has been triggered, whatever became of it. -/
def Triggered (log : LatchLog) (l : Nat) : Prop :=
  ∃ h, log.latchOf? ⟨.handle, h⟩ = some l ∧ .trigger h ∈ log.map Prod.fst

/-- Every handle of the latch has been dropped. -/
def Abandoned (log : LatchLog) (l : Nat) : Prop :=
  ∀ h, log.latchOf? ⟨.handle, h⟩ = some l → .drop h ∈ log.map Prod.fst

/-- Nothing is left to wait for. -/
def IsOpen (log : LatchLog) (l : Nat) : Prop := log.Triggered l ∨ log.Abandoned l

open Latches

/-- What the latches still know of their log. -/
structure Tracks (log : LatchLog) (s : Latches) : Prop where
  latchOf : ∀ item, log.latchOf? item = s.latchAt? item
  latches : s.triggered.length = 1 + (log.map Prod.fst).count .new
  isSound : s.IsSound
  there : ∀ a ∈ log.map Prod.fst, ∀ item, a.on? = some item → ∃ l, s.latchAt? item = some l
  triggered : ∀ l, s.isTriggered l = true ↔ log.Triggered l
  dropped : ∀ h, s.IsDropped h ↔ .drop h ∈ log.map Prod.fst
  ended : ∀ i, s.IsOver i ↔ (.poll i, .ready) ∈ log

variable {log : LatchLog} {s s' : Latches} {a : LatchAction} {answer : LatchAnswer} {l : Nat}

theorem Tracks.start : Tracks [] {} where
  latchOf
    | ⟨.handle, 0⟩ => rfl
    | ⟨.handle, n + 1⟩ => by simp [latchOf?, latchAt?, latchesOf]
    | ⟨.listener, n⟩ => by simp [latchOf?, latchAt?, latchesOf]
    | ⟨.wait, n⟩ => by simp [latchOf?, latchAt?, latchesOf]
  latches := rfl
  isSound := by
    rintro ⟨_ | _ | _, _ | n⟩ l h
    all_goals simp [latchAt?, latchesOf] at h
    exact h ▸ Nat.one_pos
  there := by simp
  triggered l := by cases l <;> simp [Latches.isTriggered, Triggered]
  dropped h := by cases h <;> simp [IsDropped]
  ended := by simp [IsOver]

theorem Tracks.latchOf?_cons (ht : Tracks log s) (hstep : s.Step a s' answer) (item : LatchItem) :
    latchOf? ((a, answer) :: log) item = s'.latchAt? item := by
  rw [latchOf?, hstep.latchAt?, latchFor?]
  split
  · cases a.on? with
    | none => exact congrArg some ht.latches.symm
    | some source => exact ht.latchOf source
  · exact ht.latchOf item

theorem Tracks.there_cons (ht : Tracks log s) (hstep : s.Step a s' answer) :
    ∀ b ∈ a :: log.map Prod.fst, ∀ item, b.on? = some item → ∃ l, s.latchAt? item = some l := by
  intro b hb item hon
  obtain rfl | hb := List.mem_cons.mp hb
  · exact hstep.exists_latchAt? hon
  · exact ht.there b hb item hon

theorem Tracks.triggered_cons (ht : Tracks log s) (hstep : s.Step a s' answer) :
    Triggered ((a, answer) :: log) l ↔
      log.Triggered l ∨ ∃ h, s.latchAt? ⟨.handle, h⟩ = some l ∧ a = .trigger h := by
  -- an action is on what was there before it, so what it makes is no handle triggered so far
  have hof : ∀ h, .trigger h ∈ a :: log.map Prod.fst →
      latchOf? ((a, answer) :: log) ⟨.handle, h⟩ = s.latchAt? ⟨.handle, h⟩ := by
    intro h hmem
    obtain ⟨l', hl'⟩ := ht.there_cons hstep _ hmem _ rfl
    rw [ht.latchOf?_cons hstep, hstep.latchAt?_of_some hl', hl']
  constructor
  · rintro ⟨h, hl, hmem⟩
    rw [hof h hmem] at hl
    obtain rfl | hmem := List.mem_cons.mp hmem
    · exact .inr ⟨h, hl, rfl⟩
    · exact .inl ⟨h, (ht.latchOf _).trans hl, hmem⟩
  · rintro (⟨h, hl, hmem⟩ | ⟨h, hl, rfl⟩)
    · have hmem' := List.mem_cons_of_mem a hmem
      exact ⟨h, (hof h hmem').trans ((ht.latchOf _).symm.trans hl), hmem'⟩
    · exact ⟨h, (hof h List.mem_cons_self).trans hl, List.mem_cons_self⟩

theorem Tracks.step (ht : Tracks log s) (hstep : s.Step a s' answer) :
    Tracks ((a, answer) :: log) s' where
  latchOf := ht.latchOf?_cons hstep
  latches := by
    rw [hstep.length_triggered, ht.latches, List.map_cons, List.count_cons, Nat.add_assoc]
    simp
  isSound := hstep.isSound ht.isSound
  there b hb item hon := by
    obtain ⟨l, hl⟩ := ht.there_cons hstep b hb item hon
    exact ⟨l, hstep.latchAt?_of_some hl⟩
  triggered l := by rw [hstep.isTriggered_iff ht.isSound, ht.triggered, ht.triggered_cons hstep]
  dropped h := by
    rw [hstep.isDropped_iff, ht.dropped, List.map_cons, List.mem_cons, or_comm, eq_comm]
  ended i := by
    rw [hstep.isOver_iff, ht.ended, List.mem_cons, Prod.mk.injEq, or_comm, eq_comm (a := a),
      eq_comm (a := answer)]

/-- The log of the actions that lead from the first latch to the latches as they are. -/
inductive Reaches : LatchLog → Latches → Prop where
  | start : Reaches [] {}
  | step {log : LatchLog} {s s' : Latches} {a : LatchAction} {answer : LatchAnswer}
      (run : Reaches log s) (step : s.Step a s' answer) : Reaches ((a, answer) :: log) s'

theorem Reaches.tracks (run : Reaches log s) : Tracks log s := by
  induction run with
  | start => exact .start
  | step _ hstep ih => exact ih.step hstep

theorem Reaches.answers?_append {actions : List LatchAction} {answers : List LatchAnswer}
    (run : Reaches log s) (h : s.answers? actions = some answers) :
    Latches.answers? {} (log.reverse.map Prod.fst ++ actions) =
      some (log.reverse.map Prod.snd ++ answers) := by
  induction run generalizing actions answers with
  | start => exact h
  | step _ hstep ih =>
    have hcons := answers?_cons_eq_some.mpr ⟨_, _, _, hstep, h, rfl⟩
    simpa using ih hcons

theorem Reaches.of_answers? {more : LatchLog} (run : Reaches log s)
    (h : s.answers? (more.map Prod.fst) = some (more.map Prod.snd)) :
    ∃ t, Reaches (more.reverse ++ log) t := by
  induction more generalizing log s with
  | nil => exact ⟨s, run⟩
  | cons e rest ih =>
    obtain ⟨s', answer, tail, hstep, htail, heq⟩ := answers?_cons_eq_some.mp h
    obtain ⟨rfl, rfl⟩ := List.cons.inj heq
    obtain ⟨t, ht⟩ := ih (run.step hstep) htail
    exact ⟨t, by simpa using ht⟩

theorem answered_iff : Answered log ↔ ∃ s, Reaches log s := by
  constructor
  · intro h
    obtain ⟨t, run⟩ := Reaches.of_answers? .start h
    exact ⟨t, by simpa using run⟩
  · rintro ⟨s, run⟩
    have h := run.answers?_append (show s.answers? [] = some [] from rfl)
    rwa [List.append_nil, List.append_nil] at h

theorem Reaches.unique (run : Reaches log s) (run' : Reaches log s') : s = s' := by
  induction run generalizing s' with
  | start => cases run'; rfl
  | step _ hstep ih =>
    cases run' with
    | step run' hstep' =>
      obtain rfl := ih run'
      have heq := (step?_eq_some.mpr hstep).symm.trans (step?_eq_some.mpr hstep')
      exact (Prod.mk.inj (Option.some.inj heq)).1

theorem Reaches.answered_cons_iff (run : Reaches log s) :
    Answered ((a, answer) :: log) ↔ ∃ s', s.Step a s' answer := by
  rw [answered_iff]
  constructor
  · rintro ⟨s', run'⟩
    cases run' with
    | step run' hstep => exact ⟨s', run.unique run' ▸ hstep⟩
  · exact fun ⟨s', hstep⟩ => ⟨s', run.step hstep⟩

theorem Tracks.isOpen_iff (ht : Tracks log s) : s.isOpen l = true ↔ log.IsOpen l := by
  rw [Latches.isOpen_iff, ht.triggered, IsOpen, Abandoned]
  refine or_congr_right (forall_congr' fun h => ?_)
  rw [ne_eq, getElem?_handles_live, ht.dropped, ht.latchOf, not_and, Classical.not_not]

/-- A handle is answered whether its latch has been triggered, by whatever handle. -/
theorem answered_isTriggered_iff (hlog : log.Answered) {h : Nat} :
    Answered ((.isTriggered h, answer) :: log) ↔
      ∃ l b, log.latchOf? ⟨.handle, h⟩ = some l ∧ .drop h ∉ log.map Prod.fst ∧
        answer = .flag b ∧ (b = true ↔ log.Triggered l) := by
  obtain ⟨s, run⟩ := answered_iff.mp hlog
  have ht := run.tracks
  simp only [run.answered_cons_iff, step_isTriggered_iff, getElem?_handles_live, ht.dropped,
    ht.latchOf, ← ht.triggered]
  constructor
  · rintro ⟨_, l, ⟨hl, hdrop⟩, rfl, rfl⟩
    exact ⟨l, _, hl, hdrop, rfl, Iff.rfl⟩
  · rintro ⟨l, b, hl, hdrop, rfl, hb⟩
    exact ⟨s, l, ⟨hl, hdrop⟩, by rw [Bool.eq_iff_iff.mpr hb], rfl⟩

/-- A wait is answered whether it has come to its end, and once only that it has. -/
theorem answered_poll_iff (hlog : log.Answered) {i : Nat} :
    Answered ((.poll i, answer) :: log) ↔
      ∃ l, log.latchOf? ⟨.wait, i⟩ = some l ∧
        ((.poll i, .ready) ∈ log ∧ answer = .finished ∨
          (.poll i, .ready) ∉ log ∧ log.IsOpen l ∧ answer = .ready ∨
          (.poll i, .ready) ∉ log ∧ ¬log.IsOpen l ∧ answer = .pending) := by
  obtain ⟨s, run⟩ := answered_iff.mp hlog
  have ht := run.tracks
  simp only [run.answered_cons_iff, exists_step_poll_iff, getElem?_waits, ht.ended, ht.latchOf,
    ← ht.isOpen_iff, Bool.not_eq_true]
  constructor
  · rintro ⟨l, ended, ⟨hl, hended⟩, ⟨rfl, rfl⟩ | ⟨rfl, h⟩⟩
    · exact ⟨l, hl, .inl ⟨hended.mp rfl, rfl⟩⟩
    · have hnot := fun hmem => Bool.false_ne_true (hended.mpr hmem)
      exact ⟨l, hl, .inr (h.imp (⟨hnot, ·⟩) (⟨hnot, ·⟩))⟩
  · rintro ⟨l, hl, ⟨hended, rfl⟩ | ⟨hnot, h⟩ | ⟨hnot, h⟩⟩
    · exact ⟨l, true, ⟨hl, by simpa using hended⟩, .inl ⟨rfl, rfl⟩⟩
    · exact ⟨l, false, ⟨hl, by simpa using hnot⟩, .inr ⟨rfl, .inl h⟩⟩
    · exact ⟨l, false, ⟨hl, by simpa using hnot⟩, .inr ⟨rfl, .inr h⟩⟩

/-- Whatever is done, an item stays one of its latch, and what is open stays open. -/
theorem isOpen_append {later : LatchLog} {item : LatchItem} (hl : log.latchOf? item = some l)
    (hopen : log.IsOpen l) (h : Answered (later ++ log)) :
    latchOf? (later ++ log) item = some l ∧ IsOpen (later ++ log) l := by
  induction later with
  | nil => exact ⟨hl, hopen⟩
  | cons e later ih =>
    obtain ⟨s', run⟩ := answered_iff.mp h
    cases run with
    | @step _ s _ _ _ run hstep =>
      have ht : Tracks (later ++ log) s := run.tracks
      obtain ⟨hl, hopen⟩ := ih (answered_iff.mpr ⟨s, run⟩)
      rw [ht.latchOf] at hl
      rw [← ht.isOpen_iff] at hopen
      have ht' := ht.step hstep
      exact ⟨(ht'.latchOf _).trans (hstep.latchAt?_of_some hl),
        ht'.isOpen_iff.mp (hstep.isOpen ht.isSound (ht.isSound _ _ hl) hopen)⟩

/-- A wait that is ready is so until it says so, whatever is done. -/
theorem answered_poll_later {later : LatchLog} {i : Nat} (hlog : log.Answered)
    (hready : Answered ((.poll i, .ready) :: log)) (h : Answered (later ++ log)) :
    Answered ((.poll i, if (.poll i, .ready) ∈ later then .finished else .ready) ::
      (later ++ log)) := by
  obtain ⟨l, hl, ⟨-, h⟩ | ⟨hnot, hopen, -⟩ | ⟨-, -, h⟩⟩ := (answered_poll_iff hlog).mp hready
  · cases h
  · obtain ⟨hl, hopen⟩ := isOpen_append hl hopen h
    refine (answered_poll_iff h).mpr ⟨l, hl, ?_⟩
    split
    · next hmem => exact .inl ⟨List.mem_append_left log hmem, rfl⟩
    · next hmem => exact .inr (.inl ⟨by simp [hmem, hnot], hopen, rfl⟩)
  · cases h

end LatchLog

end ScopeGateway
