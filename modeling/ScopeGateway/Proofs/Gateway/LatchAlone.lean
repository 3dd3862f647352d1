import ScopeGateway.Proofs.Gateway.LatchLog

/-!
One latch among others: what is left of a log when the actions about all other latches are left
out is a log again, so no answer about the one depends on the others.
-/
namespace ScopeGateway

namespace LatchAction

/-- The same action, its item under another number. -/
def renumber (f : LatchKind → Nat → Nat) : LatchAction → LatchAction
  | .new => .new
  | .clone h => .clone (f .handle h)
  | .drop h => .drop (f .handle h)
  | .trigger h => .trigger (f .handle h)
  | .isTriggered h => .isTriggered (f .handle h)
  | .listen h => .listen (f .handle h)
  | .cloneListener n => .cloneListener (f .listener n)
  | .wait n => .wait (f .listener n)
  | .poll i => .poll (f .wait i)

/-- The answer to an action, with what has been made under another number. -/
def renumberAnswer (a : LatchAction) (f : LatchKind → Nat → Nat) : LatchAnswer → LatchAnswer
  | .number n => .number (a.makes?.elim n (f · n))
  | answer => answer

end LatchAction

namespace LatchLog

/-- The number an item has among those of a latch. -/
def numberIn (log : LatchLog) (l : Nat) (kind : LatchKind) (n : Nat) : Nat :=
  (List.range n).countP fun k => log.latchOf? ⟨kind, k⟩ = some l

/-- What has been done to one latch, as if there were no other. -/
def alone (l : Nat) : LatchLog → LatchLog
  | [] => []
  | (a, answer) :: log =>
    if a.on?.bind (latchOf? log) = some l then
      (a.renumber (numberIn log l), a.renumberAnswer (numberIn log l) answer) :: alone l log
    else alone l log

end LatchLog

namespace Latches

/-- A latch with all that is of it, as if there were no other. -/
def only (s : Latches) (l : Nat) : Latches where
  triggered := [s.isTriggered l]
  handles := (s.handles.filter (·.latch == l)).map fun h => ⟨0, h.isLive⟩
  listeners := (s.listeners.filter (· == l)).map fun _ => 0
  waits := (s.waits.filter (·.latch == l)).map fun w => ⟨0, w.isOver⟩

/-- The number an item has among those of a latch. -/
def numberIn (s : Latches) (l : Nat) (kind : LatchKind) (n : Nat) : Nat :=
  ((s.latchesOf kind).take n).count l

variable {s s' : Latches} {a : LatchAction} {answer : LatchAnswer} {i l l' : Nat}
  {item : LatchItem}

section

variable {α : Type} {p : α → Bool} {xs : List α} {x y : α}

theorem exists_eq_append_cons (h : xs[i]? = some x) :
    ∃ before after, xs = before ++ x :: after ∧ before.length = i := by
  obtain ⟨hi, rfl⟩ := List.getElem?_eq_some_iff.mp h
  exact ⟨xs.take i, xs.drop (i + 1), by simp, by simp; omega⟩

theorem getElem?_filter_countP (h : xs[i]? = some x) (hx : p x = true) :
    (xs.filter p)[(xs.take i).countP p]? = some x := by
  obtain ⟨before, after, rfl, rfl⟩ := exists_eq_append_cons h
  simp [List.countP_eq_length_filter, List.filter_cons_of_pos hx]

theorem filter_set_countP (h : xs[i]? = some x) (hx : p x = true) (hy : p y = true) :
    (xs.set i y).filter p = (xs.filter p).set ((xs.take i).countP p) y := by
  obtain ⟨before, after, rfl, rfl⟩ := exists_eq_append_cons h
  simp [List.countP_eq_length_filter, List.filter_cons_of_pos hx, List.filter_cons_of_pos hy]

theorem filter_set_of_neg (h : xs[i]? = some x) (hx : p x = false) (hy : p y = false) :
    (xs.set i y).filter p = xs.filter p := by
  obtain ⟨before, after, rfl, rfl⟩ := exists_eq_append_cons h
  simp [hx, hy]

end

theorem numberIn_handle : s.numberIn l .handle i = (s.handles.take i).countP (·.latch == l) := by
  rw [numberIn, latchesOf, ← List.map_take, List.count, List.countP_map]
  rfl

theorem numberIn_wait : s.numberIn l .wait i = (s.waits.take i).countP (·.latch == l) := by
  rw [numberIn, latchesOf, ← List.map_take, List.count, List.countP_map]
  rfl

theorem getElem?_handles_only {live : Bool} (h : s.handles[i]? = some ⟨l, live⟩) :
    (s.only l).handles[s.numberIn l .handle i]? = some ⟨0, live⟩ := by
  rw [only, numberIn_handle, List.getElem?_map, getElem?_filter_countP h (beq_self_eq_true l)]
  rfl

theorem getElem?_listeners_only (h : s.listeners[i]? = some l) :
    (s.only l).listeners[s.numberIn l .listener i]? = some 0 := by
  have hget := getElem?_filter_countP (p := (· == l)) h (beq_self_eq_true l)
  rw [only, List.getElem?_map]
  exact congrArg (Option.map _) hget

theorem getElem?_waits_only {ended : Bool} (h : s.waits[i]? = some ⟨l, ended⟩) :
    (s.only l).waits[s.numberIn l .wait i]? = some ⟨0, ended⟩ := by
  rw [only, numberIn_wait, List.getElem?_map, getElem?_filter_countP h (beq_self_eq_true l)]
  rfl

theorem numberIn_handles_length :
    s.numberIn l .handle s.handles.length = (s.only l).handles.length := by
  rw [numberIn_handle, List.take_length, only, List.length_map, List.countP_eq_length_filter]

theorem numberIn_listeners_length :
    s.numberIn l .listener s.listeners.length = (s.only l).listeners.length := by
  rw [numberIn, latchesOf, List.take_length, only, List.length_map, List.count,
    List.countP_eq_length_filter]

theorem numberIn_waits_length :
    s.numberIn l .wait s.waits.length = (s.only l).waits.length := by
  rw [numberIn_wait, List.take_length, only, List.length_map, List.countP_eq_length_filter]

theorem isTriggered_only : (s.only l).isTriggered 0 = s.isTriggered l := rfl

theorem isOpen_only : (s.only l).isOpen 0 = s.isOpen l := by
  have hhas : (s.only l).hasHandle 0 = s.hasHandle l := by
    simp [hasHandle, only, List.any_filter, Function.comp_def]
  rw [isOpen, isOpen, isTriggered_only, hhas]

theorem only_addHandle : (s.addHandle l).1.only l = ((s.only l).addHandle 0).1 := by
  simp [addHandle, only, Latches.isTriggered]

theorem only_addListener : (s.addListener l).1.only l = ((s.only l).addListener 0).1 := by
  simp [addListener, only, Latches.isTriggered]

theorem only_addWait : (s.addWait l).1.only l = ((s.only l).addWait 0).1 := by
  simp [addWait, only, Latches.isTriggered]

theorem only_set_handle {live live' : Bool} (h : s.handles[i]? = some ⟨l, live⟩) :
    { s with handles := s.handles.set i ⟨l, live'⟩ }.only l =
      { s.only l with
        handles := (s.only l).handles.set (s.numberIn l .handle i) ⟨0, live'⟩ } := by
  rw [only, filter_set_countP h (by simp) (by simp), List.map_set, numberIn_handle]
  rfl

theorem only_set_wait {ended ended' : Bool} (h : s.waits[i]? = some ⟨l, ended⟩) :
    { s with waits := s.waits.set i ⟨l, ended'⟩ }.only l =
      { s.only l with waits := (s.only l).waits.set (s.numberIn l .wait i) ⟨0, ended'⟩ } := by
  rw [only, filter_set_countP h (by simp) (by simp), List.map_set, numberIn_wait]
  rfl

theorem only_set_triggered (hl : l < s.triggered.length) :
    { s with triggered := s.triggered.set l true }.only l =
      { s.only l with triggered := (s.only l).triggered.set 0 true } := by
  simp [only, Latches.isTriggered, hl]

/-- An action about a latch does to it, and answers, what it would if there were no other. -/
theorem Step.only (hstep : s.Step a s' answer) (hs : s.IsSound)
    (hof : a.on?.bind s.latchAt? = some l) :
    (s.only l).Step (a.renumber (s.numberIn l)) (s'.only l)
      (a.renumberAnswer (s.numberIn l) answer) := by
  cases hstep with
  | new => cases hof
  | clone live =>
    obtain rfl := Option.some.inj ((latchAt?_handle live).symm.trans hof)
    simp only [only_addHandle, LatchAction.renumberAnswer, LatchAction.makes?, Option.elim_some,
      numberIn_handles_length]
    exact .clone (getElem?_handles_only live)
  | drop live =>
    obtain rfl := Option.some.inj ((latchAt?_handle live).symm.trans hof)
    rw [only_set_handle live]
    exact .drop (getElem?_handles_only live)
  | trigger live =>
    obtain rfl := Option.some.inj ((latchAt?_handle live).symm.trans hof)
    rw [only_set_triggered (hs _ _ hof)]
    exact .trigger (getElem?_handles_only live)
  | isTriggered live =>
    obtain rfl := Option.some.inj ((latchAt?_handle live).symm.trans hof)
    exact .isTriggered (getElem?_handles_only live)
  | listen live =>
    obtain rfl := Option.some.inj ((latchAt?_handle live).symm.trans hof)
    simp only [only_addListener, LatchAction.renumberAnswer, LatchAction.makes?, Option.elim_some,
      numberIn_listeners_length]
    exact .listen (getElem?_handles_only live)
  | cloneListener there =>
    obtain rfl := Option.some.inj (there.symm.trans hof)
    simp only [only_addListener, LatchAction.renumberAnswer, LatchAction.makes?, Option.elim_some,
      numberIn_listeners_length]
    exact .cloneListener (getElem?_listeners_only there)
  | wait there =>
    obtain rfl := Option.some.inj (there.symm.trans hof)
    simp only [only_addWait, LatchAction.renumberAnswer, LatchAction.makes?, Option.elim_some,
      numberIn_waits_length]
    exact .wait (getElem?_listeners_only there)
  | finished ended =>
    obtain rfl := Option.some.inj ((latchAt?_wait ended).symm.trans hof)
    exact .finished (getElem?_waits_only ended)
  | ready there hopen =>
    obtain rfl := Option.some.inj ((latchAt?_wait there).symm.trans hof)
    rw [only_set_wait there]
    exact .ready (getElem?_waits_only there) (isOpen_only.trans hopen)
  | pending there hshut =>
    obtain rfl := Option.some.inj ((latchAt?_wait there).symm.trans hof)
    exact .pending (getElem?_waits_only there) (isOpen_only.trans hshut)

theorem latchFor?_of_ne_new (h : a ≠ .new) : s.latchFor? a = a.on?.bind s.latchAt? := by
  cases a with
  | new => exact absurd rfl h
  | _ => rfl

theorem ne_of_eq_some {o : Option Nat} (h : o = some l') (hne : o ≠ some l) : l' ≠ l := by
  rintro rfl
  exact hne h

/-- An action about another latch does nothing to this one. -/
theorem Step.only_eq (hstep : s.Step a s' answer) (hl : l < s.triggered.length)
    (hof : s.latchFor? a ≠ some l) : s'.only l = s.only l := by
  cases hstep with
  | new =>
    have hne : s.triggered.length ≠ l := ne_of_eq_some rfl hof
    simp [Latches.only, Latches.isTriggered, List.getD_eq_getElem?_getD,
      List.getElem?_append_left hl, hne]
  | clone live | listen live =>
    have hne := ne_of_eq_some (latchAt?_handle live) hof
    simp [addHandle, addListener, Latches.only, Latches.isTriggered, hne]
  | cloneListener there | wait there =>
    have hne := ne_of_eq_some there hof
    simp [addListener, addWait, Latches.only, Latches.isTriggered, hne]
  | trigger live =>
    have hne := ne_of_eq_some (latchAt?_handle live) hof
    simp [Latches.only, Latches.isTriggered, List.getD_eq_getElem?_getD, List.getElem?_set_ne hne]
  | drop live =>
    have hne := beq_eq_false_iff_ne.mpr (ne_of_eq_some (latchAt?_handle live) hof)
    rw [Latches.only, filter_set_of_neg live hne hne]
    rfl
  | ready there =>
    have hne := beq_eq_false_iff_ne.mpr (ne_of_eq_some (latchAt?_wait there) hof)
    rw [Latches.only, filter_set_of_neg there hne hne]
    rfl
  | isTriggered | finished | pending => rfl

/-- A new latch is as the first one was. -/
theorem Step.only_new (hstep : s.Step .new s' answer) (hs : s.IsSound) :
    s'.only s.triggered.length = {} := by
  cases hstep
  have hfresh (kind : LatchKind) : ∀ l ∈ s.latchesOf kind, l ≠ s.triggered.length := by
    intro l hmem
    obtain ⟨i, hi⟩ := List.mem_iff_getElem?.mp hmem
    exact Nat.ne_of_lt (hs ⟨kind, i⟩ l hi)
  have hhandles : s.handles.filter (·.latch == s.triggered.length) = [] := by
    simpa [Latches.latchesOf] using hfresh .handle
  have hlisteners : s.listeners.filter (· == s.triggered.length) = [] := by
    simpa [Latches.latchesOf] using hfresh .listener
  have hwaits : s.waits.filter (·.latch == s.triggered.length) = [] := by
    simpa [Latches.latchesOf] using hfresh .wait
  simp [Latches.only, Latches.isTriggered, hhandles, hlisteners, hwaits]

end Latches

namespace LatchLog

open Latches

variable {log : LatchLog} {s : Latches} {l : Nat}

theorem Tracks.numberIn_eq (ht : Tracks log s) : numberIn log l = s.numberIn l := by
  funext kind n
  rw [numberIn, Latches.numberIn]
  simp only [ht.latchOf, latchAt?]
  generalize s.latchesOf kind = latches
  induction n with
  | zero => rfl
  | succ n ih =>
    rw [List.range_succ, List.countP_append, ih, List.take_add_one, List.count_append]
    cases h : latches[n]? <;> simp [List.count_singleton, h]

/-- What has been done to one latch leads it to what it has become among the others. -/
theorem Reaches.alone (run : Reaches log s) (l : Nat) :
    (l < s.triggered.length → Reaches (log.alone l) (s.only l)) ∧
      (s.triggered.length ≤ l → log.alone l = []) := by
  induction run with
  | start =>
    refine ⟨fun hl => ?_, fun _ => rfl⟩
    obtain rfl := Nat.lt_one_iff.mp hl
    exact .start
  | @step log s s' a answer run hstep ih =>
    have ht := run.tracks
    have hof : latchOf? log = s.latchAt? := funext ht.latchOf
    rw [hstep.length_triggered, LatchLog.alone, hof, ht.numberIn_eq]
    by_cases hnew : a = .new
    · subst hnew
      have hnone : LatchAction.new.on?.bind s.latchAt? ≠ some l := nofun
      rw [if_neg hnone, if_pos rfl]
      refine ⟨fun hl => ?_, fun hl => ih.2 (Nat.le_of_lt hl)⟩
      -- the new latch is another one, or it is this one and nothing has been done to it yet
      obtain hlt | rfl := Nat.lt_succ_iff_lt_or_eq.mp hl
      · have hne : s.latchFor? .new ≠ some l :=
          fun heq => Nat.ne_of_gt hlt (Option.some.inj heq)
        rw [hstep.only_eq hlt hne]
        exact ih.1 hlt
      · rw [hstep.only_new ht.isSound, ih.2 (Nat.le_refl _)]
        exact .start
    · rw [if_neg hnew, Nat.add_zero, ← latchFor?_of_ne_new hnew]
      split
      · next habout =>
        rw [latchFor?_of_ne_new hnew] at habout
        obtain ⟨item, -, hitem⟩ := Option.bind_eq_some_iff.mp habout
        have hl := ht.isSound item l hitem
        exact ⟨fun _ => (ih.1 hl).step (hstep.only ht.isSound habout),
          fun hle => absurd hl (Nat.not_lt.mpr hle)⟩
      · next hother => exact ⟨fun hl => hstep.only_eq hl hother ▸ ih.1 hl, ih.2⟩

theorem answered_alone (hlog : log.Answered) (l : Nat) : Answered (log.alone l) := by
  obtain ⟨s, run⟩ := answered_iff.mp hlog
  obtain hl | hl := Nat.lt_or_ge l s.triggered.length
  · exact answered_iff.mpr ⟨_, (run.alone l).1 hl⟩
  · rw [(run.alone l).2 hl]
    rfl

theorem Answered.eq_of_map_fst_eq {other : LatchLog} (hlog : log.Answered) (hother : other.Answered)
    (h : other.map Prod.fst = log.map Prod.fst) : other = log := by
  have hsnd : log.reverse.map Prod.snd = other.reverse.map Prod.snd := by
    rw [Answered, List.map_reverse] at hlog hother
    rw [h, hlog] at hother
    exact Option.some.inj hother
  rw [List.map_reverse, List.map_reverse, List.reverse_inj] at hsnd
  rw [← List.zip_unzip other, ← List.zip_unzip log]
  simp only [List.unzip_eq_map, h, hsnd]

/-- A handle tells whether its latch has been triggered, by whatever handle. A wait is ready once
its latch has been triggered, at whatever time, or has no handle left; it says so once and is
finished then, and until it says so it stays ready whatever is done. Nothing of this depends on what
is done to other latches: the actions about one latch, its items numbered by themselves, are
answered the same if there is no other, or others with which other things are done. -/
theorem answers_by_latch (hlog : log.Answered) :
    (∀ h answer, Answered ((.isTriggered h, answer) :: log) ↔
      ∃ l b, log.latchOf? ⟨.handle, h⟩ = some l ∧ .drop h ∉ log.map Prod.fst ∧
        answer = .flag b ∧ (b = true ↔ log.Triggered l)) ∧
    (∀ i answer, Answered ((.poll i, answer) :: log) ↔
      ∃ l, log.latchOf? ⟨.wait, i⟩ = some l ∧
        ((.poll i, .ready) ∈ log ∧ answer = .finished ∨
          (.poll i, .ready) ∉ log ∧ (log.Triggered l ∨ log.Abandoned l) ∧ answer = .ready ∨
          (.poll i, .ready) ∉ log ∧ ¬(log.Triggered l ∨ log.Abandoned l) ∧ answer = .pending)) ∧
    (∀ i (later : LatchLog), Answered ((.poll i, .ready) :: log) → Answered (later ++ log) →
      Answered ((.poll i, if (.poll i, .ready) ∈ later then .finished else .ready) ::
        (later ++ log))) ∧
    ∀ l, Answered (log.alone l) ∧
      ∀ other : LatchLog, other.Answered →
        (other.alone l).map Prod.fst = (log.alone l).map Prod.fst →
        other.alone l = log.alone l := by
  refine ⟨fun _ _ => answered_isTriggered_iff hlog, fun _ _ => answered_poll_iff hlog,
    fun _ _ => answered_poll_later hlog, fun l => ⟨answered_alone hlog l, fun other hother h => ?_⟩⟩
  exact (answered_alone hlog l).eq_of_map_fst_eq (answered_alone hother l) h

/-- Of two latches the first is triggered by the clone of a dropped handle and then gets a listener,
and the second is left by its only handle. -/
def twoLatches : LatchLog :=
  [(.drop 1, .done), (.wait 1, .number 1), (.listen 2, .number 1), (.trigger 2, .done),
    (.drop 0, .done), (.wait 0, .number 0), (.listen 1, .number 0), (.clone 0, .number 2),
    (.new, .number 1)]

theorem answers_of_twoLatches :
    twoLatches.Answered ∧ twoLatches.Triggered 0 ∧
      (twoLatches.Triggered 1 ∨ twoLatches.Abandoned 1) ∧
      Answered ((.poll 0, .finished) :: (.poll 0, .ready) :: twoLatches) ∧
      twoLatches.alone 1 = [(.drop 0, .done), (.wait 0, .number 0), (.listen 0, .number 0)] ∧
      (twoLatches.alone 1).Answered := by
  have hlog : twoLatches.Answered := rfl
  obtain ⟨htold, hpoll, hlater, halone⟩ := answers_by_latch hlog
  refine ⟨hlog, ?_, ?_, hlater 0 [(.poll 0, .ready)] rfl rfl, rfl, (halone 1).1⟩
  · obtain ⟨l, b, ⟨⟩, -, ⟨⟩, htriggered⟩ := (htold 2 (.flag true)).mp rfl
    exact htriggered.mp rfl
  · obtain ⟨l, ⟨⟩, ⟨-, ⟨⟩⟩ | ⟨-, hopen, -⟩ | ⟨-, -, ⟨⟩⟩⟩ := (hpoll 0 .ready).mp rfl
    exact hopen

end LatchLog

end ScopeGateway
