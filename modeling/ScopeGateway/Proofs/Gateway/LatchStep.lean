import ScopeGateway.Gateway.Latch

/-!
What one action does to latches: the item it makes, what it triggers, drops or ends, and that all
the rest stays as it is.
-/
namespace ScopeGateway

inductive LatchKind where
  | handle
  | listener
  | wait
deriving DecidableEq, Repr

/-- A handle, a listener or a wait, by its number. -/
structure LatchItem where
  kind : LatchKind
  number : Nat
deriving DecidableEq, Repr

namespace LatchAction

/-- What an action is on; a new latch is made of nothing. -/
def on? : LatchAction → Option LatchItem
  | .new => none
  | .clone h | .drop h | .trigger h | .isTriggered h | .listen h => some ⟨.handle, h⟩
  | .cloneListener n | .wait n => some ⟨.listener, n⟩
  | .poll i => some ⟨.wait, i⟩

def makes? : LatchAction → Option LatchKind
  | .new | .clone _ => some .handle
  | .listen _ | .cloneListener _ => some .listener
  | .wait _ => some .wait
  | .drop _ | .trigger _ | .isTriggered _ | .poll _ => none

/-- What an action has made. Its number is the answer. -/
def made? (a : LatchAction) : LatchAnswer → Option LatchItem
  | .number n => a.makes?.map (⟨·, n⟩)
  | .done | .flag _ | .pending | .ready | .finished => none

theorem on?_eq_none {a : LatchAction} : a.on? = none ↔ a = .new := by
  cases a <;> simp [on?]

end LatchAction

namespace Latches

/-- What one action can do, and what it needs. -/
inductive Step (s : Latches) : LatchAction → Latches → LatchAnswer → Prop where
  | new : Step s .new
      { s with
        triggered := s.triggered ++ [false]
        handles := s.handles ++ [⟨s.triggered.length, true⟩] }
      (.number s.handles.length)
  | clone {h l : Nat} (live : s.handles[h]? = some ⟨l, true⟩) :
      Step s (.clone h) (s.addHandle l).1 (.number s.handles.length)
  | drop {h l : Nat} (live : s.handles[h]? = some ⟨l, true⟩) :
      Step s (.drop h) { s with handles := s.handles.set h ⟨l, false⟩ } .done
  | trigger {h l : Nat} (live : s.handles[h]? = some ⟨l, true⟩) :
      Step s (.trigger h) { s with triggered := s.triggered.set l true } .done
  | isTriggered {h l : Nat} (live : s.handles[h]? = some ⟨l, true⟩) :
      Step s (.isTriggered h) s (.flag (s.isTriggered l))
  | listen {h l : Nat} (live : s.handles[h]? = some ⟨l, true⟩) :
      Step s (.listen h) (s.addListener l).1 (.number s.listeners.length)
  | cloneListener {n l : Nat} (there : s.listeners[n]? = some l) :
      Step s (.cloneListener n) (s.addListener l).1 (.number s.listeners.length)
  | wait {n l : Nat} (there : s.listeners[n]? = some l) :
      Step s (.wait n) (s.addWait l).1 (.number s.waits.length)
  | finished {i l : Nat} (ended : s.waits[i]? = some ⟨l, true⟩) : Step s (.poll i) s .finished
  | ready {i l : Nat} (there : s.waits[i]? = some ⟨l, false⟩) (isOpen : s.isOpen l = true) :
      Step s (.poll i) { s with waits := s.waits.set i ⟨l, true⟩ } .ready
  | pending {i l : Nat} (there : s.waits[i]? = some ⟨l, false⟩) (isShut : s.isOpen l = false) :
      Step s (.poll i) s .pending

variable {s s' : Latches} {a : LatchAction} {answer : LatchAnswer} {h i l : Nat} {item : LatchItem}

theorem latchOf?_eq_some : s.latchOf? h = some l ↔ s.handles[h]? = some ⟨l, true⟩ := by
  rw [latchOf?, Option.map_eq_some_iff]
  constructor
  · rintro ⟨⟨l', live⟩, hfilter, rfl⟩
    obtain ⟨hget, rfl⟩ := Option.filter_eq_some_iff.mp hfilter
    exact hget
  · exact fun hget => ⟨⟨l, true⟩, by rw [hget]; rfl, rfl⟩

theorem step?_eq_some : s.step? a = some (s', answer) ↔ s.Step a s' answer := by
  constructor
  · intro h
    cases a with
    | new =>
      cases h
      exact .new
    | clone | drop | trigger | isTriggered | listen =>
      obtain ⟨l, hl, heq⟩ := Option.map_eq_some_iff.mp h
      cases heq
      constructor
      exact latchOf?_eq_some.mp hl
    | cloneListener | wait =>
      obtain ⟨l, hl, heq⟩ := Option.map_eq_some_iff.mp h
      cases heq
      constructor
      exact hl
    | poll i =>
      obtain ⟨⟨l, ended⟩, hw, heq⟩ := Option.map_eq_some_iff.mp h
      cases ended with
      | true =>
        cases heq
        exact .finished hw
      | false =>
        cases hopen : s.isOpen l with
        | true =>
          rw [poll, if_neg Bool.false_ne_true, if_pos hopen] at heq
          cases heq
          exact .ready hw hopen
        | false =>
          rw [poll, if_neg Bool.false_ne_true, if_neg (by simp [hopen])] at heq
          cases heq
          exact .pending hw hopen
  · intro h
    cases h with
    | new => rfl
    | clone live | drop live | trigger live | isTriggered live | listen live =>
      rw [step?, latchOf?_eq_some.mpr live]
      rfl
    | cloneListener there | wait there =>
      rw [step?, there]
      rfl
    | finished ended =>
      rw [step?, ended]
      rfl
    | ready there hopen | pending there hopen =>
      rw [step?, there]
      simp [poll, hopen]

theorem answers?_cons_eq_some {rest : List LatchAction} {answers : List LatchAnswer} :
    s.answers? (a :: rest) = some answers ↔
      ∃ s' answer tail, s.Step a s' answer ∧ s'.answers? rest = some tail ∧
        answers = answer :: tail := by
  rw [answers?]
  constructor
  · intro h
    obtain ⟨⟨s', answer⟩, hstep, h⟩ := Option.bind_eq_some_iff.mp h
    obtain ⟨tail, htail, h⟩ := Option.bind_eq_some_iff.mp h
    exact ⟨s', answer, tail, step?_eq_some.mp hstep, htail, (Option.some.inj h).symm⟩
  · rintro ⟨s', answer, tail, hstep, htail, rfl⟩
    exact Option.bind_eq_some_iff.mpr ⟨_, step?_eq_some.mpr hstep,
      Option.bind_eq_some_iff.mpr ⟨tail, htail, rfl⟩⟩

/-- The latches of all items of a kind, in the order of their making. -/
def latchesOf (s : Latches) : LatchKind → List Nat
  | .handle => s.handles.map Handle.latch
  | .listener => s.listeners
  | .wait => s.waits.map Wait.latch

def latchAt? (s : Latches) (item : LatchItem) : Option Nat := (s.latchesOf item.kind)[item.number]?

/-- The latch that an action is about: that of what it is on, or the one it makes. -/
def latchFor? (s : Latches) (a : LatchAction) : Option Nat :=
  match a.on? with
  | none => some s.triggered.length
  | some source => s.latchAt? source

theorem latchAt?_handle {live : Bool} (h : s.handles[i]? = some ⟨l, live⟩) :
    s.latchAt? ⟨.handle, i⟩ = some l := by
  rw [latchAt?, latchesOf, List.getElem?_map, h]
  rfl

theorem latchAt?_wait {ended : Bool} (h : s.waits[i]? = some ⟨l, ended⟩) :
    s.latchAt? ⟨.wait, i⟩ = some l := by
  rw [latchAt?, latchesOf, List.getElem?_map, h]
  rfl

theorem map_set_of_getElem? {α β : Type} {f : α → β} {xs : List α} {x y : α}
    (h : xs[i]? = some x) (hf : f y = f x) : (xs.set i y).map f = xs.map f := by
  obtain ⟨hi, rfl⟩ := List.getElem?_eq_some_iff.mp h
  rw [List.map_set, hf, ← List.getElem_map f (h := by simpa using hi), List.set_getElem_self]

/-- A handle that is dropped is still of its latch, and so is a wait that is over. -/
theorem latchesOf_set_handle {live live' : Bool} (h : s.handles[i]? = some ⟨l, live⟩)
    (kind : LatchKind) :
    { s with handles := s.handles.set i ⟨l, live'⟩ }.latchesOf kind = s.latchesOf kind := by
  cases kind with
  | handle => exact map_set_of_getElem? h rfl
  | listener | wait => rfl

theorem latchesOf_set_wait {ended ended' : Bool} (h : s.waits[i]? = some ⟨l, ended⟩)
    (kind : LatchKind) :
    { s with waits := s.waits.set i ⟨l, ended'⟩ }.latchesOf kind = s.latchesOf kind := by
  cases kind with
  | wait => exact map_set_of_getElem? h rfl
  | handle | listener => rfl

/-- An action makes at most one item, the last of its kind and of the latch that it is about. -/
theorem Step.latchesOf (hstep : s.Step a s' answer) :
    ∃ l, s.latchFor? a = some l ∧
      a.made? answer = a.makes?.map (fun kind => ⟨kind, (s.latchesOf kind).length⟩) ∧
      ∀ kind, s'.latchesOf kind =
        s.latchesOf kind ++ if a.makes? = some kind then [l] else [] := by
  cases hstep with
  | new =>
    refine ⟨_, rfl, by simp [LatchAction.made?, LatchAction.makes?, Latches.latchesOf], ?_⟩
    rintro (_ | _ | _) <;> simp [LatchAction.makes?, Latches.latchesOf]
  | clone live | listen live =>
    refine ⟨_, latchAt?_handle live,
      by simp [LatchAction.made?, LatchAction.makes?, Latches.latchesOf], ?_⟩
    rintro (_ | _ | _) <;> simp [LatchAction.makes?, Latches.latchesOf, addHandle, addListener]
  | cloneListener there | wait there =>
    refine ⟨_, there, by simp [LatchAction.made?, LatchAction.makes?, Latches.latchesOf], ?_⟩
    rintro (_ | _ | _) <;> simp [LatchAction.makes?, Latches.latchesOf, addListener, addWait]
  | trigger live | isTriggered live =>
    exact ⟨_, latchAt?_handle live, rfl, fun kind => (List.append_nil _).symm⟩
  | finished there | pending there =>
    exact ⟨_, latchAt?_wait there, rfl, fun kind => (List.append_nil _).symm⟩
  | drop live =>
    refine ⟨_, latchAt?_handle live, rfl, fun kind => ?_⟩
    exact (latchesOf_set_handle live kind).trans (List.append_nil _).symm
  | ready there =>
    refine ⟨_, latchAt?_wait there, rfl, fun kind => ?_⟩
    exact (latchesOf_set_wait there kind).trans (List.append_nil _).symm

theorem Step.made_eq_some_iff (hstep : s.Step a s' answer) :
    a.made? answer = some item ↔
      a.makes? = some item.kind ∧ item.number = (s.latchesOf item.kind).length := by
  obtain ⟨l, -, hmade, -⟩ := hstep.latchesOf
  rw [hmade, Option.map_eq_some_iff]
  constructor
  · rintro ⟨kind, hkind, rfl⟩
    exact ⟨hkind, rfl⟩
  · rintro ⟨hkind, hnumber⟩
    exact ⟨item.kind, hkind, hnumber ▸ rfl⟩

theorem Step.latchAt? (hstep : s.Step a s' answer) (item : LatchItem) :
    s'.latchAt? item =
      if a.made? answer = some item then s.latchFor? a else s.latchAt? item := by
  obtain ⟨l, hfor, -, hof⟩ := hstep.latchesOf
  rw [Latches.latchAt?, hof, hfor]
  simp only [hstep.made_eq_some_iff]
  by_cases hkind : a.makes? = some item.kind
  · rw [if_pos hkind]
    obtain hlt | heq | hgt := Nat.lt_trichotomy item.number (s.latchesOf item.kind).length
    · rw [List.getElem?_append_left hlt, if_neg (by omega), Latches.latchAt?]
    · rw [heq, List.getElem?_concat_length, if_pos ⟨hkind, rfl⟩]
    · rw [if_neg (by omega), Latches.latchAt?, List.getElem?_eq_none (by simp; omega),
        List.getElem?_eq_none (Nat.le_of_lt hgt)]
  · rw [if_neg hkind, List.append_nil, if_neg (fun h => hkind h.1), Latches.latchAt?]

/-- Nothing that is there changes its latch. -/
theorem Step.latchAt?_of_some (hstep : s.Step a s' answer) (h : s.latchAt? item = some l) :
    s'.latchAt? item = some l := by
  rw [hstep.latchAt?, if_neg, h]
  rw [hstep.made_eq_some_iff]
  rintro ⟨-, hnumber⟩
  rw [Latches.latchAt?, List.getElem?_eq_none (Nat.le_of_eq hnumber.symm)] at h
  cases h

theorem Step.exists_latchAt? (hstep : s.Step a s' answer) (h : a.on? = some item) :
    ∃ l, s.latchAt? item = some l := by
  obtain ⟨l, hfor, -⟩ := hstep.latchesOf
  rw [latchFor?, h] at hfor
  exact ⟨l, hfor⟩

/-- Every item is of a latch that is there. -/
def IsSound (s : Latches) : Prop := ∀ item l, s.latchAt? item = some l → l < s.triggered.length

theorem Step.length_triggered (hstep : s.Step a s' answer) :
    s'.triggered.length = s.triggered.length + if a = .new then 1 else 0 := by
  cases hstep <;> simp [addHandle, addListener, addWait]

theorem Step.isSound (hstep : s.Step a s' answer) (hs : s.IsSound) : s'.IsSound := by
  intro item l h
  rw [hstep.length_triggered]
  rw [hstep.latchAt?] at h
  split at h
  · -- the latch of what has just been made
    rw [latchFor?] at h
    split at h
    · next hon =>
      obtain rfl := LatchAction.on?_eq_none.mp hon
      obtain rfl := Option.some.inj h
      exact Nat.lt_succ_self _
    · exact Nat.lt_add_right _ (hs _ _ h)
  · exact Nat.lt_add_right _ (hs _ _ h)

theorem isTriggered_set (hl : l < s.triggered.length) (l' : Nat) :
    { s with triggered := s.triggered.set l true }.isTriggered l' = true ↔
      s.isTriggered l' = true ∨ l = l' := by
  simp only [isTriggered, List.getD_eq_getElem?_getD, List.getElem?_set]
  split
  · next heq => simp [heq, heq ▸ hl]
  · next hne => simp [hne]

theorem isTriggered_concat (handles : List Handle) (l : Nat) :
    { s with triggered := s.triggered ++ [false], handles := handles }.isTriggered l =
      s.isTriggered l := by
  simp only [isTriggered, List.getD_eq_getElem?_getD, List.getElem?_append]
  split
  · rfl
  · next hge =>
    rw [List.getElem?_eq_none (Nat.le_of_not_lt hge)]
    cases l - s.triggered.length <;> rfl

/-- Only a handle triggers its latch. -/
theorem Step.isTriggered_iff (hstep : s.Step a s' answer) (hs : s.IsSound) :
    s'.isTriggered l = true ↔
      s.isTriggered l = true ∨ ∃ h, s.latchAt? ⟨.handle, h⟩ = some l ∧ a = .trigger h := by
  cases hstep with
  | @trigger h l' live =>
    have hof := latchAt?_handle live
    rw [isTriggered_set (hs _ _ hof)]
    refine or_congr_right ⟨?_, ?_⟩
    · rintro rfl
      exact ⟨h, hof, rfl⟩
    · rintro ⟨_, hof', ⟨⟩⟩
      exact Option.some.inj (hof.symm.trans hof')
  | new => simp [isTriggered_concat]
  | _ => simp [Latches.isTriggered, addHandle, addListener, addWait]

theorem getElem?_set_of_getElem? {α : Type} {xs : List α} {x y : α} (h : xs[i]? = some x)
    (j : Nat) : (xs.set i y)[j]? = if i = j then some y else xs[j]? := by
  rw [List.getElem?_set, if_pos (List.getElem?_eq_some_iff.mp h).1]

def IsDropped (s : Latches) (h : Nat) : Prop := ∃ l, s.handles[h]? = some ⟨l, false⟩

def IsOver (s : Latches) (i : Nat) : Prop := ∃ l, s.waits[i]? = some ⟨l, true⟩

theorem getElem?_concat_of_ne {α : Type} {xs : List α} {x y : α} (hne : x ≠ y) :
    (xs ++ [x])[i]? = some y ↔ xs[i]? = some y := by
  rw [List.getElem?_append]
  split
  · rfl
  · next hge =>
    rw [List.getElem?_eq_none (Nat.le_of_not_lt hge)]
    cases i - xs.length <;> simp [hne]

theorem Step.isDropped_iff (hstep : s.Step a s' answer) :
    s'.IsDropped h ↔ s.IsDropped h ∨ a = .drop h := by
  cases hstep with
  | new | clone => simp [IsDropped, addHandle, getElem?_concat_of_ne]
  | @drop h' l live =>
    simp only [IsDropped, getElem?_set_of_getElem? live, LatchAction.drop.injEq]
    split
    · next heq => simp [heq]
    · next hne => simp [hne]
  | _ => simp [IsDropped, addListener, addWait]

theorem Step.isOver_iff (hstep : s.Step a s' answer) :
    s'.IsOver i ↔ s.IsOver i ∨ a = .poll i ∧ answer = .ready := by
  cases hstep with
  | wait => simp [IsOver, addWait, getElem?_concat_of_ne]
  | @ready i' l there =>
    simp only [IsOver, getElem?_set_of_getElem? there, LatchAction.poll.injEq]
    split
    · next heq => simp [heq]
    · next hne => simp [hne]
  | _ => simp [IsOver, addHandle, addListener]

theorem getElem?_handles_live :
    s.handles[h]? = some ⟨l, true⟩ ↔ s.latchAt? ⟨.handle, h⟩ = some l ∧ ¬s.IsDropped h := by
  rw [latchAt?, latchesOf, List.getElem?_map, IsDropped]
  obtain _ | ⟨l', _ | _⟩ := s.handles[h]? <;> simp

theorem getElem?_waits {ended : Bool} :
    s.waits[i]? = some ⟨l, ended⟩ ↔
      s.latchAt? ⟨.wait, i⟩ = some l ∧ (ended = true ↔ s.IsOver i) := by
  rw [latchAt?, latchesOf, List.getElem?_map, IsOver]
  obtain _ | ⟨l', _ | _⟩ := s.waits[i]? <;> cases ended <;> simp

theorem hasHandle_iff : s.hasHandle l = true ↔ ∃ h : Nat, s.handles[h]? = some ⟨l, true⟩ := by
  rw [← List.mem_iff_getElem?, hasHandle, List.any_eq_true]
  constructor
  · rintro ⟨⟨l', live⟩, hmem, hlive⟩
    obtain ⟨rfl, rfl⟩ : l' = l ∧ live = true := by simpa using hlive
    exact hmem
  · exact fun hmem => ⟨_, hmem, by simp⟩

theorem isOpen_iff :
    s.isOpen l = true ↔
      s.isTriggered l = true ∨ ∀ h : Nat, s.handles[h]? ≠ some ⟨l, true⟩ := by
  rw [isOpen, Bool.or_eq_true, Bool.not_eq_true', ← Bool.not_eq_true, hasHandle_iff, not_exists]

/-- Once a latch is triggered or out of handles, it stays so. -/
theorem Step.isOpen (hstep : s.Step a s' answer) (hs : s.IsSound) (hl : l < s.triggered.length)
    (h : s.isOpen l = true) : s'.isOpen l = true := by
  rw [isOpen_iff] at h ⊢
  obtain h | h := h
  · exact .inl ((hstep.isTriggered_iff hs).mpr (.inl h))
  · right
    cases hstep with
    | new =>
      intro n
      rw [ne_eq, getElem?_concat_of_ne]
      · exact h n
      · rintro ⟨⟩
        omega
    | @clone n l' live =>
      intro n
      rw [addHandle, ne_eq, getElem?_concat_of_ne]
      · exact h n
      · rintro ⟨⟩
        exact h _ live
    | @drop n l' live =>
      intro n
      rw [getElem?_set_of_getElem? live]
      split
      · simp
      · exact h n
    | _ => exact h

theorem step_isTriggered_iff :
    s.Step (.isTriggered h) s' answer ↔
      ∃ l, s.handles[h]? = some ⟨l, true⟩ ∧ answer = .flag (s.isTriggered l) ∧ s' = s := by
  constructor
  · rintro ⟨⟩
    exact ⟨_, ‹_›, rfl, rfl⟩
  · rintro ⟨l, live, rfl, rfl⟩
    exact .isTriggered live

theorem exists_step_poll_iff :
    (∃ s', s.Step (.poll i) s' answer) ↔ ∃ l ended, s.waits[i]? = some ⟨l, ended⟩ ∧
      (ended = true ∧ answer = .finished ∨
        ended = false ∧ (s.isOpen l = true ∧ answer = .ready ∨
          s.isOpen l = false ∧ answer = .pending)) := by
  constructor
  · rintro ⟨s', hstep⟩
    cases hstep with
    | finished ended => exact ⟨_, _, ended, .inl ⟨rfl, rfl⟩⟩
    | ready there hopen => exact ⟨_, _, there, .inr ⟨rfl, .inl ⟨hopen, rfl⟩⟩⟩
    | pending there hshut => exact ⟨_, _, there, .inr ⟨rfl, .inr ⟨hshut, rfl⟩⟩⟩
  · rintro ⟨l, ended, there, ⟨rfl, rfl⟩ | ⟨rfl, ⟨hopen, rfl⟩ | ⟨hshut, rfl⟩⟩⟩
    · exact ⟨_, .finished there⟩
    · exact ⟨_, .ready there hopen⟩
    · exact ⟨_, .pending there hshut⟩

end Latches

end ScopeGateway
