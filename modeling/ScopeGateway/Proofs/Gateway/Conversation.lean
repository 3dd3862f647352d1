import Mathlib.Data.List.Basic
import ScopeGateway.Gateway.Conversation
import ScopeGateway.Proofs.Http.ResponseHead

/-!
What the gateway takes from the backend's acts, said without going through them one by one: what
ends the wait for a head, and which part of a body gets through.
-/
namespace ScopeGateway

open Http
open Text.Utf8 (Bytes)

/-- The time that passes during some acts. -/
def elapsed : List Act → Nat
  | [] => 0
  | .pass millis :: rest => millis + elapsed rest
  | .write _ :: rest | .close :: rest | .stop :: rest => elapsed rest

theorem elapsed_append (a b : List Act) : elapsed (a ++ b) = elapsed a + elapsed b := by
  induction a with
  | nil => exact (Nat.zero_add _).symm
  | cons act a ih =>
    cases act with
    | pass millis =>
      change millis + elapsed (a ++ b) = millis + elapsed a + elapsed b
      rw [ih, Nat.add_assoc]
    | write bytes => exact ih
    | close => exact ih
    | stop => exact ih

theorem written_append {a : List Act} (h : Act.close ∉ a) (b : List Act) :
    written (a ++ b) = written a ++ written b := by
  induction a with
  | nil => rfl
  | cons act a ih =>
    have ih := ih fun hmem => h (List.mem_cons_of_mem _ hmem)
    cases act with
    | write bytes =>
      change bytes ++ written (a ++ b) = bytes ++ written a ++ written b
      rw [ih, List.append_assoc]
    | pass millis => exact ih
    | close => exact absurd List.mem_cons_self h
    | stop => exact ih

/-- During these acts the wait for a head goes on: the connection is not closed, the limit is not
reached, and what is written may begin a head but is none yet. -/
structure Awaits (limit : Nat) (acts : List Act) : Prop where
  isOpen : Act.close ∉ acts
  inTime : elapsed acts < limit
  goesOn : ∃ r, HeadReader.feed {} (written acts) = .more r

/-- What ends the wait for a head, and the acts that come after it. When the acts are over before
that, silence is what ends it. -/
inductive Ends (limit : Nat) : List Act → Reply → List Act → Prop
  | found {before after : List Act} {bytes rest : Bytes} {h : ResponseHead} :
    Awaits limit before → HeadReader.feed {} (written before ++ bytes) = .found h rest →
    Ends limit (before ++ .write bytes :: after) (.head h rest) after
  | malformed {before after : List Act} {bytes : Bytes} :
    Awaits limit before → HeadReader.feed {} (written before ++ bytes) = .malformed →
    Ends limit (before ++ .write bytes :: after) .broken after
  | closed {before after : List Act} :
    Awaits limit before → Ends limit (before ++ .close :: after) .broken after
  | elapsed {before after : List Act} {millis : Nat} :
    Awaits limit before → limit ≤ elapsed before + millis →
    Ends limit (before ++ .pass millis :: after) .late after
  | silent {acts : List Act} : Awaits limit acts → Ends limit acts .late []

namespace Awaits

variable {limit : Nat} {before : List Act}

theorem nil (h : 0 < limit) : Awaits limit [] := ⟨List.not_mem_nil, h, _, rfl⟩

theorem snoc (h : Awaits limit before) {act : Act} (hopen : act ≠ .close)
    (htime : elapsed (before ++ [act]) < limit) {r : HeadReader}
    (hmore : HeadReader.feed {} (written before ++ written [act]) = .more r) :
    Awaits limit (before ++ [act]) := by
  refine ⟨?_, htime, r, ?_⟩
  · rw [List.mem_append, List.mem_singleton, not_or]
    exact ⟨h.isOpen, hopen.symm⟩
  · rwa [written_append h.isOpen]

end Awaits

/-- The wait has the same end, whether it is looked at from the start or after a part of it. -/
theorem awaitHead_append {limit t : Nat} {r next : HeadReader} {acts : List Act}
    (hopen : Act.close ∉ acts) (htime : t + elapsed acts < limit)
    (hmore : r.feed (written acts) = .more next) (rest : List Act) :
    awaitHead limit t r (acts ++ rest) = awaitHead limit (t + elapsed acts) next rest := by
  induction acts generalizing t r with
  | nil =>
    obtain rfl := HeadScan.more.inj hmore
    rfl
  | cons act acts ih =>
    have hopen' : Act.close ∉ acts := fun hmem => hopen (List.mem_cons_of_mem _ hmem)
    cases act with
    | write bytes =>
      -- what is written later is read on from here
      obtain ⟨mid, hmid, hmore⟩ := HeadReader.exists_more_of_append hmore
      simp only [List.cons_append, awaitHead, hmid]
      exact ih hopen' htime hmore
    | pass millis =>
      change t + (millis + elapsed acts) < limit at htime
      change awaitHead limit t r (.pass millis :: (acts ++ rest)) =
        awaitHead limit (t + (millis + elapsed acts)) next rest
      rw [awaitHead, if_neg (by omega), ← Nat.add_assoc]
      exact ih hopen' (by omega) hmore
    | close => exact absurd List.mem_cons_self hopen
    | stop => exact ih hopen' htime hmore

section
variable {limit : Nat} {script after : List Act} {reply : Reply}

theorem Awaits.awaitHead_eq {before : List Act} (h : Awaits limit before) (rest : List Act) :
    ∃ r, HeadReader.feed {} (written before) = .more r ∧
      awaitHead limit 0 {} (before ++ rest) = awaitHead limit (elapsed before) r rest := by
  obtain ⟨r, hr⟩ := h.goesOn
  refine ⟨r, hr, ?_⟩
  rw [awaitHead_append h.isOpen (by rw [Nat.zero_add]; exact h.inTime) hr, Nat.zero_add]

theorem Ends.awaitHead_eq (h : Ends limit script reply after) :
    awaitHead limit 0 {} script = (reply, after) := by
  cases h with
  | found hbefore hfeed =>
    obtain ⟨r, hr, heq⟩ := hbefore.awaitHead_eq (.write _ :: after)
    rw [HeadReader.feed_append_of_more hr] at hfeed
    rw [heq, awaitHead, hfeed]
  | malformed hbefore hfeed =>
    obtain ⟨r, hr, heq⟩ := hbefore.awaitHead_eq (.write _ :: after)
    rw [HeadReader.feed_append_of_more hr] at hfeed
    rw [heq, awaitHead, hfeed]
  | closed hbefore =>
    obtain ⟨r, -, heq⟩ := hbefore.awaitHead_eq (.close :: after)
    rw [heq, awaitHead]
  | elapsed hbefore hlimit =>
    obtain ⟨r, -, heq⟩ := hbefore.awaitHead_eq (.pass _ :: after)
    rw [heq, awaitHead, if_pos hlimit]
  | silent hacts =>
    obtain ⟨r, -, heq⟩ := hacts.awaitHead_eq []
    rw [List.append_nil] at heq
    rw [heq, awaitHead]

/-- Act by act: either the wait ends here, or it goes on with the act behind it. -/
theorem exists_ends_append {before : List Act} (h : Awaits limit before) (rest : List Act) :
    ∃ reply after, Ends limit (before ++ rest) reply after := by
  induction rest generalizing before with
  | nil =>
    rw [List.append_nil]
    exact ⟨_, _, .silent h⟩
  | cons act rest ih =>
    have hgoesOn (hnext : Awaits limit (before ++ [act])) :
        ∃ reply after, Ends limit (before ++ act :: rest) reply after := by
      rw [List.append_cons]
      exact ih hnext
    cases act with
    | write bytes =>
      cases hfeed : HeadReader.feed {} (written before ++ bytes) with
      | more r =>
        apply hgoesOn
        refine h.snoc nofun ?_ (r := r) ?_
        · rw [elapsed_append]
          exact h.inTime
        · rwa [written, written, List.append_nil]
      | malformed => exact ⟨_, _, .malformed h hfeed⟩
      | found head after => exact ⟨_, _, .found h hfeed⟩
    | pass millis =>
      by_cases hlimit : limit ≤ elapsed before + millis
      · exact ⟨_, _, .elapsed h hlimit⟩
      · apply hgoesOn
        obtain ⟨r, hr⟩ := h.goesOn
        refine h.snoc nofun ?_ (r := r) ?_
        · rw [elapsed_append]
          exact Nat.not_le.mp hlimit
        · rwa [written, written, List.append_nil]
    | close => exact ⟨_, _, .closed h⟩
    | stop =>
      apply hgoesOn
      obtain ⟨r, hr⟩ := h.goesOn
      refine h.snoc nofun ?_ (r := r) ?_
      · rw [elapsed_append]
        exact h.inTime
      · rwa [written, written, List.append_nil]

end

end ScopeGateway
