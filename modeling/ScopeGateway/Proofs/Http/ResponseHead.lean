import ScopeGateway.Http.ResponseHead

/-!
Reading heads does not depend on how their bytes are divided among the reads.
-/
namespace ScopeGateway.Http.HeadReader

open Text.Utf8 (Bytes)

theorem feed_append (r : HeadReader) (a b : Bytes) :
    r.feed (a ++ b) =
      match r.feed a with
      | .more next => next.feed b
      | .malformed => .malformed
      | .found h rest => .found h (rest ++ b) := by
  induction a generalizing r with
  | nil => rfl
  | cons x a ih =>
    simp only [List.cons_append, feed]
    cases r.step x with
    | none => rfl
    | some next =>
      simp only
      cases next.head? with
      | none => exact ih next
      | some head =>
        simp only
        split
        · rfl
        · split
          · exact ih {}
          · rfl

variable {r next : HeadReader} {a b : Bytes}

theorem feed_append_of_more (h : r.feed a = .more next) : r.feed (a ++ b) = next.feed b := by
  rw [feed_append, h]

/-- What begins a head can be divided anywhere. -/
theorem exists_more_of_append (h : r.feed (a ++ b) = .more next) :
    ∃ mid, r.feed a = .more mid ∧ mid.feed b = .more next := by
  rw [feed_append] at h
  cases ha : r.feed a with
  | more mid => exact ⟨mid, rfl, by rwa [ha] at h⟩
  | malformed => simp [ha] at h
  | found head rest => simp [ha] at h

end ScopeGateway.Http.HeadReader
