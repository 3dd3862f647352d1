/-!
Cutting lists at the elements that satisfy a test.
-/
namespace ScopeGateway.Text

/-- The pieces between the elements that satisfy `p`, empty ones included. -/
def splitOn {α : Type} (p : α → Bool) : List α → List (List α)
  | [] => [[]]
  | a :: rest => if p a then [] :: splitOn p rest else (splitOn p rest).modifyHead (a :: ·)

/-- What stands before the first element that satisfies `p`, and what stands after it if there
is one. -/
def cut {α : Type} (p : α → Bool) : List α → List α × Option (List α)
  | [] => ([], none)
  | a :: rest =>
    if p a then ([], some rest)
    else let (before, after) := cut p rest; (a :: before, after)

/-- Some stretch of the list is `part`. -/
def hasInfix {α : Type} [BEq α] (part : List α) : List α → Bool
  | [] => part.isEmpty
  | a :: rest => part.isPrefixOf (a :: rest) || hasInfix part rest

theorem splitOn_ne_nil {α : Type} (p : α → Bool) (l : List α) : splitOn p l ≠ [] := by
  induction l with
  | nil => simp [splitOn]
  | cons a rest ih =>
    by_cases h : p a
    · simp [splitOn, h]
    · cases hs : splitOn p rest with
      | nil => exact absurd hs ih
      | cons w ws => simp [splitOn, h, hs]

end ScopeGateway.Text
