/-!
# Runs

A list in which neighbours that are the same are kept once. On a sorted list this keeps the first
of everything that sorts equal.
-/

namespace LinksBinding

/-- The first of each run of elements behind `previous`. -/
def firstOfRunsAfter {α : Type} (same : α → α → Bool) (previous : α) : List α → List α
  | [] => []
  | a :: rest =>
    if same previous a then firstOfRunsAfter same previous rest
    else a :: firstOfRunsAfter same a rest

/-- The first of each run of elements that are the same. -/
def firstOfRuns {α : Type} (same : α → α → Bool) : List α → List α
  | [] => []
  | a :: rest => a :: firstOfRunsAfter same a rest

theorem firstOfRunsAfter_sublist {α : Type} (same : α → α → Bool) (previous : α) (items : List α) :
    (firstOfRunsAfter same previous items).Sublist items := by
  induction items generalizing previous with
  | nil => exact .slnil
  | cons a rest ih =>
    rw [firstOfRunsAfter]
    split
    · exact (ih previous).cons a
    · exact (ih a).cons_cons a

/-- Nothing is added and nothing changes places. -/
theorem firstOfRuns_sublist {α : Type} (same : α → α → Bool) (items : List α) :
    (firstOfRuns same items).Sublist items := by
  cases items with
  | nil => exact .slnil
  | cons a rest => exact (firstOfRunsAfter_sublist same a rest).cons_cons a

end LinksBinding
