import Mathlib

namespace RecentKeys
variable {α : Type}

-- The last `bound` of a sequence of keys, oldest first.
def recent (bound : Nat) (xs : List α) : List α := xs.drop (xs.length - bound)

-- A first-in first-out cache of at most `bound` keys.
def push (bound : Nat) (kept : List α) (key : α) : List α :=
  if (kept ++ [key]).length > bound then (kept ++ [key]).drop 1 else kept ++ [key]

theorem recent_length (bound : Nat) (xs : List α) : (recent bound xs).length = min bound xs.length := by
  rw [recent,List.length_drop]
  omega

theorem push_recent (positive : 0 < bound) (xs : List α) (key : α) :
    push bound (recent bound xs) key = recent bound (xs ++ [key]) := by
  have size := recent_length bound xs
  unfold push
  rw [List.length_append,List.length_singleton,size]
  by_cases full : bound ≤ xs.length
  · rw [if_pos (by omega)]
    unfold recent
    rw [List.drop_append_of_le_length (by rw [List.length_drop]; omega),List.drop_drop,List.length_append,
      List.length_singleton,List.drop_append_of_le_length (by omega)]
    congr 2
    omega
  · rw [if_neg (by omega)]
    unfold recent
    rw [List.length_append,List.length_singleton,show xs.length - bound = 0 by omega,
      show xs.length + 1 - bound = 0 by omega,List.drop_zero,List.drop_zero]

-- A key stays until `bound` others have been pushed after it.
theorem recent_keeps (few : since.length < bound) (before : List α) (key : α) :
    key ∈ recent bound (before ++ key :: since) := by
  unfold recent
  rw [List.length_append,List.length_cons]
  rw [List.drop_append_of_le_length (by omega)]
  exact List.mem_append_right _ List.mem_cons_self

end RecentKeys
