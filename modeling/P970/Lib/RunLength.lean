import Mathlib.Tactic.Common

/-!
# Runs of equal items

A list of runs, each a count and an item, stands for the items it expands to.
`pack max` makes the runs of a list, none of them longer than `max`: it is a right
inverse of `expand`, so every list has runs.
-/

namespace P970.RunLength

section
variable {α : Type*}

def expand (runs : List (Nat × α)) : List α := runs.flatMap fun r => List.replicate r.1 r.2

@[simp] theorem expand_cons (r : Nat × α) (runs : List (Nat × α)) :
    expand (r :: runs) = List.replicate r.1 r.2 ++ expand runs := List.flatMap_cons

variable [DecidableEq α] (max : Nat)

/-- One more item in front: the first run grows when it is of this item and not full. -/
def push (x : α) : List (Nat × α) → List (Nat × α)
  | (n, y) :: runs => if y = x ∧ n < max then (n + 1, y) :: runs else (1, x) :: (n, y) :: runs
  | [] => [(1, x)]

def pack (xs : List α) : List (Nat × α) := xs.foldr (push max) []

theorem expand_push (x : α) (runs : List (Nat × α)) :
    expand (push max x runs) = x :: expand runs := by
  cases runs with
  | nil => rfl
  | cons r runs =>
    obtain ⟨n, y⟩ := r
    rw [push]
    split
    · next h => rw [expand_cons, expand_cons, List.replicate_succ, h.1, List.cons_append]
    · rw [expand_cons, List.replicate_one, List.singleton_append]

theorem expand_pack (xs : List α) : expand (pack max xs) = xs := by
  induction xs with
  | nil => rfl
  | cons x xs ih => exact (expand_push max x _).trans (congrArg (x :: ·) ih)

/-- No run is empty or too long. -/
theorem count_pack (hmax : 0 < max) (xs : List α) : ∀ r ∈ pack max xs, 0 < r.1 ∧ r.1 ≤ max := by
  induction xs with
  | nil => exact nofun
  | cons x xs ih =>
    show ∀ r ∈ push max x (pack max xs), 0 < r.1 ∧ r.1 ≤ max
    cases hp : pack max xs with
    | nil =>
      intro r hr
      obtain rfl := List.mem_singleton.mp hr
      exact ⟨Nat.one_pos, hmax⟩
    | cons q runs =>
      obtain ⟨n, y⟩ := q
      rw [hp] at ih
      intro r hr
      rw [push] at hr
      split at hr
      · next h =>
        rcases List.mem_cons.mp hr with rfl | hr
        · exact ⟨Nat.succ_pos n, h.2⟩
        · exact ih r (List.mem_cons_of_mem _ hr)
      · rcases List.mem_cons.mp hr with rfl | hr
        · exact ⟨Nat.one_pos, hmax⟩
        · exact ih r hr

end

end P970.RunLength
