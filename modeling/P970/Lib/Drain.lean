import Mathlib.Algebra.BigOperators.Group.Finset.Basic
import P970.Lib.LockOrder

/-!
# Threads on their way out

`Work` is a step of a thread that is inside a program, so no thread enters; `WorkN`
counts such steps. From every configuration that disciplined programs reach, the
threads inside all get out, however they are scheduled, each way in the same number
of steps, and until then some thread can step (`Reachable.drains`).
-/

namespace P970.LockOrder

section
variable {T M : Type} [DecidableEq T] [DecidableEq M]

inductive Work (c : T → Thread M) : (T → Thread M) → Prop where
  | lock (t : T) {m : M} {ops : List (Op M)} : (c t).rest = .lock m :: ops →
      (∀ u, m ∉ (c u).held) → Work c (Function.update c t ⟨m :: (c t).held, ops⟩)
  | unlock (t : T) {m : M} {ops : List (Op M)} : (c t).rest = .unlock m :: ops →
      Work c (Function.update c t ⟨(c t).held.erase m, ops⟩)

inductive WorkN : Nat → (T → Thread M) → (T → Thread M) → Prop where
  | refl (c : T → Thread M) : WorkN 0 c c
  | step {n : Nat} {c c' c'' : T → Thread M} : Work c c' → WorkN n c' c'' → WorkN (n + 1) c c''

/-- Only these threads are inside. -/
def Inside (threads : Finset T) (c : T → Thread M) : Prop := ∀ t, t ∉ threads → (c t).rest = []

/-- The steps that are left to them. -/
def left (threads : Finset T) (c : T → Thread M) : Nat := ∑ t ∈ threads, (c t).rest.length

variable {programs : List (Op M) → Prop} {rank : M → Nat} {c c' : T → Thread M}
  {threads : Finset T}

theorem Work.step (h : Work c c') : Step programs c c' := by
  cases h with
  | lock t ht hfree => exact .lock t ht hfree
  | unlock t ht => exact .unlock t ht

theorem Work.ordered (h : Work c c') (ho : Ordered rank c) : Ordered rank c' := by
  have hs : Step (fun _ => False) c c' := h.step
  exact hs.ordered (fun _ hp => hp.elim) ho

/-- While a thread is inside a program, some thread inside can step. -/
theorem Ordered.work (h : Ordered rank c) {t : T} (ht : (c t).rest ≠ []) : ∃ c', Work c c' := by
  suffices ∀ n (t : T) (m : M) ops, (c t).rest = .lock m :: ops → rank m = n → ∃ c', Work c c' by
    cases hr : (c t).rest with
    | nil => exact absurd hr ht
    | cons op ops =>
      cases op with
      | lock m => exact this _ t m ops hr rfl
      | unlock m => exact ⟨_, .unlock t hr⟩
  -- a blocked thread waits for the holder of `m`, which waits for a mutex of lower rank
  intro n
  induction n using Nat.strongRecOn with
  | ind n ih =>
    intro t m ops hr hn
    by_cases hfree : ∀ u, m ∉ (c u).held
    · exact ⟨_, .lock t hr hfree⟩
    · obtain ⟨u, hu⟩ : ∃ u, m ∈ (c u).held := by simpa using hfree
      cases hur : (c u).rest with
      | nil =>
        rw [h.idle_held hur] at hu
        cases hu
      | cons op ops' =>
        cases op with
        | unlock k => exact ⟨_, .unlock u hur⟩
        | lock k =>
          have hlt := (h.lock_new hur).2 m hu
          exact ih (rank k) (by omega) u k ops' hur rfl

/-! ## The steps that are left -/

omit [DecidableEq M] in
theorem Inside.update (h : Inside threads c) {t : T} (ht : t ∈ threads) (th : Thread M) :
    Inside threads (Function.update c t th) := by
  intro u hu
  have hne : u ≠ t := fun he => hu (he ▸ ht)
  rw [Function.update_of_ne hne]
  exact h u hu

/-- Finitely many threads have entered. -/
theorem Reachable.inside (h : Reachable programs c) : ∃ threads : Finset T, Inside threads c := by
  induction h with
  | refl => exact ⟨∅, fun _ _ => rfl⟩
  | @tail c c' _ hs ih =>
    obtain ⟨threads, hin⟩ := ih
    have hmore : ∀ t, Inside (insert t threads) c := fun t u hu =>
      hin u fun hm => hu (Finset.mem_insert_of_mem hm)
    cases hs with
    | enter t ht hops => exact ⟨_, (hmore t).update (Finset.mem_insert_self ..) _⟩
    | lock t ht hfree => exact ⟨_, (hmore t).update (Finset.mem_insert_self ..) _⟩
    | unlock t ht => exact ⟨_, (hmore t).update (Finset.mem_insert_self ..) _⟩

omit [DecidableEq M] in
theorem left_update {t : T} (ht : t ∈ threads) {th : Thread M} {op : Op M}
    (hr : (c t).rest = op :: th.rest) :
    left threads c = left threads (Function.update c t th) + 1 := by
  have hothers : ∑ u ∈ threads.erase t, (Function.update c t th u).rest.length =
      ∑ u ∈ threads.erase t, (c u).rest.length :=
    Finset.sum_congr rfl fun u hu => by rw [Function.update_of_ne (Finset.ne_of_mem_erase hu)]
  rw [left, left, ← Finset.add_sum_erase _ _ ht, ← Finset.add_sum_erase _ _ ht, hothers,
    Function.update_self, hr, List.length_cons]
  omega

/-- A step is one of those that are left. -/
theorem Work.left (h : Work c c') (hin : Inside threads c) :
    left threads c = left threads c' + 1 ∧ Inside threads c' := by
  have hmem : ∀ {t : T} {op : Op M} {ops}, (c t).rest = op :: ops → t ∈ threads := by
    intro t op ops ht
    by_contra hnot
    rw [hin t hnot] at ht
    cases ht
  cases h with
  | lock t ht hfree => exact ⟨left_update (hmem ht) ht, hin.update (hmem ht) _⟩
  | unlock t ht => exact ⟨left_update (hmem ht) ht, hin.update (hmem ht) _⟩

omit [DecidableEq M] in
theorem left_eq_zero (hin : Inside threads c) : left threads c = 0 ↔ ∀ t, (c t).rest = [] := by
  rw [LockOrder.left, Finset.sum_eq_zero_iff]
  constructor
  · intro h t
    by_cases ht : t ∈ threads
    · exact List.length_eq_zero_iff.mp (h t ht)
    · exact hin t ht
  · intro h t _
    rw [h t]
    rfl

/-! ## All of them -/

theorem WorkN.left {k : Nat} (h : WorkN k c c') (ho : Ordered rank c) (hin : Inside threads c) :
    k + left threads c' = left threads c ∧ Ordered rank c' ∧ Inside threads c' := by
  induction h with
  | refl c => exact ⟨Nat.zero_add _, ho, hin⟩
  | step hw _ ih =>
    obtain ⟨hone, hin'⟩ := hw.left hin
    obtain ⟨hall, hrest⟩ := ih (hw.ordered ho) hin'
    exact ⟨by omega, hrest⟩

theorem Reachable.drains (hp : ∀ ops, programs ops → Disciplined rank ops)
    (h : Reachable programs c) : ∃ n, ∀ k c', WorkN k c c' →
      k ≤ n ∧ (k = n ↔ ∀ t, (c' t).rest = []) ∧ (k < n → ∃ c'', Work c' c'') := by
  obtain ⟨threads, hin⟩ := h.inside
  refine ⟨left threads c, fun k c' hk => ?_⟩
  obtain ⟨hsum, ho, hin'⟩ := hk.left (h.ordered hp) hin
  have hzero := left_eq_zero hin'
  refine ⟨by omega, ⟨fun he => hzero.mp (by omega), fun hall => ?_⟩, fun hlt => ?_⟩
  · have hz := hzero.mpr hall
    omega
  · obtain ⟨t, ht⟩ : ∃ t, (c' t).rest ≠ [] := by
      by_contra hnone
      have hz := hzero.mpr fun t => by_contra fun ht => hnone ⟨t, ht⟩
      omega
    exact ho.work ht

end

end P970.LockOrder
