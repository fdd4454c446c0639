import Mathlib.Logic.Relation
import Mathlib.Logic.Function.Basic
import Mathlib.Tactic.Common

/-!
# Lock order

Threads that lock and unlock non-recursive mutexes, each running programs that
are lists of lock and unlock steps. `after rank H ops` runs `ops` from the held
mutexes `H`: it fails when a mutex is locked that is already held or that does
not rank strictly below every held one, and when one is unlocked that is not
held. A program is `Disciplined` when it starts and ends with nothing held; a
piece of one is `Neutral n` when it leaves the mutexes as it found them, whatever
mutexes of rank `n` and above are held.

In every interleaving of disciplined programs (`Reachable`) no thread locks what
it holds, waiting respects the ranks, a thread between programs holds nothing,
and no threads wait in a cycle (`Ordered.no_cycle`).
-/

namespace P970.LockOrder

/-- A step on a mutex. -/
inductive Op (M : Type) where
  | lock (m : M)
  | unlock (m : M)
  deriving DecidableEq, Repr

section
variable {M : Type} [DecidableEq M] (rank : M → Nat)

/-- The mutexes held after `ops`, while `ops` keeps the discipline. -/
def after : List M → List (Op M) → Option (List M)
  | H, [] => some H
  | H, .lock m :: ops => if m ∉ H ∧ ∀ h ∈ H, rank m < rank h then after (m :: H) ops else none
  | H, .unlock m :: ops => if m ∈ H then after (H.erase m) ops else none

def Disciplined (ops : List (Op M)) : Prop := after rank [] ops = some []

def Neutral (n : Nat) (ops : List (Op M)) : Prop :=
  ∀ H, (∀ h ∈ H, n ≤ rank h) → after rank H ops = some H

end

section
variable {M : Type} [DecidableEq M] {rank : M → Nat} {H : List M} {m : M}

theorem after_append (H : List M) (xs ys : List (Op M)) :
    after rank H (xs ++ ys) = (after rank H xs).bind fun H' => after rank H' ys := by
  induction xs generalizing H with
  | nil => rfl
  | cons x xs ih =>
    cases x with
    | lock m =>
      simp only [List.cons_append, after]
      split
      · exact ih _
      · rfl
    | unlock m =>
      simp only [List.cons_append, after]
      split
      · exact ih _
      · rfl

theorem after_lock {ops : List (Op M)} (hm : m ∉ H) (hr : ∀ h ∈ H, rank m < rank h) :
    after rank H (.lock m :: ops) = after rank (m :: H) ops := if_pos ⟨hm, hr⟩

@[simp] theorem after_unlock_head {ops : List (Op M)} :
    after rank (m :: H) (.unlock m :: ops) = after rank H ops := by
  simp [after]

omit [DecidableEq M] in
/-- A mutex that ranks below every held one is not held. -/
theorem not_mem_of_rank_lt (hr : ∀ h ∈ H, rank m < rank h) : m ∉ H :=
  fun hm => Nat.lt_irrefl _ (hr m hm)

theorem after_lock_some {ops : List (Op M)} {H' : List M}
    (h : after rank H (.lock m :: ops) = some H') :
    m ∉ H ∧ (∀ h ∈ H, rank m < rank h) ∧ after rank (m :: H) ops = some H' := by
  simp only [after] at h
  split at h
  · next hc => exact ⟨hc.1, hc.2, h⟩
  · cases h

theorem after_unlock_some {ops : List (Op M)} {H' : List M}
    (h : after rank H (.unlock m :: ops) = some H') :
    m ∈ H ∧ after rank (H.erase m) ops = some H' := by
  simp only [after] at h
  split at h
  · next hc => exact ⟨hc, h⟩
  · cases h

variable {n k : Nat} {ops ops' : List (Op M)}

theorem neutral_nil (n : Nat) : Neutral rank n [] := fun _ _ => rfl

theorem Neutral.append (h : Neutral rank n ops) (h' : Neutral rank n ops') :
    Neutral rank n (ops ++ ops') := by
  intro H hH
  rw [after_append, h H hH]
  exact h' H hH

/-- What is neutral under `m` is neutral between its lock and its unlock. -/
theorem Neutral.bracket (hm : rank m < n) (h : Neutral rank (rank m) ops) :
    Neutral rank n (.lock m :: ops ++ [.unlock m]) := by
  intro H hH
  have hr : ∀ h ∈ H, rank m < rank h := fun x hx => Nat.lt_of_lt_of_le hm (hH x hx)
  have hin : ∀ x ∈ m :: H, rank m ≤ rank x := by
    intro x hx
    rcases List.mem_cons.mp hx with rfl | hx
    · exact Nat.le_refl _
    · exact Nat.le_of_lt (hr x hx)
  rw [List.cons_append, after_lock (not_mem_of_rank_lt hr) hr, after_append, h _ hin]
  exact after_unlock_head

theorem Neutral.disciplined (h : Neutral rank n ops) : Disciplined rank ops :=
  h [] fun _ hm => by cases hm

end

/-! ## Threads -/

/-- A thread: the mutexes it holds and what is left of its program. -/
structure Thread (M : Type) where
  held : List M
  rest : List (Op M)

section
variable {T M : Type} [DecidableEq T] [DecidableEq M] (programs : List (Op M) → Prop)

/-- One step of one thread. `lock` waits until no thread, itself included, holds the mutex. -/
inductive Step : (T → Thread M) → (T → Thread M) → Prop where
  | enter {c : T → Thread M} (t : T) {ops : List (Op M)} : (c t).rest = [] → programs ops →
      Step c (Function.update c t ⟨(c t).held, ops⟩)
  | lock {c : T → Thread M} (t : T) {m : M} {ops : List (Op M)} : (c t).rest = .lock m :: ops →
      (∀ u, m ∉ (c u).held) → Step c (Function.update c t ⟨m :: (c t).held, ops⟩)
  | unlock {c : T → Thread M} (t : T) {m : M} {ops : List (Op M)} :
      (c t).rest = .unlock m :: ops → Step c (Function.update c t ⟨(c t).held.erase m, ops⟩)

/-- Every thread idle, nothing held. -/
def idle : T → Thread M := fun _ => ⟨[], []⟩

def Reachable (c : T → Thread M) : Prop := Relation.ReflTransGen (Step programs) idle c

end

section
variable {T M : Type} [DecidableEq T] [DecidableEq M]

/-- `t` waits for a mutex that `u` holds. -/
def Waits (c : T → Thread M) (t u : T) : Prop :=
  ∃ m ops, (c t).rest = .lock m :: ops ∧ m ∈ (c u).held

/-- What holds of every reachable configuration of disciplined programs. -/
structure Ordered (rank : M → Nat) (c : T → Thread M) : Prop where
  keeps : ∀ t, after rank (c t).held (c t).rest = some []
  apart : ∀ t u m, m ∈ (c t).held → m ∈ (c u).held → t = u

variable {programs : List (Op M) → Prop} {rank : M → Nat} {c c' : T → Thread M}

omit [DecidableEq T] in
theorem ordered_idle : Ordered rank (idle : T → Thread M) where
  keeps _ := rfl
  apart _ _ _ h := by cases h

omit [DecidableEq T] in
theorem Ordered.idle_held (h : Ordered rank c) {t : T} (ht : (c t).rest = []) :
    (c t).held = [] := by
  have hk := h.keeps t
  rw [ht] at hk
  simpa [after] using hk

/-- Replacing one thread keeps the order when its new state is disciplined and holds no
mutex of another thread. -/
theorem Ordered.update (h : Ordered rank c) {t : T} {th : Thread M}
    (hk : after rank th.held th.rest = some [])
    (ha : ∀ u m, m ∈ th.held → m ∈ (c u).held → t = u) :
    Ordered rank (Function.update c t th) where
  keeps u := by
    by_cases hu : u = t
    · subst hu; simpa using hk
    · simpa [Function.update_of_ne hu] using h.keeps u
  apart u v m hu hv := by
    by_cases hut : u = t <;> by_cases hvt : v = t
    · rw [hut, hvt]
    · subst hut
      rw [Function.update_self] at hu
      rw [Function.update_of_ne hvt] at hv
      exact ha v m hu hv
    · subst hvt
      rw [Function.update_self] at hv
      rw [Function.update_of_ne hut] at hu
      exact (ha u m hv hu).symm
    · rw [Function.update_of_ne hut] at hu
      rw [Function.update_of_ne hvt] at hv
      exact h.apart u v m hu hv

theorem Step.ordered (hp : ∀ ops, programs ops → Disciplined rank ops)
    (hs : Step programs c c') (h : Ordered rank c) : Ordered rank c' := by
  cases hs with
  | enter t ht hops =>
    refine h.update ?_ fun u m hm hu => h.apart t u m hm hu
    rw [h.idle_held ht]
    exact hp _ hops
  | lock t ht hfree =>
    have hk := h.keeps t
    rw [ht] at hk
    obtain ⟨-, -, hk⟩ := after_lock_some hk
    refine h.update hk fun u m hm hu => ?_
    rcases List.mem_cons.mp hm with rfl | hm
    · exact absurd hu (hfree u)
    · exact h.apart t u m hm hu
  | unlock t ht =>
    have hk := h.keeps t
    rw [ht] at hk
    obtain ⟨-, hk⟩ := after_unlock_some hk
    exact h.update hk fun u m hm hu => h.apart t u m (List.mem_of_mem_erase hm) hu

theorem Reachable.ordered (hp : ∀ ops, programs ops → Disciplined rank ops)
    (h : Reachable programs c) : Ordered rank c := by
  induction h with
  | refl => exact ordered_idle
  | tail _ hs ih => exact hs.ordered hp ih

omit [DecidableEq T] in
theorem Ordered.lock_new (h : Ordered rank c) {t : T} {m : M} {ops : List (Op M)}
    (ht : (c t).rest = .lock m :: ops) : m ∉ (c t).held ∧ ∀ k ∈ (c t).held, rank m < rank k := by
  have hk := h.keeps t
  rw [ht] at hk
  exact ⟨(after_lock_some hk).1, (after_lock_some hk).2.1⟩

omit [DecidableEq T] in
/-- Along a chain of waiting threads the mutexes waited for descend in rank. -/
theorem Ordered.waits_descend (h : Ordered rank c) {t u : T} (hw : Relation.TransGen (Waits c) t u)
    {m k : M} {ops ops' : List (Op M)} (ht : (c t).rest = .lock m :: ops)
    (hu : (c u).rest = .lock k :: ops') : rank k < rank m := by
  induction hw generalizing k ops' with
  | single hw =>
    obtain ⟨m', _, ht', hm⟩ := hw
    rw [ht] at ht'
    cases ht'
    exact (h.lock_new hu).2 m hm
  | tail _ hw ih =>
    obtain ⟨m', _, hb, hm⟩ := hw
    exact Nat.lt_trans ((h.lock_new hu).2 m' hm) (ih hb)

omit [DecidableEq T] in
theorem Ordered.no_cycle (h : Ordered rank c) (t : T) : ¬ Relation.TransGen (Waits c) t t := by
  intro hw
  obtain ⟨u, ⟨m, ops, ht, -⟩, -⟩ := Relation.TransGen.head'_iff.mp hw
  exact Nat.lt_irrefl _ (h.waits_descend hw ht ht)

end

end P970.LockOrder
