import Mathlib.Logic.Function.Basic
import Mathlib.Tactic.Common

/-!
# Leases

Keyed slots that lease handles from a common supply. A slot is absent, idle
(its handle field may still hold a handle that was given back) or running on a
live handle of its own; per group of keys one `active` pointer may name a
running slot. The operations are opening and closing a slot, starting it (which
takes a fresh handle and gives it back when the start fails) and stopping it.

`Pool.Ok` says that running slots and live handles match one to one, that no
idle slot owns a live handle, and that an active pointer names a running slot;
every operation keeps it. A start takes the active pointer whoever had it, so a
running slot need not be the active one; in a pool with at most one slot a group
(`Pool.Single`) it is (`Pool.Tight`). `Pool.Moves` are sequences of operations on
the slots there are.
-/

namespace P970

/-- Handles, numbered in the order they are taken. -/
structure Ledger where
  next : Nat
  live : Nat → Bool
  fresh : ∀ h, next ≤ h → live h = false

namespace Ledger

def empty : Ledger := ⟨0, fun _ => false, fun _ _ => rfl⟩

/-- Takes handle `L.next`. -/
def alloc (L : Ledger) : Ledger where
  next := L.next + 1
  live := Function.update L.live L.next true
  fresh h hh := by rw [Function.update_of_ne (by omega)]; exact L.fresh h (by omega)

def free (L : Ledger) (h : Nat) : Ledger where
  next := L.next
  live := Function.update L.live h false
  fresh k hk := by
    by_cases hkh : k = h
    · subst hkh; simp
    · rw [Function.update_of_ne hkh]; exact L.fresh k hk

variable (L : Ledger)

@[simp] theorem free_next (h : Nat) : (L.free h).next = L.next := rfl

theorem live_alloc (k : Nat) : L.alloc.live k = if k = L.next then true else L.live k := by
  simp only [alloc, Function.update_apply]

theorem live_free (h k : Nat) : (L.free h).live k = if k = h then false else L.live k := by
  simp only [free, Function.update_apply]

theorem lt_next_of_live {h : Nat} (hl : L.live h = true) : h < L.next := by
  rcases Nat.lt_or_ge h L.next with hlt | hge
  · exact hlt
  · rw [L.fresh h hge] at hl; cases hl

variable {L} in
/-- Giving back what is not live changes nothing. -/
theorem free_dead {h : Nat} (hh : L.live h = false) : L.free h = L := by
  cases L
  simp only [free, mk.injEq, true_and]
  exact Function.update_eq_self_iff.mpr hh.symm

theorem free_comm (h k : Nat) : (L.free h).free k = (L.free k).free h := by
  by_cases hk : h = k
  · rw [hk]
  · simp only [free, mk.injEq, true_and]
    exact Function.update_comm hk ..

/-- Gives back a handle, if there is one. -/
def free? (h : Option Nat) : Ledger :=
  match h with
  | some n => L.free n
  | none => L

theorem free?_comm (h k : Option Nat) : (L.free? h).free? k = (L.free? k).free? h := by
  cases h with
  | none => rfl
  | some n =>
    cases k with
    | none => rfl
    | some m => exact free_comm L n m

end Ledger

structure Slot where
  idle : Bool
  handle : Option Nat
  deriving DecidableEq

structure Pool (K D : Type) where
  slot : K → Option Slot
  active : D → Option K
  ledger : Ledger

namespace Pool

section
variable {K D : Type} [DecidableEq K] [DecidableEq D] (dir : K → D)

def add (k : K) (p : Pool K D) : Pool K D :=
  { p with slot := Function.update p.slot k (some ⟨true, none⟩) }

def remove (k : K) (p : Pool K D) : Pool K D :=
  { p with slot := Function.update p.slot k none }

/-- Starts `k` on a fresh handle; a start that is not `ready` gives the handle back but leaves
it in the slot. -/
def start (k : K) (ready : Bool) (p : Pool K D) : Pool K D where
  slot := Function.update p.slot k (some ⟨!ready, some p.ledger.next⟩)
  active := Function.update p.active (dir k) (if ready then some k else none)
  ledger := if ready then p.ledger.alloc else p.ledger.alloc.free p.ledger.next

/-- Stops `k` when it is running. -/
def stop (k : K) (p : Pool K D) : Pool K D :=
  match p.slot k with
  | some ⟨false, some h⟩ =>
    { slot := Function.update p.slot k (some ⟨true, none⟩)
      active := Function.update p.active (dir k) none
      ledger := p.ledger.free h }
  | _ => p

/-- Stops the active slot of `d`. -/
def halt (d : D) (p : Pool K D) : Pool K D :=
  match p.active d with
  | some k => p.stop dir k
  | none => p

/-- Stops the active slots of these groups. -/
def haltAll : List D → Pool K D → Pool K D
  | [], p => p
  | d :: ds, p => haltAll ds (p.halt dir d)

structure Ok (p : Pool K D) : Prop where
  running : ∀ {k x}, p.slot k = some ⟨false, x⟩ → ∃ h, x = some h ∧ p.ledger.live h = true
  idle : ∀ {k h}, p.slot k = some ⟨true, some h⟩ → p.ledger.live h = false ∧ h < p.ledger.next
  sole : ∀ {k k' h}, p.slot k = some ⟨false, some h⟩ → p.slot k' = some ⟨false, some h⟩ → k = k'
  owned : ∀ {h}, p.ledger.live h = true → ∃ k, p.slot k = some ⟨false, some h⟩
  active : ∀ {d k}, p.active d = some k → dir k = d ∧ ∃ x, p.slot k = some ⟨false, x⟩

/-- Every running slot is the active one of its group. -/
def Tight (p : Pool K D) : Prop :=
  ∀ k x, p.slot k = some ⟨false, x⟩ → p.active (dir k) = some k

/-- At most one slot a group. -/
def Single (p : Pool K D) : Prop :=
  ∀ k k', p.slot k ≠ none → p.slot k' ≠ none → dir k = dir k' → k = k'

/-- Starts of idle slots, removals of idle slots, and stops of slots that `may` be stopped. -/
inductive Moves (may : K → Prop) (p : Pool K D) : Pool K D → Prop where
  | refl : Moves may p p
  | start {q : Pool K D} {k : K} {x : Option Nat} (r : Bool) : Moves may p q →
      q.slot k = some ⟨true, x⟩ → Moves may p (q.start dir k r)
  | stop {q : Pool K D} {k : K} : Moves may p q → may k → Moves may p (q.stop dir k)
  | remove {q : Pool K D} {k : K} {x : Option Nat} : Moves may p q →
      q.slot k = some ⟨true, x⟩ → Moves may p (q.remove k)

end

section
variable {K D : Type} [DecidableEq K] {p : Pool K D} {k : K}

@[simp] theorem active_add : (p.add k).active = p.active := rfl

@[simp] theorem ledger_add : (p.add k).ledger = p.ledger := rfl

@[simp] theorem active_remove : (p.remove k).active = p.active := rfl

@[simp] theorem ledger_remove : (p.remove k).ledger = p.ledger := rfl

theorem slot_add (j : K) : (p.add k).slot j = if j = k then some ⟨true, none⟩ else p.slot j :=
  Function.update_apply ..

theorem slot_remove (j : K) : (p.remove k).slot j = if j = k then none else p.slot j :=
  Function.update_apply ..

end

section
variable {K D : Type} [DecidableEq K] [DecidableEq D] {dir : K → D} {p : Pool K D} {k : K}

theorem slot_start (r : Bool) (j : K) :
    (p.start dir k r).slot j = if j = k then some ⟨!r, some p.ledger.next⟩ else p.slot j :=
  Function.update_apply ..

theorem active_start (r : Bool) (d : D) :
    (p.start dir k r).active d = if d = dir k then (if r then some k else none) else p.active d :=
  Function.update_apply ..

theorem live_start (r : Bool) (h : Nat) :
    (p.start dir k r).ledger.live h = if h = p.ledger.next then r else p.ledger.live h := by
  cases r
  · simp only [start, Bool.false_eq_true, if_false, Ledger.live_free, Ledger.live_alloc]
    split <;> rfl
  · simp only [start, if_true, Ledger.live_alloc]

theorem next_start (r : Bool) : (p.start dir k r).ledger.next = p.ledger.next + 1 := by
  cases r <;> rfl

omit [DecidableEq K] [DecidableEq D] in
/-- A slot runs exactly when it has a live handle. -/
theorem Ok.idle_eq_false_iff (h : p.Ok dir) {σ : Slot} (hk : p.slot k = some σ) :
    σ.idle = false ↔ ∃ n, σ.handle = some n ∧ p.ledger.live n = true := by
  obtain ⟨idle, x⟩ := σ
  constructor
  · rintro rfl
    exact h.running hk
  · rintro ⟨n, rfl, hn⟩
    cases idle with
    | false => rfl
    | true => rw [(h.idle hk).1] at hn; cases hn

theorem Ok.stop_eq (h : p.Ok dir) {x : Option Nat} (hk : p.slot k = some ⟨false, x⟩) :
    ∃ y, x = some y ∧ p.ledger.live y = true ∧ p.stop dir k =
      { slot := Function.update p.slot k (some ⟨true, none⟩)
        active := Function.update p.active (dir k) none
        ledger := p.ledger.free y } := by
  obtain ⟨y, rfl, hy⟩ := h.running hk
  exact ⟨y, rfl, hy, by simp only [stop, hk]⟩

theorem stop_idle (hk : ∀ x, p.slot k ≠ some ⟨false, x⟩) : p.stop dir k = p := by
  unfold stop
  split
  · next heq => exact absurd heq (hk _)
  · rfl

theorem slot_stop_of_ne {j : K} (hj : j ≠ k) : (p.stop dir k).slot j = p.slot j := by
  unfold stop
  split
  · exact Function.update_of_ne hj ..
  · rfl

theorem active_stop_of_ne {d : D} (hd : d ≠ dir k) : (p.stop dir k).active d = p.active d := by
  unfold stop
  split
  · exact Function.update_of_ne hd ..
  · rfl

/-- A running slot that is stopped is idle and no longer active. -/
theorem Ok.stop_running (h : p.Ok dir) {x : Option Nat} (hk : p.slot k = some ⟨false, x⟩) :
    (p.stop dir k).slot k = some ⟨true, none⟩ ∧ (p.stop dir k).active (dir k) = none := by
  obtain ⟨y, -, -, he⟩ := h.stop_eq hk
  rw [he]
  exact ⟨Function.update_self .., Function.update_self ..⟩

theorem Ok.active_halt (h : p.Ok dir) (d : D) :
    (p.halt dir d).active = Function.update p.active d none := by
  unfold halt
  split
  · next k hk =>
    obtain ⟨rfl, x, hx⟩ := h.active hk
    obtain ⟨y, -, -, he⟩ := h.stop_eq hx
    rw [he]
  · next hk => rw [← hk, Function.update_eq_self]

theorem Ok.slot_halt (h : p.Ok dir) (d : D) (j : K) :
    (p.halt dir d).slot j = if p.active d = some j then some ⟨true, none⟩ else p.slot j := by
  unfold halt
  split
  · next k hk =>
    obtain ⟨-, x, hx⟩ := h.active hk
    by_cases hkj : k = j
    · subst hkj
      rw [hk, if_pos rfl]
      exact (h.stop_running hx).1
    · rw [hk, if_neg (by simpa using hkj)]
      exact slot_stop_of_ne (Ne.symm hkj)
  · next hk => rw [hk, if_neg (by simp)]

/-! ### The operations keep a pool in order -/

omit [DecidableEq K] [DecidableEq D] in
theorem ok_empty : Ok dir (⟨fun _ => none, fun _ => none, Ledger.empty⟩ : Pool K D) where
  running h := by cases h
  idle h := by cases h
  sole h := by cases h
  owned h := by cases h
  active h := by cases h

omit [DecidableEq D] in
theorem Ok.add (h : p.Ok dir) (hk : p.slot k = none) : (p.add k).Ok dir := by
  obtain ⟨h1, h2, h3, h4, h5⟩ := h
  constructor <;> simp only [slot_add, active_add, ledger_add] <;> intros <;> grind

omit [DecidableEq D] in
theorem Ok.remove (h : p.Ok dir) {x : Option Nat} (hk : p.slot k = some ⟨true, x⟩) :
    (p.remove k).Ok dir := by
  obtain ⟨h1, h2, h3, h4, h5⟩ := h
  constructor <;> simp only [slot_remove, active_remove, ledger_remove] <;> intros <;> grind

theorem Ok.start (h : p.Ok dir) {x : Option Nat} (hk : p.slot k = some ⟨true, x⟩) (r : Bool) :
    (p.start dir k r).Ok dir := by
  have hlt := @Ledger.lt_next_of_live p.ledger
  have hne : ∀ {j y}, p.slot j = some ⟨false, y⟩ → j ≠ k := by
    rintro j y hj rfl
    rw [hk] at hj
    cases hj
  refine ⟨?_, ?_, ?_, ?_, fun {d j} hj => ?_⟩
  case refine_5 =>
    rw [active_start] at hj
    simp only [slot_start]
    split at hj
    · next hd =>
      cases r with
      | false => cases hj
      | true => cases hj; exact ⟨hd.symm, _, if_pos rfl⟩
    · obtain ⟨hd, y, hy⟩ := h.active hj
      exact ⟨hd, y, by rw [if_neg (hne hy), hy]⟩
  all_goals
    obtain ⟨h1, h2, h3, h4, -⟩ := h
    simp only [slot_start, live_start, next_start]
    cases r <;> intros <;> grind

theorem Ok.stop (h : p.Ok dir) (k : K) : (p.stop dir k).Ok dir := by
  by_cases hk : ∃ x, p.slot k = some ⟨false, x⟩
  · obtain ⟨x, hk⟩ := hk
    obtain ⟨y, rfl, hy, he⟩ := h.stop_eq hk
    rw [he]
    obtain ⟨h1, h2, h3, h4, h5⟩ := h
    constructor <;> simp only [Function.update_apply, Ledger.live_free, Ledger.free_next] <;>
      intros <;> grind
  · rwa [stop_idle fun x hx => hk ⟨x, hx⟩]

theorem Ok.halt (h : p.Ok dir) (d : D) : (p.halt dir d).Ok dir := by
  unfold Pool.halt
  split
  · exact h.stop _
  · exact h

theorem Ok.haltAll (h : p.Ok dir) (ds : List D) : (p.haltAll dir ds).Ok dir := by
  induction ds generalizing p with
  | nil => exact h
  | cons d ds ih => exact ih (h.halt d)

theorem Ok.active_haltAll (h : p.Ok dir) (ds : List D) (d : D) :
    (p.haltAll dir ds).active d = if d ∈ ds then none else p.active d := by
  induction ds generalizing p with
  | nil => rfl
  | cons e ds ih =>
    rw [Pool.haltAll, ih (h.halt e), h.active_halt]
    by_cases hd : d = e
    · subst hd
      simp
    · simp [hd]

theorem Ok.slot_haltAll (h : p.Ok dir) (ds : List D) (j : K) : (p.haltAll dir ds).slot j =
    if dir j ∈ ds ∧ p.active (dir j) = some j then some ⟨true, none⟩ else p.slot j := by
  induction ds generalizing p with
  | nil => simp [Pool.haltAll]
  | cons e ds ih =>
    rw [Pool.haltAll, ih (h.halt e), h.active_halt, h.slot_halt]
    by_cases he : p.active e = some j
    · obtain ⟨rfl, -⟩ := h.active he
      simp [he]
    · by_cases hj : dir j = e
      · subst hj
        simp [he]
      · simp [he, hj]

/-- Halting every group stops every running slot exactly when each is the active one. -/
theorem Ok.haltAll_iff_tight (h : p.Ok dir) {ds : List D} (hd : ∀ k, dir k ∈ ds) :
    (∀ k x, p.slot k = some ⟨false, x⟩ → (p.haltAll dir ds).slot k = some ⟨true, none⟩ ∧
      ∀ n, x = some n → (p.haltAll dir ds).ledger.live n = false) ↔ p.Tight dir := by
  constructor
  · intro hall k x hk
    have hs := (hall k x hk).1
    rw [h.slot_haltAll] at hs
    by_contra ha
    rw [if_neg fun hc => ha hc.2, hk] at hs
    cases hs
  · intro hT k x hk
    have hs : (p.haltAll dir ds).slot k = some ⟨true, none⟩ := by
      rw [h.slot_haltAll, if_pos ⟨hd k, hT k x hk⟩]
    refine ⟨hs, ?_⟩
    rintro n rfl
    by_contra hn
    -- its owner after the halts ran on the handle before them too
    obtain ⟨k', hk'⟩ := (h.haltAll ds).owned ((Bool.not_eq_false _).mp hn)
    have hne : k' ≠ k := by
      rintro rfl
      rw [hs] at hk'
      cases hk'
    rw [h.slot_haltAll] at hk'
    split at hk'
    · cases hk'
    · exact hne (h.sole hk' hk)

/-! ### Moves -/

variable {q r : Pool K D} {may may' : K → Prop}

theorem Moves.trans (h : Moves dir may p q) (h' : Moves dir may q r) : Moves dir may p r := by
  induction h' with
  | refl => exact h
  | start r _ hk ih => exact .start r ih hk
  | stop _ hk ih => exact .stop ih hk
  | remove _ hk ih => exact .remove ih hk

theorem Moves.mono (hmay : ∀ k, may k → may' k) (h : Moves dir may p q) : Moves dir may' p q := by
  induction h with
  | refl => exact .refl
  | start r _ hk ih => exact .start r ih hk
  | stop _ hk ih => exact .stop ih (hmay _ hk)
  | remove _ hk ih => exact .remove ih hk

theorem Moves.ok (h : Moves dir may p q) (hp : p.Ok dir) : q.Ok dir := by
  induction h with
  | refl => exact hp
  | start r _ hk ih => exact ih.start hk r
  | stop _ _ ih => exact ih.stop _
  | remove _ hk ih => exact ih.remove hk

/-- A running slot that may not be stopped goes on. -/
theorem Moves.kept (h : Moves dir may p q) {x : Option Nat} (hx : p.slot k = some ⟨false, x⟩)
    (hk : ¬ may k) : q.slot k = some ⟨false, x⟩ := by
  induction h with
  | refl => exact hx
  | start r _ hj ih =>
    rw [slot_start, if_neg, ih]
    rintro rfl
    rw [ih] at hj
    cases hj
  | stop _ hj ih =>
    rw [slot_stop_of_ne, ih]
    rintro rfl
    exact hk hj
  | remove _ hj ih =>
    rw [slot_remove, if_neg, ih]
    rintro rfl
    rw [ih] at hj
    cases hj

theorem slot_stop_ne_none {j : K} (h : (p.stop dir k).slot j ≠ none) : p.slot j ≠ none := by
  by_cases hj : j = k
  · subst hj
    intro hn
    rw [stop_idle (by simp [hn])] at h
    exact h hn
  · rwa [slot_stop_of_ne hj] at h

theorem next_stop (k : K) : (p.stop dir k).ledger.next = p.ledger.next := by
  unfold stop
  split <;> rfl

/-- Handles are taken in the order of their numbers. -/
theorem Moves.next_le (h : Moves dir may p q) : p.ledger.next ≤ q.ledger.next := by
  induction h with
  | refl => exact Nat.le_refl _
  | start r _ _ ih =>
    rw [next_start]
    omega
  | stop _ _ ih =>
    rw [next_stop]
    exact ih
  | remove _ _ ih => exact ih

/-- Moves make no slot. -/
theorem Moves.slot_ne_none (h : Moves dir may p q) {j : K} (hj : q.slot j ≠ none) :
    p.slot j ≠ none := by
  induction h with
  | refl => exact hj
  | start r _ hk ih =>
    refine ih fun hn => ?_
    rw [slot_start, if_neg, hn] at hj
    · exact hj rfl
    · rintro rfl
      rw [hn] at hk
      cases hk
  | stop _ _ ih => exact ih (slot_stop_ne_none hj)
  | remove _ hk ih =>
    refine ih fun hn => ?_
    rw [slot_remove, hn] at hj
    exact hj (ite_self _)

theorem Single.moves (hp : p.Single dir) (h : Moves dir may p q) : q.Single dir :=
  fun k k' hk hk' => hp k k' (h.slot_ne_none hk) (h.slot_ne_none hk')

omit [DecidableEq D] in
theorem Single.add (hp : p.Single dir) (hk : ∀ j, dir j = dir k → p.slot j = none) :
    (p.add k).Single dir := by
  have hne : ∀ j, (p.add k).slot j ≠ none → j ≠ k → p.slot j ≠ none := by
    intro j hj hjk
    rwa [slot_add, if_neg hjk] at hj
  intro j j' hj hj' hd
  by_cases h : j = k <;> by_cases h' : j' = k
  · rw [h, h']
  · exact absurd (hk j' (by rw [← hd, h])) (hne j' hj' h')
  · exact absurd (hk j (by rw [hd, h'])) (hne j hj h)
  · exact hp j j' (hne j hj h) (hne j' hj' h') hd

omit [DecidableEq D] in
theorem Tight.add (hT : p.Tight dir) (k : K) : (p.add k).Tight dir := by
  intro j y hj
  rw [slot_add] at hj
  split at hj
  · cases hj
  · exact hT j y hj

theorem Tight.start (hT : p.Tight dir) (hS : p.Single dir) {x : Option Nat}
    (hk : p.slot k = some ⟨true, x⟩) (r : Bool) : (p.start dir k r).Tight dir := by
  intro j y hj
  rw [slot_start] at hj
  rw [active_start]
  by_cases hjk : j = k
  · subst hjk
    rw [if_pos rfl] at hj ⊢
    cases r with
    | true => rfl
    | false => cases hj
  · rw [if_neg hjk] at hj
    rw [if_neg fun hd => hjk (hS j k (by simp [hj]) (by simp [hk]) hd)]
    exact hT j y hj

theorem Tight.stop (hT : p.Tight dir) (hS : p.Single dir) (hO : p.Ok dir) (k : K) :
    (p.stop dir k).Tight dir := by
  by_cases hk : ∃ x, p.slot k = some ⟨false, x⟩
  · obtain ⟨x, hk⟩ := hk
    intro j y hj
    by_cases hjk : j = k
    · subst hjk
      rw [(hO.stop_running hk).1] at hj
      cases hj
    · rw [slot_stop_of_ne hjk] at hj
      rw [active_stop_of_ne fun hd => hjk (hS j k (by simp [hj]) (by simp [hk]) hd)]
      exact hT j y hj
  · rwa [stop_idle fun x hx => hk ⟨x, hx⟩]

omit [DecidableEq D] in
theorem Tight.remove (hT : p.Tight dir) (k : K) : (p.remove k).Tight dir := by
  intro j y hj
  rw [slot_remove] at hj
  split at hj
  · cases hj
  · exact hT j y hj

/-- With one slot a group, what runs stays the active one. -/
theorem Tight.moves (hT : p.Tight dir) (hS : p.Single dir) (hO : p.Ok dir)
    (h : Moves dir may p q) : q.Tight dir := by
  induction h with
  | refl => exact hT
  | start r hm hk ih => exact ih.start (hS.moves hm) hk r
  | stop hm _ ih => exact ih.stop (hS.moves hm) (hm.ok hO) _
  | remove _ _ ih => exact ih.remove _

end

end Pool

end P970
