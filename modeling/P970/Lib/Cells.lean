import Mathlib.Data.Finset.Card
import Mathlib.Data.Finset.Range
import Mathlib.Data.Set.Insert
import P970.Lib.Lease

/-!
# Pointers and what they own

Named pointers (`Cells`) to objects taken from a common supply. `free` leaves the
pointer as it is, so a second `free` through it is a fault; `forget` is the end of
the variables that held some of the pointers, and what only they pointed to stays
live. `Cells.Owns D` says that, but for the pointers in `D`, which may hang, the
pointers and the live objects match one to one. Every operation keeps it for the
`D` it leaves; a program has leaked nothing and freed nothing twice when it ends
with `Owns ∅`.
-/

namespace P970

/-- How many handles are live. -/
def Ledger.count (L : Ledger) : Nat := ((Finset.range L.next).filter fun n => L.live n = true).card

namespace Ledger

variable (L : Ledger)

theorem count_alloc : L.alloc.count = L.count + 1 := by
  have h : ((Finset.range L.alloc.next).filter fun n => L.alloc.live n = true) =
      insert L.next ((Finset.range L.next).filter fun n => L.live n = true) := by
    ext n
    have hn : L.alloc.next = L.next + 1 := rfl
    simp only [Finset.mem_filter, Finset.mem_range, Finset.mem_insert, live_alloc, hn]
    by_cases he : n = L.next
    · simp [he]
    · simp only [he, if_false, false_or]
      exact and_congr_left fun _ => by omega
  rw [count, h, Finset.card_insert_of_notMem (by simp), count]

theorem count_free {n : Nat} (h : L.live n = true) : (L.free n).count + 1 = L.count := by
  have hs : ((Finset.range (L.free n).next).filter fun k => (L.free n).live k = true) =
      ((Finset.range L.next).filter fun k => L.live k = true).erase n := by
    ext k
    simp only [Finset.mem_filter, Finset.mem_range, Finset.mem_erase, live_free, free_next]
    by_cases he : k = n
    · simp [he]
    · simp [he]
  have hm : n ∈ (Finset.range L.next).filter fun k => L.live k = true :=
    Finset.mem_filter.mpr ⟨Finset.mem_range.mpr (L.lt_next_of_live h), h⟩
  rw [count, hs, Finset.card_erase_add_one hm, count]

end Ledger

structure Cells (K : Type) where
  ptr : K → Option Nat
  ledger : Ledger
  faults : List Nat

namespace Cells

section
variable {K : Type}

def empty : Cells K := ⟨fun _ => none, Ledger.empty, []⟩

/-- Gives back the object, if the pointer is not null. -/
def free (k : K) (c : Cells K) : Cells K :=
  match c.ptr k with
  | some n =>
    if c.ledger.live n then { c with ledger := c.ledger.free n }
    else { c with faults := n :: c.faults }
  | none => c

/-- `free` of each, in this order. -/
def freeAll (ks : List K) (c : Cells K) : Cells K := ks.foldl (fun c k => c.free k) c

/-- The variables of `ks` are gone. -/
def forget (ks : K → Bool) (c : Cells K) : Cells K :=
  { c with ptr := fun k => if ks k then none else c.ptr k }

variable [DecidableEq K]

/-- `k := malloc(…)`, null when it is not `ok`. -/
def malloc (k : K) (ok : Bool) (c : Cells K) : Cells K where
  ptr := Function.update c.ptr k (if ok then some c.ledger.next else none)
  ledger := if ok then c.ledger.alloc else c.ledger
  faults := c.faults

/-- `k := realloc(k, …)`: the object is another one afterwards. -/
def realloc (k : K) (c : Cells K) : Cells K := (c.free k).malloc k true

/-- `k' := k`, after which `k` is not used any more. -/
def move (k k' : K) (c : Cells K) : Cells K :=
  { c with ptr := Function.update (Function.update c.ptr k' (c.ptr k)) k none }

end

/-- But for the pointers in `D`, pointers and live objects match one to one, and no object was
given back twice. -/
structure Owns {K : Type} (D : Set K) (c : Cells K) : Prop where
  faults : c.faults = []
  live : ∀ {k n}, k ∉ D → c.ptr k = some n → c.ledger.live n = true
  sole : ∀ {k k' n}, k ∉ D → k' ∉ D → c.ptr k = some n → c.ptr k' = some n → k = k'
  owned : ∀ {n}, c.ledger.live n = true → ∃ k, k ∉ D ∧ c.ptr k = some n

section
variable {K : Type} {D : Set K} {c : Cells K} {k : K}

theorem owns_empty : Owns ∅ (empty : Cells K) where
  faults := rfl
  live _ h := by cases h
  sole _ _ h := by cases h
  owned h := by cases h

/-- A null pointer hangs as well as not. -/
theorem Owns.of_null {D' : Set K} (h : c.Owns D) (hs : ∀ k, k ∈ D → k ∈ D' ∨ c.ptr k = none)
    (hs' : ∀ k, k ∈ D' → k ∈ D ∨ c.ptr k = none) : c.Owns D' := by
  have hD : ∀ {k n}, k ∉ D' → c.ptr k = some n → k ∉ D := by
    intro k n hk hn hd
    rcases hs k hd with h | h
    · exact hk h
    · rw [h] at hn
      cases hn
  refine ⟨h.faults, fun hk hn => h.live (hD hk hn) hn,
    fun hk hk' hn hn' => h.sole (hD hk hn) (hD hk' hn') hn hn', fun hn => ?_⟩
  obtain ⟨k, hk, hn⟩ := h.owned hn
  refine ⟨k, fun hd => ?_, hn⟩
  rcases hs' k hd with h | h
  · exact hk h
  · rw [h] at hn
    cases hn

@[simp] theorem ptr_free : (c.free k).ptr = c.ptr := by
  unfold free
  split
  · split <;> rfl
  · rfl

theorem Owns.free (h : c.Owns D) (hk : k ∉ D ∨ c.ptr k = none) : (c.free k).Owns (insert k D) := by
  cases hp : c.ptr k with
  | none =>
    have he : c.free k = c := by
      unfold Cells.free
      rw [hp]
    rw [he]
    refine h.of_null (fun j hj => .inl (.inr hj)) fun j hj => ?_
    rcases hj with rfl | hj
    · exact .inr hp
    · exact .inl hj
  | some n =>
    have hk : k ∉ D := hk.resolve_right (by rw [hp]; simp)
    have hl := h.live hk hp
    have he : c.free k = { c with ledger := c.ledger.free n } := by
      unfold Cells.free
      rw [hp]
      exact if_pos hl
    have hne : ∀ {j m}, j ∉ insert k D → c.ptr j = some m → m ≠ n := by
      rintro j m hj hm rfl
      have hd : j ∉ D := fun hd => hj (.inr hd)
      exact hj (.inl (h.sole hd hk hm hp))
    rw [he]
    refine ⟨h.faults, fun hj hm => ?_, fun hj hj' hm hm' => ?_, fun {m} hm => ?_⟩
    · rw [Ledger.live_free, if_neg (hne hj hm)]
      exact h.live (fun hd => hj (.inr hd)) hm
    · exact h.sole (fun hd => hj (.inr hd)) (fun hd => hj' (.inr hd)) hm hm'
    · rw [Ledger.live_free] at hm
      split at hm
      · cases hm
      · next hmn =>
        obtain ⟨j, hj, hjm⟩ := h.owned hm
        refine ⟨j, fun hd => ?_, hjm⟩
        rcases hd with rfl | hd
        · exact hmn (Option.some.inj (hjm.symm.trans hp))
        · exact hj hd

/-- Pointers that hang or are null can be forgotten. -/
theorem Owns.forget {D' : Set K} (h : c.Owns D) {ks : K → Bool}
    (hs : ∀ k, ks k = true → k ∈ D ∨ c.ptr k = none) (hD : ∀ k, k ∈ D → k ∈ D' ∨ ks k = true)
    (hD' : ∀ k, k ∈ D' → k ∈ D) : (c.forget ks).Owns D' := by
  have hp : ∀ {k n}, (c.forget ks).ptr k = some n → ks k ≠ true ∧ c.ptr k = some n := by
    intro k n hn
    simp only [Cells.forget] at hn
    split at hn
    · cases hn
    · next hk => exact ⟨hk, hn⟩
  have hd : ∀ {k n}, k ∉ D' → (c.forget ks).ptr k = some n → k ∉ D := fun hk hn hkd =>
    (hD _ hkd).elim hk (hp hn).1
  refine ⟨h.faults, fun hk hn => h.live (hd hk hn) (hp hn).2,
    fun hk hk' hn hn' => h.sole (hd hk hn) (hd hk' hn') (hp hn).2 (hp hn').2, fun hn => ?_⟩
  obtain ⟨k, hk, hn⟩ := h.owned hn
  refine ⟨k, fun hkd => hk (hD' k hkd), ?_⟩
  simp only [Cells.forget]
  split
  · next hks =>
    rcases hs k hks with hkd | hn'
    · exact absurd hkd hk
    · rw [hn'] at hn
      cases hn
  · exact hn

@[simp] theorem ptr_freeAll (ks : List K) : (c.freeAll ks).ptr = c.ptr := by
  induction ks generalizing c with
  | nil => rfl
  | cons k ks ih => exact (ih (c := c.free k)).trans ptr_free

theorem Owns.freeAll {ks : List K} (h : c.Owns D) (hk : ∀ k ∈ ks, k ∉ D) (hn : ks.Nodup) :
    (c.freeAll ks).Owns (D ∪ {k | k ∈ ks}) := by
  induction ks generalizing c D with
  | nil => exact h.of_null (fun j hj => .inl (.inl hj)) fun j hj => .inl (hj.resolve_right (by simp))
  | cons k ks ih =>
    obtain ⟨hnk, hn⟩ := List.nodup_cons.mp hn
    have h' := ih (h.free (.inl (hk k (List.mem_cons_self ..)))) (fun j hj hd => ?_) hn
    · refine h'.of_null (fun j hj => .inl ?_) fun j hj => .inl ?_
      · rcases hj with (rfl | hj) | hj
        · exact .inr (List.mem_cons_self ..)
        · exact .inl hj
        · exact .inr (List.mem_cons_of_mem _ hj)
      · rcases hj with hj | hj
        · exact .inl (.inr hj)
        · rcases List.mem_cons.mp hj with rfl | hj
          · exact .inl (.inl rfl)
          · exact .inr hj
    · rcases hd with rfl | hd
      · exact hnk hj
      · exact hk j (List.mem_cons_of_mem _ hj) hd

/-- The pointers of `ks` are gone, those of them that were not null after their objects. -/
theorem Owns.destroy {l : List K} {ks : K → Bool} (h : c.Owns ∅) (hn : l.Nodup)
    (hl : ∀ k ∈ l, ks k = true) (hk : ∀ k, ks k = true → k ∈ l ∨ c.ptr k = none) :
    ((c.freeAll l).forget ks).Owns ∅ := by
  refine (h.freeAll (fun _ _ hd => hd) hn).forget (fun k hks => ?_) (fun k hd => .inr ?_)
    fun k hd => hd.elim
  · rcases hk k hks with hk | hk
    · exact .inl (.inr hk)
    · exact .inr (by rw [ptr_freeAll, hk])
  · exact hl k (hd.resolve_left fun hd => hd)

theorem ptr_forget (ks : K → Bool) (j : K) :
    (c.forget ks).ptr j = if ks j then none else c.ptr j := rfl

variable [DecidableEq K]

theorem ptr_malloc (ok : Bool) (j : K) : (c.malloc k ok).ptr j =
    if j = k then (if ok then some c.ledger.next else none) else c.ptr j :=
  Function.update_apply ..

theorem ptr_realloc (j : K) :
    (c.realloc k).ptr j = if j = k then some (c.free k).ledger.next else c.ptr j := by
  rw [realloc, ptr_malloc, ptr_free]
  rfl

theorem ptr_move (k' j : K) : (c.move k k').ptr j =
    if j = k then none else if j = k' then c.ptr k else c.ptr j := by
  simp only [move, Function.update_apply]

/-- A pointer that hangs or is null can be set. -/
theorem Owns.malloc (h : c.Owns D) (hk : k ∈ D ∨ c.ptr k = none) (ok : Bool) :
    (c.malloc k ok).Owns (D \ {k}) := by
  have hD : ∀ {j}, j ∉ D \ {k} → j ≠ k → j ∉ D := fun hj hne hd => hj ⟨hd, hne⟩
  have hold : ∀ {j m}, j ∉ D → c.ptr j = some m → j ≠ k := by
    rintro j m hj hm rfl
    rcases hk with hk | hk
    · exact hj hk
    · rw [hk] at hm
      cases hm
  have hlt : ∀ {j m}, j ∉ D → c.ptr j = some m → m ≠ c.ledger.next := fun hj hm =>
    Nat.ne_of_lt (c.ledger.lt_next_of_live (h.live hj hm))
  cases ok with
  | false =>
    have hp : ∀ {j m}, (c.malloc k false).ptr j = some m → j ≠ k ∧ c.ptr j = some m := by
      intro j m hm
      rw [ptr_malloc] at hm
      split at hm
      · cases hm
      · next hj => exact ⟨hj, hm⟩
    refine ⟨h.faults, fun hj hm => h.live (hD hj (hp hm).1) (hp hm).2, fun hj hj' hm hm' =>
      h.sole (hD hj (hp hm).1) (hD hj' (hp hm').1) (hp hm).2 (hp hm').2, fun hm => ?_⟩
    obtain ⟨j, hj, hjm⟩ := h.owned hm
    refine ⟨j, fun hd => hj hd.1, ?_⟩
    rw [ptr_malloc, if_neg (hold hj hjm)]
    exact hjm
  | true =>
    have hp : ∀ {j m}, (c.malloc k true).ptr j = some m →
        j = k ∧ m = c.ledger.next ∨ j ≠ k ∧ c.ptr j = some m := by
      intro j m hm
      rw [ptr_malloc] at hm
      split at hm
      · next hj => exact .inl ⟨hj, (Option.some.inj hm).symm⟩
      · next hj => exact .inr ⟨hj, hm⟩
    have hl : ∀ m, (c.malloc k true).ledger.live m =
        if m = c.ledger.next then true else c.ledger.live m := c.ledger.live_alloc
    refine ⟨h.faults, fun {j m} hj hm => ?_, fun {j j' m} hj hj' hm hm' => ?_, fun {m} hm => ?_⟩
    · rw [hl]
      rcases hp hm with ⟨-, rfl⟩ | ⟨hne, hm⟩
      · exact if_pos rfl
      · rw [if_neg (hlt (hD hj hne) hm)]
        exact h.live (hD hj hne) hm
    · rcases hp hm with ⟨rfl, rfl⟩ | ⟨hne, hx⟩
      · rcases hp hm' with ⟨rfl, -⟩ | ⟨hne', hx'⟩
        · rfl
        · exact absurd rfl (hlt (hD hj' hne') hx')
      · rcases hp hm' with ⟨-, rfl⟩ | ⟨hne', hx'⟩
        · exact absurd rfl (hlt (hD hj hne) hx)
        · exact h.sole (hD hj hne) (hD hj' hne') hx hx'
    · rw [hl] at hm
      split at hm
      · next hmn =>
        refine ⟨k, fun hd => hd.2 rfl, ?_⟩
        rw [ptr_malloc, if_pos rfl, if_pos rfl, hmn]
      · obtain ⟨j, hj, hjm⟩ := h.owned hm
        refine ⟨j, fun hd => hj hd.1, ?_⟩
        rw [ptr_malloc, if_neg (hold hj hjm)]
        exact hjm

/-- A null pointer is set. -/
theorem Owns.malloc_new (h : c.Owns ∅) (hk : c.ptr k = none) (ok : Bool) :
    (c.malloc k ok).Owns ∅ :=
  (h.malloc (.inr hk) ok).of_null (fun _ hj => hj.1.elim) fun _ hj => hj.elim

theorem Owns.realloc (h : c.Owns D) (hk : k ∉ D) : (c.realloc k).Owns D := by
  refine ((h.free (.inl hk)).malloc (.inl (.inl rfl)) true).of_null (fun j hj => ?_) fun j hj => ?_
  · exact .inl (hj.1.resolve_left hj.2)
  · exact .inl ⟨.inr hj, fun hjk => hk (hjk ▸ hj)⟩

/-- A pointer can be moved to one that hangs or is null. -/
theorem Owns.move {k' : K} (h : c.Owns D) (hk : k ∉ D) (hk' : k' ∈ D ∨ c.ptr k' = none)
    (hne : k ≠ k') : (c.move k k').Owns (D \ {k'}) := by
  have hp : ∀ {j m}, (c.move k k').ptr j = some m →
      j = k' ∧ c.ptr k = some m ∨ j ≠ k' ∧ j ≠ k ∧ c.ptr j = some m := by
    intro j m hm
    rw [ptr_move] at hm
    split at hm
    · cases hm
    · next hj =>
      split at hm
      · next hj' => exact .inl ⟨hj', hm⟩
      · next hj' => exact .inr ⟨hj', hj, hm⟩
  have hD : ∀ {j}, j ∉ D \ {k'} → j ≠ k' → j ∉ D := fun hj hne hd => hj ⟨hd, hne⟩
  refine ⟨h.faults, fun {j m} hj hm => ?_, fun {i j m} hi hj hm hm' => ?_, fun {m} hm => ?_⟩
  · rcases hp hm with ⟨-, hm⟩ | ⟨hj', -, hm⟩
    · exact h.live hk hm
    · exact h.live (hD hj hj') hm
  · rcases hp hm with ⟨rfl, hx⟩ | ⟨hi', hik, hx⟩
    · rcases hp hm' with ⟨rfl, -⟩ | ⟨hj', hjk, hx'⟩
      · rfl
      · exact absurd (h.sole (hD hj hj') hk hx' hx) hjk
    · rcases hp hm' with ⟨rfl, hx'⟩ | ⟨hj', hjk, hx'⟩
      · exact absurd (h.sole (hD hi hi') hk hx hx') hik
      · exact h.sole (hD hi hi') (hD hj hj') hx hx'
  · obtain ⟨j, hj, hjm⟩ := h.owned hm
    by_cases hjk : j = k
    · refine ⟨k', fun hd => hd.2 rfl, ?_⟩
      rw [ptr_move, if_neg (Ne.symm hne), if_pos rfl, ← hjk]
      exact hjm
    · refine ⟨j, fun hd => hj hd.1, ?_⟩
      have hjk' : j ≠ k' := by
        rintro rfl
        rcases hk' with hk' | hk'
        · exact hj hk'
        · rw [hk'] at hjm
          cases hjm
      rw [ptr_move, if_neg hjk, if_neg hjk']
      exact hjm

end

end Cells

end P970
