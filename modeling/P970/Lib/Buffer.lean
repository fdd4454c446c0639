import P970.Lib.CInt
import P970.Lib.Strides

/-!
# Arrays that record their use

A `Buffer` is an array together with the places of it that were read or written
so far. A place outside the array is an error. `Becomes P b xs b'`: from `b` to
`b'` the contents have become `xs`, and only places of `P` were used. The loops
that move items inside one array become what `Strides` says of the contents alone.
-/

namespace P970

/-- `touched` has the latest place first. -/
structure Buffer (α : Type) where
  cells : List α
  touched : List Nat
  deriving DecidableEq, Repr

namespace Buffer

section
variable {α : Type}

def fresh (cells : List α) : Buffer α := ⟨cells, []⟩

/-- The value of `b[i]`. -/
def load (i : Nat) (b : Buffer α) : Checked (α × Buffer α) := do
  let x ← CInt.index b.cells i
  return (x, { b with touched := i :: b.touched })

/-- `b[i] = x`. -/
def store (i : Nat) (x : α) (b : Buffer α) : Checked (Buffer α) := do
  let _ ← CInt.index b.cells i
  return { cells := b.cells.set i x, touched := i :: b.touched }

/-- `b[d] = b[s]`. -/
def move (d s : Nat) (b : Buffer α) : Checked (Buffer α) := do
  let (x, b) ← b.load s
  b.store d x

/-- `for (c = 0; c < n; ++c) d[c] = s[c];` -/
def moveForward : Nat → Nat → Nat → Buffer α → Checked (Buffer α)
  | _, _, 0, b => .ok b
  | d, s, n + 1, b => do
    let b ← b.move d s
    moveForward (d + 1) (s + 1) n b

/-- `n` times `width` items are moved from `s` to `d`, which go on by `stride` and by `width`. -/
def compact (width stride : Nat) : Nat → Nat → Nat → Buffer α → Checked (Buffer α)
  | _, _, 0, b => .ok b
  | d, s, n + 1, b => do
    let b ← b.moveForward d s width
    compact width stride (d + width) (s + stride) n b

/-- Stores `xs` from `i` on, the first item first. -/
def storeAll : Nat → List α → Buffer α → Checked (Buffer α)
  | _, [], b => .ok b
  | i, x :: xs, b => do
    let b ← b.store i x
    storeAll (i + 1) xs b

structure Becomes (P : Nat → Prop) (b : Buffer α) (xs : List α) (b' : Buffer α) : Prop where
  cells : b'.cells = xs
  touched : ∃ used, b'.touched = used ++ b.touched ∧ ∀ i ∈ used, P i

section
variable {P Q : Nat → Prop} {b b' b'' : Buffer α} {xs ys : List α}

theorem Becomes.refl (P : Nat → Prop) (b : Buffer α) : Becomes P b b.cells b :=
  ⟨rfl, [], rfl, fun _ hi => absurd hi List.not_mem_nil⟩

theorem Becomes.trans (h : Becomes P b xs b') (h' : Becomes P b' ys b'') : Becomes P b ys b'' := by
  obtain ⟨used, he, hused⟩ := h.touched
  obtain ⟨used', he', hused'⟩ := h'.touched
  refine ⟨h'.cells, used' ++ used, ?_, fun i hi => ?_⟩
  · rw [he', he, List.append_assoc]
  · exact (List.mem_append.mp hi).elim (hused' i) (hused i)

theorem Becomes.mono (h : Becomes P b xs b') (hPQ : ∀ i, P i → Q i) : Becomes Q b xs b' :=
  ⟨h.cells, h.touched.imp fun _ hu => ⟨hu.1, fun i hi => hPQ i (hu.2 i hi)⟩⟩

/-- An array nobody has used yet. -/
theorem Becomes.of_fresh (h : Becomes P (fresh ys) xs b') : ∀ i ∈ b'.touched, P i := by
  obtain ⟨used, he, hused⟩ := h.touched
  rw [he]
  exact fun i hi => hused i ((List.mem_append.mp hi).resolve_right List.not_mem_nil)

end

section
variable {i d s n width stride : Nat} {x : α} {b : Buffer α}

theorem store_becomes (h : i < b.cells.length) :
    ∃ b', b.store i x = .ok b' ∧ Becomes (· = i) b (b.cells.set i x) b' := by
  refine ⟨⟨b.cells.set i x, i :: b.touched⟩, ?_, rfl, [i], rfl, fun j => List.mem_singleton.mp⟩
  rw [store, CInt.index, List.getElem?_eq_getElem h]
  rfl

theorem load_becomes (h : i < b.cells.length) :
    ∃ b', b.load i = .ok (b.cells[i], b') ∧ Becomes (· = i) b b.cells b' := by
  refine ⟨⟨b.cells, i :: b.touched⟩, ?_, rfl, [i], rfl, fun j => List.mem_singleton.mp⟩
  rw [load, CInt.index, List.getElem?_eq_getElem h]
  rfl

theorem move_becomes (hs : s < b.cells.length) (hd : d < b.cells.length) :
    ∃ b', b.move d s = .ok b' ∧
      Becomes (fun i => i = d ∨ i = s) b (b.cells.set d b.cells[s]) b' := by
  obtain ⟨b₁, hload, h₁⟩ := load_becomes hs
  obtain ⟨b₂, hstore, h₂⟩ := store_becomes (b := b₁) (x := b.cells[s]) (by rw [h₁.cells]; exact hd)
  refine ⟨b₂, ?_, ?_⟩
  · rw [move, hload]
    exact hstore
  · rw [h₁.cells] at h₂
    exact (h₁.mono fun i hi => .inr hi).trans (h₂.mono fun i hi => .inl hi)

theorem moveForward_becomes (hds : d ≤ s) (h : s + n ≤ b.cells.length) :
    ∃ b', b.moveForward d s n = .ok b' ∧
      Becomes (fun i => d ≤ i ∧ i < s + n) b (copyForward d s n b.cells) b' := by
  induction n generalizing d s b with
  | zero => exact ⟨b, rfl, .refl _ b⟩
  | succ n ih =>
    have hs : s < b.cells.length := by omega
    obtain ⟨b₁, hmove, h₁⟩ := move_becomes hs (show d < b.cells.length by omega)
    have hlen : b₁.cells.length = b.cells.length := by rw [h₁.cells, List.length_set]
    obtain ⟨b₂, hrest, h₂⟩ := ih (d := d + 1) (s := s + 1) (b := b₁) (by omega) (by omega)
    refine ⟨b₂, ?_, ?_⟩
    · rw [moveForward, hmove]
      exact hrest
    · have hcells : copyForward d s (n + 1) b.cells = copyForward (d + 1) (s + 1) n b₁.cells := by
        rw [copyForward, List.getElem?_eq_getElem hs, h₁.cells]
      rw [hcells]
      exact (h₁.mono fun i hi => by omega).trans (h₂.mono fun i hi => by omega)

theorem compact_becomes (hw : width ≤ stride) (hds : d ≤ s)
    (h : s + n * stride ≤ b.cells.length) :
    ∃ b', b.compact width stride d s n = .ok b' ∧
      Becomes (fun i => d ≤ i ∧ i < s + n * stride) b (P970.compact width stride d s n b.cells)
        b' := by
  induction n generalizing d s b with
  | zero => exact ⟨b, rfl, .refl _ b⟩
  | succ n ih =>
    rw [Nat.succ_mul] at h ⊢
    obtain ⟨b₁, hmove, h₁⟩ := moveForward_becomes hds (show s + width ≤ b.cells.length by omega)
    have hlen : b₁.cells.length = b.cells.length := by
      rw [h₁.cells, length_copyForward]
    obtain ⟨b₂, hrest, h₂⟩ :=
      ih (d := d + width) (s := s + stride) (b := b₁) (by omega) (by omega)
    refine ⟨b₂, ?_, ?_⟩
    · rw [compact, hmove]
      exact hrest
    · have hcells : P970.compact width stride d s (n + 1) b.cells =
          P970.compact width stride (d + width) (s + stride) n b₁.cells := by
        rw [P970.compact, h₁.cells]
      rw [hcells]
      exact (h₁.mono fun i hi => by omega).trans (h₂.mono fun i hi => by omega)

theorem length_splice {xs ys : List α} (h : i + xs.length ≤ ys.length) :
    (ys.take i ++ xs ++ ys.drop (i + xs.length)).length = ys.length := by
  rw [List.length_append, List.length_append, List.length_take_of_le (by omega), List.length_drop]
  omega

theorem storeAll_becomes {xs : List α} (h : i + xs.length ≤ b.cells.length) :
    ∃ b', b.storeAll i xs = .ok b' ∧
      Becomes (fun j => i ≤ j ∧ j < i + xs.length) b
        (b.cells.take i ++ xs ++ b.cells.drop (i + xs.length)) b' := by
  induction xs generalizing i b with
  | nil =>
    refine ⟨b, rfl, ?_⟩
    rw [List.append_nil, List.length_nil, Nat.add_zero, List.take_append_drop]
    exact .refl _ b
  | cons x xs ih =>
    rw [List.length_cons] at h ⊢
    obtain ⟨b₁, hstore, h₁⟩ := store_becomes (x := x) (show i < b.cells.length by omega)
    have hlen : b₁.cells.length = b.cells.length := by rw [h₁.cells, List.length_set]
    obtain ⟨b₂, hrest, h₂⟩ := ih (i := i + 1) (b := b₁) (by omega)
    refine ⟨b₂, ?_, ?_⟩
    · rw [storeAll, hstore]
      exact hrest
    · have hcells : b₁.cells.take (i + 1) ++ xs ++ b₁.cells.drop (i + 1 + xs.length) =
          b.cells.take i ++ x :: xs ++ b.cells.drop (i + (xs.length + 1)) := by
        rw [h₁.cells, List.drop_set_of_lt (by omega), take_succ_set (by omega),
          show i + 1 + xs.length = i + (xs.length + 1) by omega]
        simp only [List.append_assoc, List.cons_append, List.nil_append]
      rw [← hcells]
      exact (h₁.mono fun j hj => by omega).trans (h₂.mono fun j hj => by omega)

/-- Two runs of stores one after the other. -/
theorem storeAll_append (xs ys : List α) : b.storeAll i (xs ++ ys) =
    (b.storeAll i xs >>= fun b => b.storeAll (i + xs.length) ys) := by
  induction xs generalizing i b with
  | nil => rfl
  | cons x xs ih =>
    rw [List.cons_append, storeAll, storeAll]
    cases b.store i x with
    | error e => rfl
    | ok b₁ =>
      simp only [Outcome.ok_bind]
      rw [ih, List.length_cons, show i + 1 + xs.length = i + (xs.length + 1) by omega]

/-- Items that do not fit are not stored. -/
theorem storeAll_fits {xs : List α} {b' : Buffer α} (h : b.storeAll i xs = .ok b')
    (hi : i ≤ b.cells.length) : i + xs.length ≤ b.cells.length := by
  induction xs generalizing i b with
  | nil => exact hi
  | cons x xs ih =>
    obtain ⟨b₁, hs, h⟩ := Outcome.bind_eq_ok.mp h
    obtain ⟨y, hy, he⟩ := Outcome.bind_eq_ok.mp hs
    cases he
    obtain ⟨hlt, -⟩ := List.getElem?_eq_some_iff.mp (CInt.index_eq_ok.mp hy)
    have hrest := ih h (by rw [List.length_set]; omega)
    rw [List.length_set] at hrest
    rw [List.length_cons]
    omega

end

end

end Buffer

end P970
