import P970.Lib.Buffer

/-!
# Swapping from both ends

`mirror s i m`: the items at `i, i + 1, …` (`m` of them) change places with those
at `s - i, s - i - 1, …`. While the two runs do not meet, item `k` is then the one
that was at `reflect s i m k` (`getElem?_mirror`), and a second time puts
everything back (`mirror_mirror`). In a `Buffer` only the places from `i` to
`s - i` are used (`Buffer.mirror_becomes`).
-/

namespace P970

section
variable {α : Type}

def swapAt (i j : Nat) (xs : List α) : List α :=
  match xs[i]?, xs[j]? with
  | some x, some y => (xs.set i y).set j x
  | _, _ => xs

def mirror (s : Nat) : Nat → Nat → List α → List α
  | _, 0, xs => xs
  | i, m + 1, xs => mirror s (i + 1) m (swapAt i (s - i) xs)

/-- Where the item at `k` comes from. -/
def reflect (s i m k : Nat) : Nat :=
  if i ≤ k ∧ k < i + m ∨ k + i ≤ s ∧ s < k + i + m then s - k else k

theorem getElem?_swapAt {i j : Nat} {xs : List α} (hi : i < xs.length) (hj : j < xs.length)
    (k : Nat) : (swapAt i j xs)[k]? = xs[if k = i then j else if k = j then i else k]? := by
  simp only [swapAt, List.getElem?_eq_getElem hi, List.getElem?_eq_getElem hj]
  by_cases hkj : k = j
  · subst hkj
    rw [List.getElem?_set_self (by rw [List.length_set]; exact hj), if_pos rfl]
    split
    · next h =>
      subst h
      exact (List.getElem?_eq_getElem hi).symm
    · exact (List.getElem?_eq_getElem hi).symm
  · rw [List.getElem?_set_ne (Ne.symm hkj), if_neg hkj]
    by_cases hki : k = i
    · subst hki
      rw [List.getElem?_set_self hi, if_pos rfl, List.getElem?_eq_getElem hj]
    · rw [List.getElem?_set_ne (Ne.symm hki), if_neg hki]

@[simp] theorem length_swapAt (i j : Nat) (xs : List α) : (swapAt i j xs).length = xs.length := by
  unfold swapAt
  split
  · rw [List.length_set, List.length_set]
  · rfl

@[simp] theorem length_mirror (s i m : Nat) (xs : List α) : (mirror s i m xs).length = xs.length := by
  induction m generalizing i xs with
  | zero => rfl
  | succ m ih => rw [mirror, ih, length_swapAt]

/-- The runs do not meet, and both are inside. -/
theorem getElem?_mirror {s i m : Nat} {xs : List α} (hm : 2 * (i + m) ≤ s + 1)
    (hs : s < i + xs.length) (k : Nat) : (mirror s i m xs)[k]? = xs[reflect s i m k]? := by
  induction m generalizing i xs with
  | zero =>
    rw [mirror, reflect, if_neg (by omega)]
  | succ m ih =>
    rw [mirror, ih (by omega) (by rw [length_swapAt]; omega),
      getElem?_swapAt (by omega) (by omega)]
    congr 1
    -- the outermost pair is swapped here, all others later
    unfold reflect
    split_ifs <;> omega

theorem reflect_reflect {s i m : Nat} (hm : 2 * (i + m) ≤ s + 1) (k : Nat) :
    reflect s i m (reflect s i m k) = k := by
  unfold reflect
  split_ifs <;> omega

theorem mirror_mirror {s i m : Nat} {xs : List α} (hm : 2 * (i + m) ≤ s + 1)
    (hs : s < i + xs.length) : mirror s i m (mirror s i m xs) = xs := by
  refine List.ext_getElem? fun k => ?_
  rw [getElem?_mirror hm (by rw [length_mirror]; exact hs), getElem?_mirror hm hs,
    reflect_reflect hm]

end

namespace Buffer

section
variable {α : Type}

/-- `tmp = b[i]; b[i] = b[j]; b[j] = tmp;` -/
def swap (i j : Nat) (b : Buffer α) : Checked (Buffer α) := do
  let (x, b) ← b.load i
  let (y, b) ← b.load j
  let b ← b.store i y
  b.store j x

/-- `for (k = 0; k < m; k++)` the items at `i + k` and `s - (i + k)` are swapped. -/
def mirror (s : Nat) : Nat → Nat → Buffer α → Checked (Buffer α)
  | _, 0, b => .ok b
  | i, m + 1, b => do
    let b ← b.swap i (s - i)
    mirror s (i + 1) m b

variable {i j m s : Nat} {b : Buffer α}

theorem swap_becomes (hi : i < b.cells.length) (hj : j < b.cells.length) :
    ∃ b', b.swap i j = .ok b' ∧ Becomes (fun k => k = i ∨ k = j) b (swapAt i j b.cells) b' := by
  obtain ⟨b₁, h1, hb1⟩ := load_becomes hi
  have hj₁ : j < b₁.cells.length := by rw [hb1.cells]; exact hj
  obtain ⟨b₂, h2, hb2⟩ := load_becomes hj₁
  obtain ⟨b₃, h3, hb3⟩ := store_becomes (b := b₂) (i := i) (x := b₁.cells[j])
    (by rw [hb2.cells, hb1.cells]; exact hi)
  obtain ⟨b₄, h4, hb4⟩ := store_becomes (b := b₃) (i := j) (x := b.cells[i])
    (by rw [hb3.cells, List.length_set, hb2.cells, hb1.cells]; exact hj)
  refine ⟨b₄, ?_, ?_⟩
  · rw [swap, h1]
    simp only [Outcome.ok_bind, h2, h3, h4]
  · have hcells : b₃.cells.set j b.cells[i] = swapAt i j b.cells := by
      simp only [swapAt, List.getElem?_eq_getElem hi, List.getElem?_eq_getElem hj]
      rw [hb3.cells, hb2.cells]
      simp only [hb1.cells]
    rw [← hcells]
    exact (((hb1.mono fun k h => .inl h).trans (hb2.mono fun k h => .inr h)).trans
      (hb3.mono fun k h => .inl h)).trans (hb4.mono fun k h => .inr h)

theorem mirror_becomes (hm : 2 * (i + m) ≤ s + 1) (hs : s < i + b.cells.length) :
    ∃ b', b.mirror s i m = .ok b' ∧
      Becomes (fun k => i ≤ k ∧ k ≤ s - i) b (P970.mirror s i m b.cells) b' := by
  induction m generalizing i b with
  | zero => exact ⟨b, rfl, .refl _ b⟩
  | succ m ih =>
    obtain ⟨b₁, hswap, h₁⟩ := swap_becomes (b := b) (i := i) (j := s - i) (by omega) (by omega)
    obtain ⟨b₂, hrest, h₂⟩ := ih (i := i + 1) (b := b₁) (by omega)
      (by rw [h₁.cells, length_swapAt]; omega)
    refine ⟨b₂, ?_, ?_⟩
    · rw [mirror, hswap]
      exact hrest
    · rw [P970.mirror, ← h₁.cells]
      exact (h₁.mono fun k h => by omega).trans (h₂.mono fun k h => by omega)

end

end Buffer

end P970
