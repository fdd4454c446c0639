import Mathlib.Data.List.Basic

/-!
# Strides

`strided width stride n xs`: of `n` consecutive groups of `stride` items of `xs`,
the first `width` of each. `compact` does this in place, group by group and item
by item; since an item is always written in front of those still to be read, the
front of the array is then `strided` of what the array was (`compact_eq`).
-/

namespace P970

section
variable {α : Type*}

def strided (width stride n : Nat) (xs : List α) : List α :=
  (List.range n).flatMap fun k => (xs.drop (k * stride)).take width

/-- Copies `n` items from `s` on to `d` on, one after the other. -/
def copyForward : Nat → Nat → Nat → List α → List α
  | _, _, 0, xs => xs
  | d, s, n + 1, xs =>
    copyForward (d + 1) (s + 1) n (match xs[s]? with
      | some x => xs.set d x
      | none => xs)

/-- `n` times `width` items are copied from `s` to `d`, which go on by `stride` and by `width`. -/
def compact (width stride : Nat) : Nat → Nat → Nat → List α → List α
  | _, _, 0, xs => xs
  | d, s, n + 1, xs => compact width stride (d + width) (s + stride) n (copyForward d s width xs)

theorem strided_succ (width stride n : Nat) (xs : List α) :
    strided width stride (n + 1) xs =
      xs.take width ++ strided width stride n (xs.drop stride) := by
  simp only [strided, List.range_succ_eq_map, List.flatMap_cons, List.flatMap_map, Nat.zero_mul,
    List.drop_zero, List.drop_drop, Nat.succ_mul, Nat.add_comm stride]

theorem strided_append {width stride n : Nat} (hw : width ≤ stride) {xs : List α} (ys : List α)
    (h : n * stride ≤ xs.length) : strided width stride n (xs ++ ys) = strided width stride n xs := by
  induction n generalizing xs with
  | zero => rfl
  | succ n ih =>
    rw [Nat.succ_mul] at h
    rw [strided_succ, strided_succ, List.take_append_of_le_length (by omega),
      List.drop_append_of_le_length (by omega), ih (by rw [List.length_drop]; omega)]

/-- All of each group is all of the groups. -/
theorem strided_self (width n : Nat) (xs : List α) : strided width width n xs = xs.take (n * width) := by
  induction n generalizing xs with
  | zero => simp [strided]
  | succ n ih => rw [strided_succ, ih, Nat.succ_mul, Nat.add_comm, List.take_add]

/-- Groups of one width, laid end to end. -/
theorem take_flatten {width : Nat} {xs : List (List α)} (h : ∀ x ∈ xs, x.length = width) (n : Nat) :
    xs.flatten.take (n * width) = (xs.take n).flatten ∧
      xs.flatten.drop (n * width) = (xs.drop n).flatten := by
  induction n generalizing xs with
  | zero => simp
  | succ n ih =>
    cases xs with
    | nil => simp
    | cons x xs =>
      have hx : x.length = width := h x List.mem_cons_self
      obtain ⟨h1, h2⟩ := ih fun y hy => h y (List.mem_cons_of_mem _ hy)
      rw [List.flatten_cons, List.take_succ_cons, List.drop_succ_cons, List.flatten_cons,
        Nat.succ_mul, Nat.add_comm, ← hx, List.take_length_add_append, List.drop_length_add_append, hx, h1, h2]
      exact ⟨rfl, rfl⟩

theorem take_succ_set {xs : List α} {i : Nat} {x : α} (h : i < xs.length) :
    (xs.set i x).take (i + 1) = xs.take i ++ [x] := by
  rw [List.take_set, List.take_succ_eq_append_getElem h,
    List.set_append_right _ _ (List.length_take_le i xs), List.length_take_of_le (Nat.le_of_lt h),
    Nat.sub_self, List.set_cons_zero]

@[simp] theorem length_copyForward (d s n : Nat) (xs : List α) :
    (copyForward d s n xs).length = xs.length := by
  induction n generalizing d s xs with
  | zero => rfl
  | succ n ih =>
    rw [copyForward, ih]
    split
    · exact List.length_set
    · rfl

theorem copyForward_eq {d s n : Nat} (hds : d ≤ s) {xs : List α} (h : s + n ≤ xs.length) :
    copyForward d s n xs = xs.take d ++ (xs.drop s).take n ++ xs.drop (d + n) := by
  induction n generalizing d s xs with
  | zero => simp [copyForward]
  | succ n ih =>
    have hs : s < xs.length := by omega
    have hd : d < xs.length := by omega
    have hdrop : xs.drop s = xs[s] :: xs.drop (s + 1) := List.drop_eq_getElem_cons hs
    rw [copyForward, List.getElem?_eq_getElem hs]
    simp only
    rw [ih (by omega) (by rw [List.length_set]; omega), List.drop_set_of_lt (by omega),
      List.drop_set_of_lt (by omega), hdrop, List.take_succ_cons,
      show d + 1 + n = d + (n + 1) by omega, take_succ_set hd]
    simp only [List.append_assoc, List.cons_append, List.nil_append]

/-- What `compact` makes of the array: behind the items it has put in front, nothing changes. -/
theorem compact_eq {width stride d s n : Nat} (hw : width ≤ stride) (hds : d ≤ s) {xs : List α}
    (h : s + n * stride ≤ xs.length) :
    compact width stride d s n xs =
      xs.take d ++ strided width stride n (xs.drop s) ++ xs.drop (d + n * width) := by
  induction n generalizing d s xs with
  | zero => simp [compact, strided]
  | succ n ih =>
    rw [Nat.succ_mul] at h
    have hcopy := copyForward_eq (n := width) hds (show s + width ≤ xs.length by omega)
    have hfront : (xs.take d ++ (xs.drop s).take width).length = d + width := by
      rw [List.length_append, List.length_take_of_le (by omega),
        List.length_take_of_le (by rw [List.length_drop]; omega)]
    have hdrop : ∀ k, d + width ≤ k → (copyForward d s width xs).drop k = xs.drop k := by
      intro k hk
      rw [hcopy, List.drop_append, hfront, List.drop_eq_nil_of_le (by omega), List.nil_append,
        List.drop_drop]
      congr 1
      omega
    have htake : (copyForward d s width xs).take (d + width) =
        xs.take d ++ (xs.drop s).take width := by
      rw [hcopy, List.take_append_of_le_length (Nat.le_of_eq hfront.symm),
        List.take_of_length_le (Nat.le_of_eq hfront)]
    rw [compact, ih (by omega) (by rw [length_copyForward]; omega), htake, hdrop _ (by omega),
      hdrop _ (by omega), strided_succ, List.drop_drop, Nat.succ_mul,
      show d + width + n * width = d + (n * width + width) by omega]
    simp only [List.append_assoc]

theorem length_strided {width stride n : Nat} (hw : width ≤ stride) {xs : List α}
    (h : n * stride ≤ xs.length) : (strided width stride n xs).length = n * width := by
  induction n generalizing xs with
  | zero => simp [strided]
  | succ n ih =>
    rw [Nat.succ_mul] at h ⊢
    rw [strided_succ, List.length_append, List.length_take_of_le (by omega),
      ih (by rw [List.length_drop]; omega), Nat.add_comm]

end

end P970
