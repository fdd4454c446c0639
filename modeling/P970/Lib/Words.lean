import Mathlib.Algebra.Order.Floor.Semifield
import Mathlib.Data.Rat.Floor
import Mathlib.Tactic.Linarith
import Mathlib.Tactic.Positivity

/-!
# 32-bit arithmetic

What arithmetic modulo `2 ^ 32` does to a product that is divided, to a size that
is rounded up, and to a signed value that is cut to 32 bits.
-/

namespace P970.Words

/-! ## Unsigned -/

/-- A value that has wrapped around gives another quotient. -/
theorem wrap_div_iff {x d : Nat} (hd : 0 < d) (h : d ≤ 2 ^ 32) :
    x % 2 ^ 32 / d = x / d ↔ x < 2 ^ 32 := by
  constructor
  · intro he
    by_contra hx
    have hsplit := Nat.mod_add_div x (2 ^ 32)
    have hq : 1 ≤ x / 2 ^ 32 := Nat.div_pos (by omega) (by omega)
    have hle : x % 2 ^ 32 + d ≤ x := by
      calc x % 2 ^ 32 + d ≤ x % 2 ^ 32 + 2 ^ 32 * (x / 2 ^ 32) := by
            have := Nat.mul_le_mul_left (2 ^ 32) hq
            omega
        _ = x := hsplit
    have hdiv := Nat.div_le_div_right (c := d) hle
    rw [Nat.add_div_right _ hd] at hdiv
    omega
  · intro hx
    rw [Nat.mod_eq_of_lt hx]

/-- The product of two unsigned values. -/
def mul (a b : Nat) : Nat := a * b % 2 ^ 32

theorem mul_of_lt {a b : Nat} (h : a * b < 2 ^ 32) : mul a b = a * b := Nat.mod_eq_of_lt h

/-- `n` rounded up to a multiple of `k`, as `(n + (k - 1)) / k * k`. -/
def roundUp (k n : Nat) : Nat := (n + (k - 1)) / k * k

section
variable {k : Nat} (n : Nat)

theorem dvd_roundUp : k ∣ roundUp k n := ⟨_, Nat.mul_comm ..⟩

theorem le_roundUp (hk : 0 < k) : n ≤ roundUp k n := by
  have h := Nat.div_add_mod (n + (k - 1)) k
  have hm := Nat.mod_lt (n + (k - 1)) hk
  rw [roundUp, Nat.mul_comm]
  omega

/-- It is the least such multiple. -/
theorem roundUp_le {m : Nat} (hk : 0 < k) (hm : k ∣ m) (h : n ≤ m) : roundUp k n ≤ m := by
  obtain ⟨j, rfl⟩ := hm
  have hlt : (n + (k - 1)) / k < j + 1 := by
    rw [Nat.div_lt_iff_lt_mul hk, Nat.add_mul, Nat.one_mul, Nat.mul_comm j k]
    omega
  calc roundUp k n = (n + (k - 1)) / k * k := rfl
    _ ≤ j * k := Nat.mul_le_mul_right k (by omega)
    _ = k * j := Nat.mul_comm ..

theorem roundUp_eq_zero (hk : 0 < k) : roundUp k n = 0 ↔ n = 0 := by
  constructor
  · intro h
    have := le_roundUp n hk
    omega
  · rintro rfl
    rw [roundUp, Nat.zero_add, Nat.div_eq_of_lt (by omega), Nat.zero_mul]

end

/-- A whole quotient against the rational one. -/
theorem cast_div_bounds (n d : Nat) :
    ((n / d : Nat) : ℚ) ≤ n / d ∧ (n : ℚ) / d < (n / d : Nat) + 1 := by
  rw [← Nat.floor_div_eq_div (K := ℚ) n d]
  exact ⟨Nat.floor_le (by positivity), Nat.lt_floor_add_one _⟩

/-! ## Signed -/

/-- The values of a signed 32-bit integer. -/
def Fits (x : Int) : Prop := -2 ^ 31 ≤ x ∧ x < 2 ^ 31

instance (x : Int) : Decidable (Fits x) := inferInstanceAs (Decidable (_ ∧ _))

theorem toInt_ofInt {x : Int} (h : Fits x) : (BitVec.ofInt 32 x).toInt = x := by
  obtain ⟨h1, h2⟩ := h
  rw [BitVec.toInt_ofInt, Int.bmod_eq_of_le (by omega) (by omega)]

/-- A sum with a word wraps around to itself where it fits. -/
theorem toInt_ofInt_add {x : Int} {d : BitVec 32} (h : Fits (x + d.toInt)) :
    (BitVec.ofInt 32 x + d).toInt = x + d.toInt := by
  have he : BitVec.ofInt 32 x + d = BitVec.ofInt 32 (x + d.toInt) := by
    rw [BitVec.ofInt_add, BitVec.ofInt_toInt]
  rw [he, toInt_ofInt h]

theorem fits_toInt (x : BitVec 32) : Fits x.toInt :=
  ⟨by have := BitVec.le_toInt x; omega, by have := BitVec.toInt_lt (x := x); omega⟩

end P970.Words
