import P970.Lib.Outcome
import P970.Lib.Words

/-!
# C's `int`

A value of `int` comes with the proof that it fits in 32 bits. A result that does
not fit, a division by zero, an index outside an array and the use of NULL are
errors.
-/

namespace P970

open Words (Fits)

abbrev CInt := { x : Int // Fits x }

/-- What an operation without a defined result has done. -/
inductive Undefined where
  | overflow
  | divisionByZero
  | outOfBounds
  | nullPointer
  deriving DecidableEq, Repr

abbrev Checked (α : Type) := Except Undefined α

namespace CInt

def checked (x : Int) : Checked CInt :=
  if h : Fits x then .ok ⟨x, h⟩ else .error .overflow

def add (a b : CInt) : Checked CInt := checked (a.1 + b.1)

def sub (a b : CInt) : Checked CInt := checked (a.1 - b.1)

def mul (a b : CInt) : Checked CInt := checked (a.1 * b.1)

def div (a b : CInt) : Checked CInt :=
  if b.1 = 0 then .error .divisionByZero else checked (a.1.tdiv b.1)

/-- `a[i]`. -/
def index {α : Type} (a : List α) (i : Nat) : Checked α :=
  match a[i]? with
  | some x => .ok x
  | none => .error .outOfBounds

/-- A constant below 256. -/
def ofByte (n : Fin 256) : CInt := ⟨n, by unfold Fits; omega⟩

/-- An `unsigned int` made an `int`. -/
def ofBits (x : BitVec 32) : CInt := ⟨x.toInt, Words.fits_toInt x⟩

/-- An `int` made an `unsigned int`. -/
def bits (a : CInt) : BitVec 32 := BitVec.ofInt 32 a.1

/-! ## Operations that have a result -/

section
variable {a b c : CInt} {x : Int}

theorem checked_eq_ok : checked x = .ok c ↔ x = c.1 := by
  unfold checked
  split
  · next h => exact ⟨fun he => by cases he; rfl, fun he => congrArg _ (Subtype.ext he)⟩
  · next h => exact ⟨fun he => (by cases he), fun he => absurd (he ▸ c.2) h⟩

theorem checked_of_fits (h : Fits x) : checked x = .ok ⟨x, h⟩ := dif_pos h

theorem add_eq_ok : a.add b = .ok c ↔ a.1 + b.1 = c.1 := checked_eq_ok

theorem sub_eq_ok : a.sub b = .ok c ↔ a.1 - b.1 = c.1 := checked_eq_ok

theorem mul_eq_ok : a.mul b = .ok c ↔ a.1 * b.1 = c.1 := checked_eq_ok

theorem div_eq_ok : a.div b = .ok c ↔ b.1 ≠ 0 ∧ a.1.tdiv b.1 = c.1 := by
  unfold div
  split
  · next h => exact ⟨fun he => (by cases he), fun he => absurd h he.1⟩
  · next h => exact checked_eq_ok.trans (and_iff_right h).symm

theorem index_eq_ok {α : Type} {l : List α} {i : Nat} {y : α} : index l i = .ok y ↔ l[i]? = some y := by
  unfold index
  split
  · next z h => rw [h]; exact ⟨fun he => by cases he; rfl, fun he => by cases he; rfl⟩
  · next h => rw [h]; exact ⟨fun he => (by cases he), fun he => (by cases he)⟩

end

/-! ## Bits -/

theorem toNat_bits {a : CInt} (h : 0 ≤ a.1) : (a.bits.toNat : Int) = a.1 := by
  obtain ⟨x, hl, hh⟩ := a
  rw [bits, BitVec.toNat_ofInt]
  simp only at h ⊢
  omega

/-- A mask bounds what it lets pass. -/
theorem and_bounds {x m : BitVec 32} (hm : m.toNat < 2 ^ 31) :
    0 ≤ (x &&& m).toInt ∧ (x &&& m).toInt ≤ m.toNat := by
  have h : (x &&& m).toNat ≤ m.toNat := by
    rw [BitVec.toNat_and]
    exact Nat.and_le_right
  rw [BitVec.toInt_eq_toNat_cond]
  split <;> omega

end CInt

end P970
