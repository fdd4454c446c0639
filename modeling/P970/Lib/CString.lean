import Mathlib.Data.List.Basic
import P970.Lib.CInt

/-!
# C strings

The text in front of the first NUL of an array. An array without one is read
beyond its end.
-/

namespace P970.CString

def nul : UInt8 := 0

/-- The string at the front of `mem`. -/
def read : List UInt8 → Checked (List UInt8)
  | [] => .error .outOfBounds
  | c :: rest =>
    if c = nul then .ok []
    else do
      let text ← read rest
      return c :: text

def strlen (mem : List UInt8) : Checked Nat := do
  let text ← read mem
  return text.length

/-- `mem[i] = c`. -/
def poke (i : Nat) (c : UInt8) (mem : List UInt8) : Checked (List UInt8) :=
  if i < mem.length then .ok (mem.set i c) else .error .outOfBounds

section
variable {text rest : List UInt8} {c : UInt8}

theorem read_append (h : nul ∉ text) : read (text ++ nul :: rest) = .ok text := by
  induction text with
  | nil => rfl
  | cons c text ih =>
    obtain ⟨hc, htext⟩ := not_or.mp (mt List.mem_cons.mpr h)
    rw [List.cons_append, read, if_neg (Ne.symm hc), ih htext]
    rfl

theorem strlen_append (h : nul ∉ text) : strlen (text ++ nul :: rest) = .ok text.length := by
  rw [strlen, read_append h]
  rfl

theorem poke_append {d : UInt8} :
    poke text.length d (text ++ c :: rest) = .ok (text ++ d :: rest) := by
  rw [poke, if_pos (by rw [List.length_append, List.length_cons]; omega),
    List.set_append_right _ _ (Nat.le_refl _), Nat.sub_self, List.set_cons_zero]

end

end P970.CString
