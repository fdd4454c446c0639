import Mathlib.Algebra.Group.Nat.Defs
import Mathlib.Data.List.Basic
import Mathlib.Tactic.Common

/-!
# Text in a buffer of fixed size

`printDec` is what `%d` and `%u` print; a printed number is read off again
up to the first character that is no digit (`printNat_append_inj`). `append` is
`snprintf` at the end of a buffer that is not to be overrun.
-/

namespace P970.Printf

def printNat (n : Nat) : List Char := Nat.toDigits 10 n

def printInt (x : Int) : List Char :=
  if x < 0 then '-' :: printNat x.natAbs else printNat x.toNat

/-- `%x`. -/
def printHex (n : Nat) : List Char := Nat.toDigits 16 n

/-- `%.2x`. -/
def printHex2 (n : Nat) : List Char := (printHex n).leftpad 2 '0'

/-- The bytes of a text in ASCII. -/
def ascii (text : List Char) : List UInt8 := text.map fun c => UInt8.ofNat c.toNat

/-- `snprintf` of `text` behind `buf` in an array of `size`, where the offset goes on by at most
what is left: a text that does not fit is cut and ends in a NUL. -/
def append (size : Nat) (buf text : List Char) : List Char :=
  if buf.length + text.length < size then buf ++ text
  else if buf.length < size then buf ++ text.take (size - 1 - buf.length) ++ [Char.ofNat 0]
  else buf

/-- Texts one after the other. -/
def appendAll (size : Nat) (buf : List Char) (texts : List (List Char)) : List Char :=
  texts.foldl (append size) buf

/-- Texts that fit together with the final NUL are all there. -/
theorem appendAll_eq {size : Nat} (texts : List (List Char)) {buf : List Char}
    (h : buf.length + texts.flatten.length < size) :
    appendAll size buf texts = buf ++ texts.flatten := by
  induction texts generalizing buf with
  | nil => exact (List.append_nil buf).symm
  | cons text texts ih =>
    rw [List.flatten_cons, List.length_append] at h
    have hbuf : append size buf text = buf ++ text := if_pos (by omega)
    rw [appendAll, List.foldl_cons, hbuf, List.flatten_cons, ← List.append_assoc]
    exact ih (by rw [List.length_append]; omega)

/-! ## Reading a number off -/

theorem printNat_digits {n : Nat} {c : Char} (h : c ∈ printNat n) : c.isDigit = true :=
  Nat.isDigit_of_mem_toDigits (by decide) (by decide) h

theorem printNat_inj {m n : Nat} (h : printNat m = printNat n) : m = n := by
  have hm : Nat.ofDigitChars 10 (printNat m) 0 = m := Nat.ofDigitChars_ten_toDigits
  have hn : Nat.ofDigitChars 10 (printNat n) 0 = n := Nat.ofDigitChars_ten_toDigits
  rw [← hm, h, hn]

theorem takeWhile_printNat (n : Nat) {c : Char} (hc : c.isDigit = false) (s : List Char) :
    (printNat n ++ c :: s).takeWhile Char.isDigit = printNat n ∧
      (printNat n ++ c :: s).dropWhile Char.isDigit = c :: s := by
  have hd : ∀ x ∈ printNat n, x.isDigit = true := fun _ hx => printNat_digits hx
  rw [List.takeWhile_append_of_pos hd, List.dropWhile_append_of_pos hd]
  simp [hc]

theorem printNat_append_inj {m n : Nat} {c : Char} {s t : List Char} (hc : c.isDigit = false)
    (h : printNat m ++ c :: s = printNat n ++ c :: t) : m = n ∧ s = t := by
  obtain ⟨hm, hs⟩ := takeWhile_printNat m hc s
  obtain ⟨hn, ht⟩ := takeWhile_printNat n hc t
  rw [h] at hm hs
  exact ⟨printNat_inj (hm.symm.trans hn), (List.cons.inj (hs.symm.trans ht)).2⟩

theorem length_printNat_le {n k : Nat} (hk : 0 < k) (h : n < 10 ^ k) : (printNat n).length ≤ k :=
  (Nat.length_toDigits_le_iff (by decide) hk).mpr h

theorem printInt_of_nonneg {x : Int} (h : 0 ≤ x) : printInt x = printNat x.toNat :=
  if_neg (by omega)

end P970.Printf
