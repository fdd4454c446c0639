import Mathlib.Data.List.Basic
import Mathlib.Tactic.Common

/-!
# Hexadecimal bytes

Two figures a byte, in an alphabet of sixteen figures that reads back what it
writes. `decode` takes exactly what `encode` gives (`decode_eq_some`).
-/

namespace P970

structure Hex (χ : Type) where
  figure : Nat → χ
  value : χ → Option Nat
  value_figure {n : Nat} : n < 16 → value (figure n) = some n
  figure_value {c : χ} {n : Nat} : value c = some n → n < 16 ∧ figure n = c

namespace Hex

section
variable {χ : Type} (H : Hex χ)

def encodeByte (b : UInt8) : List χ := [H.figure (b.toNat / 16), H.figure (b.toNat % 16)]

def encode (bytes : List UInt8) : List χ := bytes.flatMap H.encodeByte

def decodeByte (high low : χ) : Option UInt8 := do
  let h ← H.value high
  let l ← H.value low
  return UInt8.ofNat (h * 16 + l)

def decode : List χ → Option (List UInt8)
  | [] => some []
  | [_] => none
  | high :: low :: rest => do
    let b ← H.decodeByte high low
    let bytes ← decode rest
    return b :: bytes

theorem encode_cons (b : UInt8) (bytes : List UInt8) :
    H.encode (b :: bytes) = H.encodeByte b ++ H.encode bytes := List.flatMap_cons

variable {H}

theorem decodeByte_eq_some {high low : χ} {b : UInt8} :
    H.decodeByte high low = some b ↔ [high, low] = H.encodeByte b := by
  simp only [decodeByte, encodeByte, Option.bind_eq_bind, Option.bind_eq_some_iff,
    Option.pure_def, Option.some.injEq, List.cons.injEq, and_true]
  constructor
  · rintro ⟨h, hh, l, hl, rfl⟩
    obtain ⟨hh16, hfig⟩ := H.figure_value hh
    obtain ⟨hl16, lfig⟩ := H.figure_value hl
    have hval : (UInt8.ofNat (h * 16 + l)).toNat = h * 16 + l :=
      UInt8.toNat_ofNat_of_lt' (show h * 16 + l < 256 by omega)
    rw [hval, show (h * 16 + l) / 16 = h by omega, show (h * 16 + l) % 16 = l by omega]
    exact ⟨hfig.symm, lfig.symm⟩
  · rintro ⟨rfl, rfl⟩
    have hb : b.toNat < 256 := b.toNat_lt
    refine ⟨b.toNat / 16, H.value_figure (by omega), b.toNat % 16, H.value_figure (by omega), ?_⟩
    rw [show b.toNat / 16 * 16 + b.toNat % 16 = b.toNat by omega, UInt8.ofNat_toNat]

theorem decode_eq_some {s : List χ} {bytes : List UInt8} :
    H.decode s = some bytes ↔ s = H.encode bytes := by
  induction s using Hex.decode.induct generalizing bytes with
  | case1 =>
    cases bytes with
    | nil => exact iff_of_true rfl rfl
    | cons b bytes => exact iff_of_false (by rintro ⟨⟩) (by rintro ⟨⟩)
  | case2 c =>
    cases bytes with
    | nil => exact iff_of_false (by rintro ⟨⟩) (by rintro ⟨⟩)
    | cons b bytes => exact iff_of_false (by rintro ⟨⟩) (by rintro ⟨⟩)
  | case3 high low rest ih =>
    simp only [decode, Option.bind_eq_bind, Option.bind_eq_some_iff, decodeByte_eq_some, ih,
      Option.pure_def, Option.some.injEq]
    constructor
    · rintro ⟨b, hb, bytes, hrest, rfl⟩
      rw [encode_cons, ← hb, hrest]
      rfl
    · intro h
      cases bytes with
      | nil => cases h
      | cons b bytes =>
        rw [encode_cons] at h
        obtain ⟨hpair, hrest⟩ := List.append_inj (show [high, low] ++ rest = _ from h) rfl
        exact ⟨b, hpair, bytes, hrest, rfl⟩

@[simp] theorem length_encode (bytes : List UInt8) : (H.encode bytes).length = 2 * bytes.length := by
  induction bytes with
  | nil => rfl
  | cons b bytes ih =>
    rw [encode_cons, List.length_append, ih, List.length_cons]
    show 2 + 2 * bytes.length = _
    omega

theorem encode_injective {xs ys : List UInt8} (h : H.encode xs = H.encode ys) : xs = ys :=
  Option.some.inj ((decode_eq_some.mpr rfl).symm.trans (decode_eq_some.mpr h))

/-- An even number of figures is a number of bytes. -/
theorem exists_encode {s : List χ} (hs : ∀ c ∈ s, ∃ n < 16, c = H.figure n) (h : s.length % 2 = 0) :
    ∃ bytes, s = H.encode bytes := by
  induction s using Hex.decode.induct with
  | case1 => exact ⟨[], rfl⟩
  | case2 c => cases h
  | case3 high low rest ih =>
    obtain ⟨x, hx, rfl⟩ := hs high (by simp)
    obtain ⟨y, hy, rfl⟩ := hs low (by simp)
    simp only [List.length_cons] at h
    obtain ⟨bytes, rfl⟩ := ih (fun c hc => hs c (by simp [hc])) (by omega)
    have hb : H.decodeByte (H.figure x) (H.figure y) = some (UInt8.ofNat (x * 16 + y)) := by
      rw [decodeByte, H.value_figure hx, H.value_figure hy]
      rfl
    refine ⟨UInt8.ofNat (x * 16 + y) :: bytes, ?_⟩
    rw [encode_cons, ← decodeByte_eq_some.mp hb]
    rfl

end

/-- `0` to `9` and six letters, of a type of characters that has ASCII in it. -/
def ofCodes {χ : Type} (letter : Nat) (code : χ → Nat) (char : Nat → χ)
    (hletter : 57 < letter ∧ letter < 122) (char_code : ∀ c, char (code c) = c)
    (code_char : ∀ n < 128, code (char n) = n) : Hex χ where
  figure n := char (if n < 10 then 48 + n else letter + (n - 10))
  value c :=
    if 48 ≤ code c ∧ code c ≤ 57 then some (code c - 48)
    else if letter ≤ code c ∧ code c ≤ letter + 5 then some (code c - letter + 10)
    else none
  value_figure {n} hn := by
    rw [code_char _ (by split <;> omega)]
    split
    · rw [if_pos (by omega)]
      exact congrArg some (by omega)
    · rw [if_neg (by omega), if_pos (by omega)]
      exact congrArg some (by omega)
  figure_value {c n} h := by
    have hc : ∀ m, m = code c → char m = c := fun m hm => by rw [hm, char_code]
    split at h
    · cases h
      rw [if_pos (by omega)]
      exact ⟨by omega, hc _ (by omega)⟩
    · split at h
      · cases h
        rw [if_neg (by omega)]
        exact ⟨by omega, hc _ (by omega)⟩
      · cases h

/-- `0` to `9` and `a` to `f`, in bytes. -/
def lower : Hex UInt8 :=
  ofCodes 97 UInt8.toNat UInt8.ofNat (by decide) (fun _ => UInt8.ofNat_toNat)
    fun _ h => UInt8.toNat_ofNat_of_lt' (Nat.lt_trans h (by decide))

/-- `0` to `9` and `A` to `F`, in units of 16 bits. -/
def upper : Hex UInt16 :=
  ofCodes 65 UInt16.toNat UInt16.ofNat (by decide) (fun _ => UInt16.ofNat_toNat)
    fun _ h => UInt16.toNat_ofNat_of_lt' (Nat.lt_trans h (by decide))

end Hex

end P970
