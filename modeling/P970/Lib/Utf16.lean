import Mathlib.Data.List.Basic
import Mathlib.Tactic.Common

/-!
# UTF-16

A text is a list of 16-bit units, `Paired` when every surrogate stands in a pair.
`Utf16` is what is documented of a decoder of bytes: a mark in front tells the
order of the bytes and is not part of the text, without one the high byte comes
first, and what is malformed is replaced. How it is cut into pieces for that differs
between decoders; `Utf16.replacing` has the usual ways.
-/

namespace P970

namespace Utf16

def isHigh (c : UInt16) : Bool := 0xD800 ≤ c && c < 0xDC00

def isLow (c : UInt16) : Bool := 0xDC00 ≤ c && c < 0xE000

/-- Every high surrogate is followed by a low one, and there are no other low ones. -/
def paired : List UInt16 → Bool
  | [] => true
  | [c] => !isHigh c && !isLow c
  | c :: d :: rest =>
    if isHigh c then isLow d && paired rest else !isLow c && paired (d :: rest)

def mark : UInt16 := 0xFEFF

def reversedMark : UInt16 := 0xFFFE

def replacement : UInt16 := 0xFFFD

/-- The text begins with what is taken for a mark. -/
def Marked (text : List UInt16) : Prop := text.head? = some mark ∨ text.head? = some reversedMark

def joinBytes (high low : UInt8) : UInt16 := UInt16.ofNat (high.toNat * 256 + low.toNat)

def highByte (c : UInt16) : UInt8 := UInt8.ofNat (c.toNat / 256)

def lowByte (c : UInt16) : UInt8 := UInt8.ofNat (c.toNat % 256)

def bigEndian (text : List UInt16) : List UInt8 := text.flatMap fun c => [highByte c, lowByte c]

/-- The bytes behind the mark, if there is one. -/
def withoutMark : List UInt8 → List UInt8
  | a :: b :: rest =>
    if joinBytes a b = mark ∨ joinBytes a b = reversedMark then rest else a :: b :: rest
  | bytes => bytes

end Utf16

/-- A decoder, which may take the reversed mark inside a text for malformed. -/
structure Utf16 where
  rejectsReversedMark : Bool
  decode : List UInt8 → List UInt16
  decode_bigEndian {text : List UInt16} : Utf16.paired text = true → ¬ Utf16.Marked text →
    (rejectsReversedMark = true → Utf16.reversedMark ∉ text) →
      decode (Utf16.bigEndian text) = text
  length_decode (bytes : List UInt8) :
    2 * (decode bytes).length ≤ (Utf16.withoutMark bytes).length + 1
  not_mem_decode (bytes : List UInt8) :
    rejectsReversedMark = true → Utf16.reversedMark ∉ decode bytes

namespace Utf16

/-! ## Bytes of texts -/

@[simp] theorem joinBytes_bytes (c : UInt16) : joinBytes (highByte c) (lowByte c) = c := by
  have hc := c.toNat_lt
  rw [joinBytes, highByte, lowByte, UInt8.toNat_ofNat_of_lt' (show _ < 256 by omega),
    UInt8.toNat_ofNat_of_lt' (show _ < 256 by omega),
    show c.toNat / 256 * 256 + c.toNat % 256 = c.toNat by omega, UInt16.ofNat_toNat]

theorem bigEndian_cons (c : UInt16) (text : List UInt16) :
    bigEndian (c :: text) = highByte c :: lowByte c :: bigEndian text := rfl

@[simp] theorem length_bigEndian (text : List UInt16) : (bigEndian text).length = 2 * text.length := by
  induction text with
  | nil => rfl
  | cons c text ih =>
    rw [bigEndian_cons, List.length_cons, List.length_cons, ih, List.length_cons]
    omega

theorem length_withoutMark_of_marked {text : List UInt16} (h : Marked text) :
    (withoutMark (bigEndian text)).length + 2 = 2 * text.length := by
  cases text with
  | nil => rcases h with h | h <;> cases h
  | cons c text =>
    have hc : c = mark ∨ c = reversedMark := h.imp Option.some.inj Option.some.inj
    rw [bigEndian_cons, withoutMark, joinBytes_bytes, if_pos hc, length_bigEndian, List.length_cons]
    omega

theorem length_withoutMark_le (bytes : List UInt8) : (withoutMark bytes).length ≤ bytes.length := by
  unfold withoutMark
  split
  · split
    · simp only [List.length_cons]
      omega
    · exact Nat.le_refl _
  · exact Nat.le_refl _

/-! ## A decoder -/

/-- The units of bytes, where a byte that is left over is malformed. -/
def units (join : UInt8 → UInt8 → UInt16) : List UInt8 → List UInt16
  | [] => []
  | [_] => [replacement]
  | a :: b :: rest => join a b :: units join rest

section
variable (rejects skips : Bool)

/-- A unit that is not the first of a pair. -/
def single (c : UInt16) : UInt16 :=
  if isLow c || (rejects && c == reversedMark) then replacement else c

/-- A high surrogate without a low one is replaced, with what is behind it or not (`skips`). -/
def scan : List UInt16 → List UInt16
  | [] => []
  | [c] => [if isHigh c then replacement else single rejects c]
  | c :: d :: rest =>
    if isHigh c then
      if isLow d then c :: d :: scan rest
      else if skips then replacement :: scan rest
      else replacement :: scan (d :: rest)
    else single rejects c :: scan (d :: rest)

def decodeBytes (bytes : List UInt8) : List UInt16 :=
  scan rejects skips (match bytes with
    | a :: b :: rest =>
      if joinBytes a b = mark then units joinBytes rest
      else if joinBytes a b = reversedMark then units (fun a b => joinBytes b a) rest
      else units joinBytes (a :: b :: rest)
    | bytes => units joinBytes bytes)

theorem units_bigEndian (text : List UInt16) : units joinBytes (bigEndian text) = text := by
  induction text with
  | nil => rfl
  | cons c text ih => rw [bigEndian_cons, units, joinBytes_bytes, ih]

theorem length_units (join : UInt8 → UInt8 → UInt16) (bytes : List UInt8) :
    2 * (units join bytes).length ≤ bytes.length + 1 := by
  induction bytes using units.induct with
  | case1 => exact Nat.zero_le _
  | case2 b => exact Nat.le_refl _
  | case3 a b rest ih =>
    rw [units, List.length_cons, List.length_cons, List.length_cons]
    omega

theorem length_scan (text : List UInt16) : (scan rejects skips text).length ≤ text.length := by
  induction text using scan.induct skips with
  | case1 => exact Nat.le_refl _
  | case2 c => exact Nat.le_refl _
  | case3 c d rest hc hd ih =>
    rw [scan, if_pos hc, if_pos hd]
    simp only [List.length_cons]
    omega
  | case4 c d rest hc hd hs ih =>
    rw [scan, if_pos hc, if_neg hd, if_pos hs]
    simp only [List.length_cons]
    omega
  | case5 c d rest hc hd hs ih =>
    rw [scan, if_pos hc, if_neg hd, if_neg hs]
    simp only [List.length_cons] at ih ⊢
    omega
  | case6 c d rest hc ih =>
    rw [scan, if_neg hc]
    simp only [List.length_cons] at ih ⊢
    omega

theorem single_of_text {c : UInt16} (hl : isLow c = false)
    (hr : rejects = true → reversedMark ≠ c) : single rejects c = c := by
  refine if_neg ?_
  rw [hl, Bool.false_or, Bool.and_eq_true, beq_iff_eq]
  exact fun h => hr h.1 h.2.symm

/-- Whole text stays as it is. -/
theorem scan_paired {text : List UInt16} (h : paired text = true)
    (hr : rejects = true → reversedMark ∉ text) : scan rejects skips text = text := by
  induction text using scan.induct skips with
  | case1 => rfl
  | case2 c =>
    obtain ⟨hh, hl⟩ := Bool.and_eq_true_iff.mp h
    rw [scan, if_neg (by simpa using hh), single_of_text rejects (by simpa using hl)
      fun h => fun he => hr h (List.mem_singleton.mpr he)]
  | case3 c d rest hc hd ih =>
    rw [paired, if_pos hc, Bool.and_eq_true] at h
    rw [scan, if_pos hc, if_pos hd, ih h.2 fun h hm =>
      hr h (List.mem_cons_of_mem _ (List.mem_cons_of_mem _ hm))]
  | case4 c d rest hc hd hs ih =>
    rw [paired, if_pos hc, Bool.and_eq_true] at h
    exact absurd h.1 hd
  | case5 c d rest hc hd hs ih =>
    rw [paired, if_pos hc, Bool.and_eq_true] at h
    exact absurd h.1 hd
  | case6 c d rest hc ih =>
    rw [paired, if_neg hc, Bool.and_eq_true] at h
    rw [scan, if_neg hc, ih h.2 fun h hm => hr h (List.mem_cons_of_mem _ hm),
      single_of_text rejects (by simpa using h.1) fun h he => hr h (List.mem_cons.mpr (.inl he))]

theorem single_ne (hr : rejects = true) (c : UInt16) : reversedMark ≠ single rejects c := by
  unfold single
  split
  · decide
  · next h =>
    intro he
    exact h (by rw [hr, ← he]; rfl)

theorem not_mem_scan (hr : rejects = true) (text : List UInt16) :
    reversedMark ∉ scan rejects skips text := by
  have hhigh : ∀ c, isHigh c = true → reversedMark ≠ c := by
    rintro c hc rfl
    exact absurd hc (by decide)
  have hlow : ∀ c, isLow c = true → reversedMark ≠ c := by
    rintro c hc rfl
    exact absurd hc (by decide)
  have hreplacement : reversedMark ≠ replacement := by decide
  induction text using scan.induct skips with
  | case1 => exact List.not_mem_nil
  | case2 c =>
    rw [scan, List.mem_singleton]
    split
    · exact hreplacement
    · exact single_ne rejects hr c
  | case3 c d rest hc hd ih =>
    rw [scan, if_pos hc, if_pos hd]
    simp only [List.mem_cons, not_or]
    exact ⟨hhigh c hc, hlow d hd, ih⟩
  | case4 c d rest hc hd hs ih =>
    rw [scan, if_pos hc, if_neg hd, if_pos hs, List.mem_cons, not_or]
    exact ⟨hreplacement, ih⟩
  | case5 c d rest hc hd hs ih =>
    rw [scan, if_pos hc, if_neg hd, if_neg hs, List.mem_cons, not_or]
    exact ⟨hreplacement, ih⟩
  | case6 c d rest hc ih =>
    rw [scan, if_neg hc, List.mem_cons, not_or]
    exact ⟨single_ne rejects hr c, ih⟩

theorem decodeBytes_bigEndian {text : List UInt16} (h : paired text = true) (hm : ¬ Marked text)
    (hr : rejects = true → reversedMark ∉ text) :
    decodeBytes rejects skips (bigEndian text) = text := by
  cases text with
  | nil => rfl
  | cons c text =>
    rw [bigEndian_cons, decodeBytes]
    simp only [joinBytes_bytes]
    rw [if_neg fun hc => hm (.inl (congrArg some hc)), if_neg fun hc => hm (.inr (congrArg some hc)),
      ← bigEndian_cons, units_bigEndian]
    exact scan_paired rejects skips h hr

theorem length_decodeBytes (bytes : List UInt8) :
    2 * (decodeBytes rejects skips bytes).length ≤ (withoutMark bytes).length + 1 := by
  have hlen : ∀ join bytes, 2 * (scan rejects skips (units join bytes)).length ≤ bytes.length + 1 :=
    fun join bytes => Nat.le_trans (Nat.mul_le_mul_left 2 (length_scan rejects skips _))
      (length_units join bytes)
  unfold decodeBytes withoutMark
  split
  · next a b rest =>
    split
    · next hmark =>
      rw [if_pos (.inl hmark)]
      exact hlen _ rest
    · next hmark =>
      split
      · next hrev =>
        rw [if_pos (.inr hrev)]
        exact hlen _ rest
      · next hrev =>
        rw [if_neg (not_or.mpr ⟨hmark, hrev⟩)]
        exact hlen _ _
  · exact hlen _ _

/-- The decoders that replace what is malformed. -/
def replacing : Utf16 where
  rejectsReversedMark := rejects
  decode := decodeBytes rejects skips
  decode_bigEndian := decodeBytes_bigEndian rejects skips
  length_decode := length_decodeBytes rejects skips
  not_mem_decode _ hr := not_mem_scan rejects skips hr _

end

end Utf16

end P970
