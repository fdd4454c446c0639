import Mathlib.Data.List.DropRight
import P970.Lib.Outcome
import P970.Lib.Printf
import P970.Lib.Words

/-!
# Java's strings

A string is the list of its UTF-16 code units. `split` drops the empty pieces at
the end, so that the pieces it keeps have to be told from those there are
(`getElem?_split`); `parseInt` reads a sign and digits of any script
(`parseInt_of_reads`).
-/

namespace P970.Java

open P970.Words (Fits)

abbrev JString := List UInt16

/-- The code unit of a character of the basic plane. -/
def unit (c : Char) : UInt16 := c.toNat.toUInt16

/-- A string as it is written in a program. -/
def lit (s : String) : JString := s.toList.map unit

/-- The exceptions that are not checked. -/
inductive Thrown where
  | nullPointer
  | arrayIndexOutOfBounds
  | numberFormat
  | stringIndexOutOfBounds
  deriving DecidableEq, Repr

/-- What a method returns, or the exception that ends it. -/
abbrev Method (α : Type) := Except Thrown α

/-- `a[i]`. -/
def index {α : Type} (a : List α) (i : Nat) : Method α :=
  match a[i]? with
  | some x => .ok x
  | none => .error .arrayIndexOutOfBounds

theorem index_eq_ok {α : Type} {a : List α} {i : Nat} {x : α} :
    index a i = .ok x ↔ a[i]? = some x := by
  unfold index
  cases a[i]? with
  | none => exact ⟨fun h => (by cases h), fun h => (by cases h)⟩
  | some y => exact ⟨fun h => by cases h; rfl, fun h => by cases h; rfl⟩

/-! ## Splitting -/

/-- `s.split(regex)` at the characters of a class: the empty pieces at the end are dropped, except
that a string without a match is its one piece. -/
def split (p : UInt16 → Bool) (s : JString) : List JString :=
  if s.any p then (s.splitOnP p).rdropWhile List.isEmpty else [s]

/-- The `i`th element is left when it or a later one is to stay. -/
theorem getElem?_rdropWhile {α : Type} (p : α → Bool) (l : List α) {i : Nat} {x : α} :
    (l.rdropWhile p)[i]? = some x ↔ l[i]? = some x ∧ ∃ y ∈ l.drop i, p y = false := by
  induction l using List.reverseRecOn with
  | nil => simp
  | append_singleton l y ih =>
    by_cases hy : p y = true
    · rw [List.rdropWhile_concat_pos p l y hy, ih]
      constructor
      · rintro ⟨hx, z, hz, hpz⟩
        have hi : i < l.length := (List.getElem?_eq_some_iff.mp hx).1
        refine ⟨by rw [List.getElem?_append_left hi, hx], z, ?_, hpz⟩
        rw [List.drop_append_of_le_length hi.le]
        exact List.mem_append_left _ hz
      · rintro ⟨hx, z, hz, hpz⟩
        have hi : i < l.length := by
          by_contra hi
          rw [List.drop_append, List.drop_eq_nil_of_le (by omega), List.nil_append] at hz
          rw [List.eq_of_mem_singleton (List.mem_of_mem_drop hz), hy] at hpz
          cases hpz
        rw [List.getElem?_append_left hi] at hx
        refine ⟨hx, z, ?_, hpz⟩
        rw [List.drop_append_of_le_length hi.le, List.mem_append] at hz
        rcases hz with hz | hz
        · exact hz
        · rw [List.eq_of_mem_singleton hz, hy] at hpz
          cases hpz
    · rw [List.rdropWhile_concat_neg p l y hy]
      refine ⟨fun hx => ⟨hx, y, ?_, Bool.not_eq_true _ ▸ hy⟩, And.left⟩
      have hi : i < (l ++ [y]).length := (List.getElem?_eq_some_iff.mp hx).1
      rw [List.length_append, List.length_singleton] at hi
      rw [List.drop_append_of_le_length (by omega)]
      exact List.mem_append_right _ (List.mem_singleton_self y)

theorem eq_false_of_any {p : UInt16 → Bool} {s : JString} (h : ¬ s.any p = true) :
    ∀ c ∈ s, p c = false := by
  intro c hc
  by_contra hp
  exact h (List.any_eq_true.mpr ⟨c, hc, Bool.not_eq_false _ ▸ hp⟩)

/-- A piece is left when it or a later one is not empty, or there was nothing to split. -/
theorem getElem?_split {p : UInt16 → Bool} {s x : JString} {i : Nat} :
    (split p s)[i]? = some x ↔
      (s.splitOnP p)[i]? = some x ∧ (s = [] ∨ ∃ y ∈ (s.splitOnP p).drop i, y ≠ []) := by
  have hempty : ∀ y : JString, List.isEmpty y = false ↔ y ≠ [] := by
    intro y
    cases y <;> simp
  unfold split
  split
  · next h =>
    have hs : s ≠ [] := by
      rintro rfl
      cases h
    rw [getElem?_rdropWhile]
    simp only [hempty, hs, false_or]
  · next h =>
    rw [List.splitOnP_eq_singleton (eq_false_of_any h)]
    refine ⟨fun hx => ⟨hx, ?_⟩, And.left⟩
    obtain ⟨rfl, -⟩ : i = 0 ∧ s = x := by
      cases i with
      | zero => exact ⟨rfl, Option.some.inj hx⟩
      | succ i => cases hx
    by_cases hs : s = []
    · exact .inl hs
    · exact .inr ⟨s, List.mem_singleton_self s, hs⟩

/-! ### Two pieces -/

section
variable {p : UInt16 → Bool} {s x y : JString} {rest : List JString}

theorem eq_cons_cons {α : Type} {l : List α} {x y : α} (h0 : l[0]? = some x) (h1 : l[1]? = some y) :
    ∃ rest, l = x :: y :: rest := by
  match l, h0, h1 with
  | _ :: _ :: rest, rfl, rfl => exact ⟨rest, rfl⟩

theorem ne_nil_of_pieces (h : s.splitOnP p = x :: y :: rest) : s ≠ [] := by
  rintro rfl
  cases h

/-- Both pieces are left when the second or a later one is not empty. -/
theorem split_pieces (h : s.splitOnP p = x :: y :: rest) (hne : ∃ z ∈ y :: rest, z ≠ []) :
    (split p s)[0]? = some x ∧ (split p s)[1]? = some y := by
  obtain ⟨z, hz, hne⟩ := hne
  rw [getElem?_split, getElem?_split, h]
  exact ⟨⟨rfl, .inr ⟨z, List.mem_cons_of_mem x hz, hne⟩⟩, rfl, .inr ⟨z, hz, hne⟩⟩

theorem pieces_of_split (h0 : (split p s)[0]? = some x) (h1 : (split p s)[1]? = some y) :
    ∃ rest, s.splitOnP p = x :: y :: rest :=
  eq_cons_cons (getElem?_split.mp h0).1 (getElem?_split.mp h1).1

/-- A third piece is left when it or a later one is not empty. -/
theorem split_third (h : s.splitOnP p = x :: y :: rest) {z : JString} :
    (split p s)[2]? = some z ↔ rest.head? = some z ∧ ∃ z ∈ rest, z ≠ [] := by
  rw [getElem?_split, h, or_iff_right (ne_nil_of_pieces h), List.head?_eq_getElem?]
  rfl

end

/-! ## Numbers -/

/-- `Character.digit(c, 10)`. The digits outside ASCII depend on the version of Unicode. -/
structure Digits where
  digit : UInt16 → Option Nat
  digit_lt : ∀ {c d}, digit c = some d → d < 10
  digit_ascii : ∀ c < 128, digit c =
    if unit '0' ≤ c ∧ c ≤ unit '9' then some (c.toNat - (unit '0').toNat) else none

namespace Digits

/-- Without other scripts. -/
def ascii : Digits where
  digit c := if unit '0' ≤ c ∧ c ≤ unit '9' then some (c.toNat - (unit '0').toNat) else none
  digit_lt {c d} h := by
    split at h
    · next hc =>
      cases h
      have h9 : c.toNat ≤ 57 := hc.2
      show c.toNat - 48 < 10
      omega
    · cases h
  digit_ascii _ _ := rfl

variable (D : Digits)

/-- The number that digits write, if they are digits. -/
def value (s : JString) : Option Nat :=
  s.foldlM (fun n c => (D.digit c).map (10 * n + ·)) 0

/-- A number, if it is an `int`. -/
def inRange (x : Int) : Method Int32 :=
  if Fits x then .ok (Int32.ofInt x) else .error .numberFormat

def number (negative : Bool) (digits : JString) : Method Int32 :=
  if digits = [] then .error .numberFormat
  else match D.value digits with
    | none => .error .numberFormat
    | some n => inRange (if negative then -n else n)

/-- `Integer.parseInt(s)`. -/
def parseInt : JString → Method Int32
  | [] => .error .numberFormat
  | c :: s =>
    if c = unit '-' then D.number true s
    else if c = unit '+' then D.number false s
    else D.number false (c :: s)

/-- A sign, which may be missing, and digits that write `x`. -/
def Reads (s : JString) (x : Int) : Prop :=
  ∃ digits n, digits ≠ [] ∧ D.value digits = some n ∧
    ((s = unit '-' :: digits ∧ x = -n) ∨ ((s = digits ∨ s = unit '+' :: digits) ∧ x = n))

variable {D}

theorem inRange_eq_ok {x : Int} {k : Int32} : inRange x = .ok k ↔ k.toInt = x := by
  unfold inRange
  split
  · next h =>
    rw [Except.ok.injEq, ← Int32.toInt_inj, Int32.toInt_ofInt_of_le h.1 h.2, eq_comm]
  · next h =>
    refine ⟨fun he => (by cases he), fun he => absurd ?_ h⟩
    rw [← he]
    exact ⟨k.le_toInt, k.toInt_lt⟩

theorem number_eq_ok {negative : Bool} {digits : JString} {k : Int32} :
    D.number negative digits = .ok k ↔ digits ≠ [] ∧
      ∃ n, D.value digits = some n ∧ (k.toInt = if negative then -(n : Int) else n) := by
  unfold number
  split
  · next h => exact ⟨fun he => (by cases he), fun he => absurd h he.1⟩
  · next h =>
    cases hv : D.value digits with
    | none => exact ⟨fun he => (by cases he), fun ⟨_, _, he, _⟩ => (by cases he)⟩
    | some n =>
      show inRange _ = _ ↔ _
      rw [inRange_eq_ok]
      exact ⟨fun he => ⟨h, n, rfl, he⟩, fun ⟨_, m, hm, he⟩ => by cases hm; exact he⟩

theorem digit_of_value {s : JString} {n m : Nat}
    (h : s.foldlM (fun n c => (D.digit c).map (10 * n + ·)) n = some m) :
    ∀ c ∈ s, ∃ d, D.digit c = some d := by
  induction s generalizing n with
  | nil => exact fun c hc => (by cases hc)
  | cons c s ih =>
    rw [List.foldlM_cons] at h
    cases hd : D.digit c with
    | none =>
      rw [hd] at h
      cases h
    | some d =>
      rw [hd] at h
      exact List.forall_mem_cons.mpr ⟨⟨d, hd⟩, ih h⟩

theorem digit_sign {c : UInt16} (h : c = unit '-' ∨ c = unit '+') : D.digit c = none := by
  rcases h with rfl | rfl
  · rw [D.digit_ascii _ (by decide)]
    rfl
  · rw [D.digit_ascii _ (by decide)]
    rfl

theorem parseInt_cons (c : UInt16) (s : JString) : D.parseInt (c :: s) =
    if c = unit '-' then D.number true s
    else if c = unit '+' then D.number false s else D.number false (c :: s) := rfl

theorem number_of_value {negative : Bool} {digits : JString} {n : Nat} (hne : digits ≠ [])
    (h : D.value digits = some n) : D.number negative digits = inRange (if negative then -n else n) := by
  rw [number, if_neg hne, h]

/-- What is a number is read, if it fits. -/
theorem parseInt_of_reads {s : JString} {x : Int} (h : D.Reads s x) : D.parseInt s = inRange x := by
  obtain ⟨digits, n, hne, hn, ⟨rfl, rfl⟩ | ⟨rfl | rfl, rfl⟩⟩ := h
  · rw [parseInt_cons, if_pos rfl]
    exact number_of_value hne hn
  · cases s with
    | nil => exact absurd rfl hne
    | cons c s =>
      obtain ⟨d, hd⟩ := digit_of_value hn c List.mem_cons_self
      have hsign : ¬ (c = unit '-' ∨ c = unit '+') := by
        intro hc
        rw [digit_sign hc] at hd
        cases hd
      rw [parseInt_cons, if_neg fun hc => hsign (.inl hc), if_neg fun hc => hsign (.inr hc)]
      exact number_of_value hne hn
  · rw [parseInt_cons, if_neg (by decide), if_pos rfl]
    exact number_of_value hne hn

/-- What is read is a number. -/
theorem reads_of_parseInt {s : JString} {k : Int32} (h : D.parseInt s = .ok k) :
    D.Reads s k.toInt := by
  cases s with
  | nil => cases h
  | cons c s =>
    rw [parseInt_cons] at h
    by_cases h1 : c = unit '-'
    · rw [if_pos h1] at h
      obtain ⟨hne, n, hn, hk⟩ := number_eq_ok.mp h
      exact ⟨s, n, hne, hn, .inl ⟨by rw [h1], hk⟩⟩
    rw [if_neg h1] at h
    by_cases h2 : c = unit '+'
    · rw [if_pos h2] at h
      obtain ⟨hne, n, hn, hk⟩ := number_eq_ok.mp h
      exact ⟨s, n, hne, hn, .inr ⟨.inr (by rw [h2]), hk⟩⟩
    · rw [if_neg h2] at h
      obtain ⟨hne, n, hn, hk⟩ := number_eq_ok.mp h
      exact ⟨c :: s, n, hne, hn, .inr ⟨.inl rfl, hk⟩⟩

/-- A number has signs and digits only. -/
theorem Reads.digit_or_sign {s : JString} {x : Int} (h : D.Reads s x) {c : UInt16} (hc : c ∈ s) :
    (∃ d, D.digit c = some d) ∨ c = unit '-' ∨ c = unit '+' := by
  obtain ⟨digits, n, -, hn, ⟨rfl, -⟩ | ⟨rfl | rfl, -⟩⟩ := h
  · rcases List.mem_cons.mp hc with hc | hc
    · exact .inr (.inl hc)
    · exact .inl (digit_of_value hn c hc)
  · exact .inl (digit_of_value hn c hc)
  · rcases List.mem_cons.mp hc with hc | hc
    · exact .inr (.inr hc)
    · exact .inl (digit_of_value hn c hc)

theorem Reads.ne_nil {s : JString} {x : Int} (h : D.Reads s x) : s ≠ [] := by
  obtain ⟨digits, n, hne, -, ⟨rfl, -⟩ | ⟨rfl | rfl, -⟩⟩ := h
  · exact List.cons_ne_nil _ _
  · exact hne
  · exact List.cons_ne_nil _ _

end Digits

/-! ### Figures -/

/-- The figures `0` to `9`. -/
def figure (d : Nat) : UInt16 := unit '0' + d.toUInt16

def figures (l : List (Fin 10)) : JString := l.map fun d : Fin 10 => figure d.1

/-- The number that figures write. -/
def numeral (l : List (Fin 10)) : Nat := l.foldl (fun n (d : Fin 10) => 10 * n + d.1) 0

theorem figure_toNat {d : Nat} (h : d < 10) : (figure d).toNat = 48 + d := by
  show (48 + d % 2 ^ 16) % 2 ^ 16 = 48 + d
  omega

theorem mem_figures {l : List (Fin 10)} {c : UInt16} (h : c ∈ figures l) :
    unit '0' ≤ c ∧ c ≤ unit '9' := by
  obtain ⟨d, -, rfl⟩ := List.mem_map.mp h
  have hd := figure_toNat d.isLt
  constructor
  · show 48 ≤ (figure d).toNat
    omega
  · show (figure d).toNat ≤ 57
    omega

/-- Another character is not a figure. -/
theorem beq_of_mem_figures {l : List (Fin 10)} {c d : UInt16} (h : c ∈ figures l)
    (hd : d.toNat < 48 ∨ 57 < d.toNat) : (c == d) = false := by
  obtain ⟨h0, h9⟩ := mem_figures h
  have h0 : 48 ≤ c.toNat := h0
  have h9 : c.toNat ≤ 57 := h9
  apply beq_false_of_ne
  rintro rfl
  omega

theorem Digits.digit_figure (D : Digits) (d : Fin 10) : D.digit (figure d) = some d.1 := by
  have hd := figure_toNat d.isLt
  have hlt : figure d < 128 := by
    show (figure d).toNat < 128
    omega
  have hmem := mem_figures (l := [d]) (List.mem_singleton_self _)
  rw [D.digit_ascii _ hlt, if_pos hmem, hd]
  exact congrArg some (Nat.add_sub_cancel_left 48 d.1)

theorem Digits.value_figures (D : Digits) (l : List (Fin 10)) :
    D.value (figures l) = some (numeral l) := by
  unfold value numeral figures
  generalize 0 = n
  induction l generalizing n with
  | nil => rfl
  | cons d l ih =>
    rw [List.map_cons, List.foldlM_cons, D.digit_figure]
    exact ih (10 * n + d)

theorem Digits.reads_figures (D : Digits) {l : List (Fin 10)} (h : l ≠ []) :
    D.Reads (figures l) (numeral l) :=
  ⟨figures l, numeral l, by rwa [figures, ne_eq, List.map_eq_nil_iff], D.value_figures l,
    .inr ⟨.inl rfl, rfl⟩⟩

end P970.Java
