import P970.Lib.JavaText

/-!
# Parcels

What a class does with parcels is a record of operations (`ParcelOps`), and what
it relies on is that values are read in the order they were written, from
wherever the writing of those in front had got to (`ParcelOps.Lawful`). Whoever
reads values by the types they were written with gets these values
(`readItems_behind`).

`Parcel` holds words of 32 bits. A `long` takes two, the low one first; a string
its length, then its units two to a word, the first one low, with a NUL behind
them. A string without a length is null, and reading behind the end gives zero.
Its operations are lawful (`Parcel.ops_lawful`).
-/

namespace P970

open Java (JString)

/-! ## What is relied on -/

/-- A value that a parcel holds; strings and arrays can be null. -/
inductive Item where
  | int (x : Int32)
  | long (x : Int64)
  | string (s : Option JString)
  | strings (l : Option (List (Option JString)))
  deriving DecidableEq, Repr

inductive ItemType where
  | int
  | long
  | string
  | strings
  deriving DecidableEq, Repr

def Item.type : Item → ItemType
  | .int _ => .int
  | .long _ => .long
  | .string _ => .string
  | .strings _ => .strings

structure ParcelOps (β : Type) where
  /-- An empty parcel. -/
  new : β
  writeInt : Int32 → β → β
  writeLong : Int64 → β → β
  writeString : Option JString → β → β
  writeStringArray : Option (List (Option JString)) → β → β
  readInt : β → Int32 × β
  readLong : β → Int64 × β
  readString : β → Option JString × β
  readStringArray : β → Option (List (Option JString)) × β
  dataPosition : β → Nat
  setDataPosition : Nat → β → β

/-- A string that Java can have a parcel hold. -/
def Short (s : Option JString) : Prop := ∀ t, s = some t → t.length < 2 ^ 31 - 1

def Item.Fits : Item → Prop
  | .string s => Short s
  | .strings l => ∀ l', l = some l' → l'.length < 2 ^ 31 ∧ ∀ s ∈ l', Short s
  | _ => True

namespace ParcelOps

section
variable {β : Type} (A : ParcelOps β)

def write : Item → β → β
  | .int x => A.writeInt x
  | .long x => A.writeLong x
  | .string s => A.writeString s
  | .strings l => A.writeStringArray l

/-- A new parcel with values written into it. -/
def writeAll (items : List Item) : β := items.foldl (fun p i => A.write i p) A.new

/-- A parcel of the values of both lists, at the position that writing the first had got to. -/
def behind (before after : List Item) : β :=
  A.setDataPosition (A.dataPosition (A.writeAll before)) (A.writeAll (before ++ after))

/-- What is written is read. -/
structure Lawful : Prop where
  start : A.dataPosition A.new = 0
  readInt : ∀ before x after, A.readInt (A.behind before (.int x :: after)) =
    (x, A.behind (before ++ [.int x]) after)
  readLong : ∀ before x after, A.readLong (A.behind before (.long x :: after)) =
    (x, A.behind (before ++ [.long x]) after)
  readString : ∀ before s after, Item.Fits (.string s) →
    A.readString (A.behind before (.string s :: after)) =
      (s, A.behind (before ++ [.string s]) after)
  readStringArray : ∀ before l after, Item.Fits (.strings l) →
    A.readStringArray (A.behind before (.strings l :: after)) =
      (l, A.behind (before ++ [.strings l]) after)
  /-- Reading moves nothing but the position. -/
  rewind : ∀ p, A.setDataPosition (A.dataPosition p) (A.readInt p).2 = p

def readItem : ItemType → β → Item × β
  | .int, p => (.int (A.readInt p).1, (A.readInt p).2)
  | .long, p => (.long (A.readLong p).1, (A.readLong p).2)
  | .string, p => (.string (A.readString p).1, (A.readString p).2)
  | .strings, p => (.strings (A.readStringArray p).1, (A.readStringArray p).2)

def readItems : List ItemType → β → List Item × β
  | [], p => ([], p)
  | t :: ts, p =>
    let (i, p) := A.readItem t p
    let (is, p) := readItems ts p
    (i :: is, p)

variable {A}

theorem readItem_behind (h : A.Lawful) (before : List Item) {i : Item} (hi : i.Fits)
    (after : List Item) : A.readItem i.type (A.behind before (i :: after)) =
      (i, A.behind (before ++ [i]) after) := by
  cases i with
  | int x => rw [Item.type, readItem, h.readInt]
  | long x => rw [Item.type, readItem, h.readLong]
  | string s => rw [Item.type, readItem, h.readString before s after hi]
  | strings l => rw [Item.type, readItem, h.readStringArray before l after hi]

theorem readItems_behind (h : A.Lawful) (before : List Item) {items : List Item}
    (hi : ∀ i ∈ items, i.Fits) (after : List Item) :
    A.readItems (items.map Item.type) (A.behind before (items ++ after)) =
      (items, A.behind (before ++ items) after) := by
  induction items generalizing before with
  | nil => rw [List.append_nil]; rfl
  | cons i items ih =>
    have hread := readItem_behind h before (hi i List.mem_cons_self) (items ++ after)
    rw [List.map_cons, List.cons_append, readItems, hread]
    simp only
    rw [ih (before ++ [i]) fun j hj => hi j (List.mem_cons_of_mem i hj), List.append_assoc]
    rfl

/-- The values of a parcel are read from its start. -/
theorem readItems_writeAll (h : A.Lawful) {items : List Item} (hi : ∀ i ∈ items, i.Fits) :
    (A.readItems (items.map Item.type) (A.setDataPosition 0 (A.writeAll items))).1 = items := by
  have hread := readItems_behind h [] hi []
  have hbehind : A.behind [] (items ++ []) = A.setDataPosition 0 (A.writeAll items) := by
    rw [List.append_nil, behind, ← h.start]
    rfl
  rw [← hbehind, hread]

end

end ParcelOps

/-! ## Words -/

structure Parcel where
  words : List UInt32
  position : Nat
  deriving DecidableEq, Repr

namespace Parcel

/-! ## Writing -/

/-- Two units in a word. -/
def join (low high : UInt16) : UInt32 := UInt32.ofNat (low.toNat + 65536 * high.toNat)

/-- The units of a string and a NUL. -/
def pack : JString → List UInt32
  | [] => [0]
  | [a] => [join a 0]
  | a :: b :: s => join a b :: pack s

def ofInt (x : Int32) : List UInt32 := [x.toUInt32]

def ofLong (x : Int64) : List UInt32 :=
  [UInt32.ofNat (x.toUInt64.toNat % 4294967296), UInt32.ofNat (x.toUInt64.toNat / 4294967296)]

def ofString : Option JString → List UInt32
  | none => ofInt (-1)
  | some s => ofInt (Int32.ofNat s.length) ++ pack s

def ofStrings : Option (List (Option JString)) → List UInt32
  | none => ofInt (-1)
  | some l => ofInt (Int32.ofNat l.length) ++ l.flatMap ofString

/-- Words go where the position is. -/
def put (ws : List UInt32) (p : Parcel) : Parcel :=
  ⟨p.words.take p.position ++ ws ++ p.words.drop (p.position + ws.length), p.position + ws.length⟩

/-! ## Reading -/

variable (p : Parcel)

/-- What is not read yet. -/
def rest : List UInt32 := p.words.drop p.position

def skip (n : Nat) : Parcel := { p with position := p.position + n }

/-- The units of words. -/
def units (words : List UInt32) : JString :=
  words.flatMap fun w => [UInt16.ofNat (w.toNat % 65536), UInt16.ofNat (w.toNat / 65536)]

/-- `readInt`; it does not go on behind the end. -/
def int : Int32 × Parcel :=
  match p.rest with
  | [] => (0, p)
  | w :: _ => (w.toInt32, p.skip 1)

/-- `readLong`. -/
def long : Int64 × Parcel :=
  match p.rest with
  | low :: high :: _ => ((UInt64.ofNat (low.toNat + 4294967296 * high.toNat)).toInt64, p.skip 2)
  | _ => (0, p)

/-- `readString`. -/
def string : Option JString × Parcel :=
  let (size, p) := p.int
  let n := size.toNatClampNeg / 2 + 1
  if 0 ≤ size ∧ size < Int32.maxValue ∧ n ≤ p.rest.length then
    (some ((units (p.rest.take n)).take size.toNatClampNeg), p.skip n)
  else (none, p)

/-- The elements of an array. -/
def elements : Nat → Parcel → List (Option JString) × Parcel
  | 0, p => ([], p)
  | n + 1, p =>
    let (s, p) := p.string
    let (l, p) := elements n p
    (s :: l, p)

/-- `readStringArray`. -/
def strings : Option (List (Option JString)) × Parcel :=
  let (length, p) := p.int
  if 0 ≤ length then
    let (l, p) := elements length.toNatClampNeg p
    (some l, p)
  else (none, p)

/-! ## What is written is read -/

variable {p : Parcel} {ws : List UInt32}

theorem skip_skip (m n : Nat) : (p.skip m).skip n = p.skip (m + n) := by
  rw [skip, skip, skip, Nat.add_assoc]

theorem rest_skip {xs : List UInt32} (h : p.rest = xs ++ ws) : (p.skip xs.length).rest = ws := by
  have hdrop : (p.skip xs.length).rest = p.rest.drop xs.length := by
    rw [rest, rest, List.drop_drop]
    rfl
  rw [hdrop, h, List.drop_left]

theorem int_ofInt {x : Int32} (h : p.rest = ofInt x ++ ws) : p.int = (x, p.skip 1) := by
  have hw : p.rest = x.toUInt32 :: ws := h
  rw [int, hw]
  simp

theorem long_ofLong {x : Int64} (h : p.rest = ofLong x ++ ws) : p.long = (x, p.skip 2) := by
  have hx := x.toUInt64.toNat_lt
  have hw : p.rest = UInt32.ofNat (x.toUInt64.toNat % 4294967296) ::
    UInt32.ofNat (x.toUInt64.toNat / 4294967296) :: ws := h
  have hlow : (UInt32.ofNat (x.toUInt64.toNat % 4294967296)).toNat =
      x.toUInt64.toNat % 4294967296 := UInt32.toNat_ofNat_of_lt' (Nat.mod_lt _ (by decide))
  have hhigh : (UInt32.ofNat (x.toUInt64.toNat / 4294967296)).toNat =
      x.toUInt64.toNat / 4294967296 := UInt32.toNat_ofNat_of_lt' (by show _ < 2 ^ 32; omega)
  have hsum : x.toUInt64.toNat % 4294967296 + 4294967296 * (x.toUInt64.toNat / 4294967296) =
      x.toUInt64.toNat := by omega
  rw [long, hw]
  simp only [hlow, hhigh, hsum, UInt64.ofNat_toNat]
  simp

/-- The units of a word are the ones it was made of. -/
theorem units_join (a b : UInt16) (words : List UInt32) :
    units (join a b :: words) = a :: b :: units words := by
  have ha := a.toNat_lt
  have hb := b.toNat_lt
  have hw : (join a b).toNat = a.toNat + 65536 * b.toNat :=
    UInt32.toNat_ofNat_of_lt' (by show _ < 2 ^ 32; omega)
  have hlow : (join a b).toNat % 65536 = a.toNat := by omega
  have hhigh : (join a b).toNat / 65536 = b.toNat := by omega
  rw [units, List.flatMap_cons, hlow, hhigh, UInt16.ofNat_toNat, UInt16.ofNat_toNat]
  rfl

theorem units_pack (s : JString) : (units (pack s)).take s.length = s := by
  induction s using pack.induct with
  | case1 => rfl
  | case2 a =>
    rw [pack, units_join]
    rfl
  | case3 a b s ih =>
    rw [pack, units_join, List.length_cons, List.length_cons, List.take_succ_cons,
      List.take_succ_cons, ih]

theorem length_pack (s : JString) : (pack s).length = s.length / 2 + 1 := by
  induction s using pack.induct with
  | case1 => rfl
  | case2 a =>
    rw [pack, List.length_singleton, List.length_singleton]
  | case3 a b s ih =>
    rw [pack, List.length_cons, List.length_cons, List.length_cons, ih]
    omega

theorem toNat_size {n : Nat} (h : n < 2 ^ 31) :
    0 ≤ Int32.ofNat n ∧ (Int32.ofNat n).toNatClampNeg = n := by
  have hn : (Int32.ofNat n).toInt = n := Int32.toInt_ofNat_of_lt h
  refine ⟨?_, ?_⟩
  · rw [Int32.le_iff_toInt_le, hn]
    exact Int.natCast_nonneg n
  · rw [← Int32.toNat_toInt, hn, Int.toNat_natCast]

theorem string_ofString {s : Option JString} (hs : Short s) (h : p.rest = ofString s ++ ws) :
    p.string = (s, p.skip (ofString s).length) := by
  cases s with
  | none =>
    have hint := int_ofInt h
    rw [string, hint]
    exact if_neg fun h => absurd h.1 (by decide)
  | some t =>
    have hlen := hs t rfl
    have hpack : p.rest = ofInt (Int32.ofNat t.length) ++ (pack t ++ ws) := by
      rw [h, ofString, List.append_assoc]
    have hrest : (p.skip 1).rest = pack t ++ ws := rest_skip hpack
    obtain ⟨h0, hn⟩ := toNat_size (n := t.length) (by omega)
    have hmax : Int32.ofNat t.length < Int32.maxValue := by
      rw [Int32.lt_iff_toInt_lt, Int32.toInt_ofNat_of_lt (by omega)]
      show (t.length : Int) < 2147483647
      omega
    rw [string, int_ofInt hpack]
    simp only [hn]
    rw [hrest, ← length_pack, List.take_left, units_pack, skip_skip,
      if_pos ⟨h0, hmax, by rw [List.length_append]; omega⟩, ofString, List.length_append]
    rfl

theorem elements_ofString {l : List (Option JString)} (hl : ∀ s ∈ l, Short s)
    (h : p.rest = l.flatMap ofString ++ ws) :
    elements l.length p = (l, p.skip (l.flatMap ofString).length) := by
  induction l generalizing p with
  | nil => rfl
  | cons s l ih =>
    have hs : p.rest = ofString s ++ (l.flatMap ofString ++ ws) := by
      rw [h, List.flatMap_cons, List.append_assoc]
    rw [List.length_cons, elements, string_ofString (hl s List.mem_cons_self) hs]
    simp only
    rw [ih (fun t ht => hl t (List.mem_cons_of_mem s ht)) (rest_skip hs), skip_skip,
      List.flatMap_cons, List.length_append]

/-- An array of strings is read as it was written. -/
theorem strings_ofStrings {l : Option (List (Option JString))} (hl : Item.Fits (.strings l))
    (h : p.rest = ofStrings l ++ ws) : p.strings = (l, p.skip (ofStrings l).length) := by
  cases l with
  | none =>
    rw [strings, int_ofInt h]
    exact if_neg (by decide)
  | some l =>
    obtain ⟨hlen, hshort⟩ := hl l rfl
    have hint : p.rest = ofInt (Int32.ofNat l.length) ++ (l.flatMap ofString ++ ws) := by
      rw [h, ofStrings, List.append_assoc]
    have hrest : (p.skip 1).rest = l.flatMap ofString ++ ws := rest_skip hint
    obtain ⟨h0, hn⟩ := toNat_size hlen
    rw [strings, int_ofInt hint]
    simp only [hn]
    rw [if_pos h0, elements_ofString hshort hrest, skip_skip, ofStrings, List.length_append]
    rfl

/-! ## The operations -/

def ops : ParcelOps Parcel where
  new := ⟨[], 0⟩
  writeInt x := put (ofInt x)
  writeLong x := put (ofLong x)
  writeString s := put (ofString s)
  writeStringArray l := put (ofStrings l)
  readInt := int
  readLong := long
  readString := string
  readStringArray := strings
  dataPosition := position
  setDataPosition n p := { p with position := n }

/-- The words of a value. -/
def ofItem : Item → List UInt32
  | .int x => ofInt x
  | .long x => ofLong x
  | .string s => ofString s
  | .strings l => ofStrings l

theorem ops_write (i : Item) (p : Parcel) : ops.write i p = put (ofItem i) p := by
  cases i <;> rfl

theorem put_end (ws xs : List UInt32) : put ws ⟨xs, xs.length⟩ = ⟨xs ++ ws, (xs ++ ws).length⟩ := by
  simp [put]

theorem ops_writeAll (items : List Item) :
    ops.writeAll items = ⟨items.flatMap ofItem, (items.flatMap ofItem).length⟩ := by
  induction items using List.reverseRecOn with
  | nil => rfl
  | append_singleton items i ih =>
    rw [ParcelOps.writeAll] at ih ⊢
    rw [List.foldl_concat, ih, ops_write, put_end]
    simp

theorem ops_behind (before after : List Item) : ops.behind before after =
    ⟨(before ++ after).flatMap ofItem, (before.flatMap ofItem).length⟩ := by
  rw [ParcelOps.behind, ops_writeAll, ops_writeAll]
  rfl

/-- What is left of a parcel, and where it is when the first value of it is read. -/
theorem rest_behind (before : List Item) (i : Item) (after : List Item) :
    (ops.behind before (i :: after)).rest = ofItem i ++ after.flatMap ofItem ∧
      (ops.behind before (i :: after)).skip (ofItem i).length = ops.behind (before ++ [i]) after := by
  rw [ops_behind, ops_behind, rest, skip]
  simp

theorem ops_lawful : ops.Lawful where
  start := rfl
  readInt before x after := by
    obtain ⟨hrest, hskip⟩ := rest_behind before (.int x) after
    exact (int_ofInt hrest).trans (congrArg (Prod.mk x) hskip)
  readLong before x after := by
    obtain ⟨hrest, hskip⟩ := rest_behind before (.long x) after
    exact (long_ofLong hrest).trans (congrArg (Prod.mk x) hskip)
  readString before s after hs := by
    obtain ⟨hrest, hskip⟩ := rest_behind before (.string s) after
    exact (string_ofString hs hrest).trans (congrArg (Prod.mk s) hskip)
  readStringArray before l after hl := by
    obtain ⟨hrest, hskip⟩ := rest_behind before (.strings l) after
    exact (strings_ofStrings hl hrest).trans (congrArg (Prod.mk l) hskip)
  rewind p := by
    have hwords : p.int.2.words = p.words := by
      unfold int
      split <;> rfl
    exact congrArg (Parcel.mk · p.position) hwords

end Parcel

end P970
