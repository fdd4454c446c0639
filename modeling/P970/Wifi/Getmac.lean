import P970.Lib.Buffer
import P970.Lib.CString
import P970.Lib.Hex
import P970.Lib.Outcome
import P970.Lib.Printf

/-!
# The address of the wireless interface

`getmac` reads six bytes of the NVRAM, prints them one behind the other into an
array of 18 characters, each over the NUL of the one before, and writes the
configuration of the driver with them. Without an address it makes one up.
-/

namespace P970.Wifi

open Printf (ascii printHex printHex2)

def colon : UInt8 := 58

/-- The byte that `read` leaves in `macbyte`; a read that fails leaves the 0. -/
def macbyte (nvram : Nat → Option UInt8) (i : Nat) : UInt8 := (nvram (i + 514)).getD 0

/-- `sprintf(macaddr + i, …)`, with the final NUL. -/
def sprintf (i : Nat) (text : List UInt8) (macaddr : Buffer UInt8) : Checked (Buffer UInt8) :=
  macaddr.storeAll i (text ++ [CString.nul])

/-- `n` turns of the loop, from `i` on. -/
def printBytes (nvram : Nat → Option UInt8) :
    Nat → Nat → Nat → Buffer UInt8 → Checked (Nat × Buffer UInt8)
  | 0, _, addrcount, macaddr => .ok (addrcount, macaddr)
  | n + 1, i, addrcount, macaddr => do
    let byte := (macbyte nvram i).toNat
    let macaddr ←
      if i ≠ 0 then sprintf (i * 3 - 1) (colon :: ascii (printHex2 byte)) macaddr
      else sprintf 0 (ascii (printHex2 byte)) macaddr
    printBytes nvram n (i + 1) (addrcount + byte) macaddr

/-- The last byte of an address that is made up. -/
def fallbackByte (rand : Nat) : Nat :=
  let byte := rand % 255
  if byte &&& 1 ≠ 0 then byte - 1 else byte

def fallback (rand : Nat) : List UInt8 :=
  ascii "0b:ad:c0:ff:ee:".toList ++ ascii (printHex (fallbackByte rand))

/-- What is written to `/data/misc/wifi/config`. -/
def config (macaddr : List UInt8) : List UInt8 :=
  ascii ("vlan_mode=0\nmpc=1\nwme=1\nwme_apsd=0\nwme_qosinfo=0x00\nwme_auto_trigger=0\n" ++
      "wme_apsd_trigger=290000\nroam_off=0\nroam_scan_period=20\nroam_delta=20\n" ++
      "roam_trigger=-70\nPM=2\nassoc_listen=1\nassoc_retry_max=7\ncur_etheraddr=").toList ++
    macaddr ++ ascii "\n".toList

/-- `main`, with what the array held before and the value of `rand()`. -/
def main (nvram : Nat → Option UInt8) (rand : Nat) (macaddr : Vector UInt8 18) :
    Checked (List UInt8) := do
  let (addrcount, macaddr) ← printBytes nvram 6 0 0 (.fresh macaddr.toList)
  let macaddr ← if addrcount = 0 then sprintf 0 (fallback rand) macaddr else .ok macaddr
  let text ← CString.read macaddr.cells
  return config text

/-! ## Addresses as texts -/

/-- Two figures a byte, with colons between the bytes. -/
def joined (mac : List UInt8) : List UInt8 := List.intercalate [colon] (mac.map Hex.lower.encodeByte)

def parseAddr : List UInt8 → Option (List UInt8)
  | [high, low] => do
    let b ← Hex.lower.decodeByte high low
    return [b]
  | high :: low :: c :: rest =>
    if c = colon then do
      let b ← Hex.lower.decodeByte high low
      let mac ← parseAddr rest
      return b :: mac
    else none
  | _ => none

section
variable {mac : List UInt8} {b : UInt8}

theorem joined_singleton : joined [b] = Hex.lower.encodeByte b := by
  simp [joined, List.intercalate]

theorem joined_cons (h : mac ≠ []) :
    joined (b :: mac) = Hex.lower.encodeByte b ++ colon :: joined mac := by
  obtain ⟨c, mac, rfl⟩ := List.exists_cons_of_ne_nil h
  simp [joined, List.intercalate]

theorem joined_concat (h : mac ≠ []) :
    joined (mac ++ [b]) = joined mac ++ colon :: Hex.lower.encodeByte b := by
  induction mac with
  | nil => exact absurd rfl h
  | cons c mac ih =>
    by_cases hmac : mac = []
    · rw [hmac, List.singleton_append, joined_cons (List.cons_ne_nil b []), joined_singleton,
        joined_singleton]
    · rw [List.cons_append, joined_cons (by simp), ih hmac, joined_cons hmac, List.append_assoc,
        List.cons_append]

theorem length_joined (h : mac ≠ []) : (joined mac).length + 1 = 3 * mac.length := by
  induction mac with
  | nil => exact absurd rfl h
  | cons c mac ih =>
    by_cases hmac : mac = []
    · rw [hmac, joined_singleton]
      rfl
    · have hi := ih hmac
      rw [joined_cons hmac, List.length_append, List.length_cons, List.length_cons]
      show 2 + _ + 1 = _
      omega

/-- An address is one byte, or one byte in front of an address. -/
theorem joined_cases (h : mac ≠ []) :
    ∃ b rest, mac = b :: rest ∧
      ((rest = [] ∧ joined mac = Hex.lower.encodeByte b) ∨
        (rest ≠ [] ∧ joined mac = Hex.lower.encodeByte b ++ colon :: joined rest)) := by
  obtain ⟨b, rest, rfl⟩ := List.exists_cons_of_ne_nil h
  by_cases hrest : rest = []
  · exact ⟨b, rest, rfl, .inl ⟨hrest, by rw [hrest, joined_singleton]⟩⟩
  · exact ⟨b, rest, rfl, .inr ⟨hrest, joined_cons hrest⟩⟩

/-- Two characters are an address of one byte. -/
theorem pair_eq_joined {high low : UInt8} (h : mac ≠ []) :
    [high, low] = joined mac ↔ ∃ b, [high, low] = Hex.lower.encodeByte b ∧ [b] = mac := by
  obtain ⟨b, rest, rfl, ⟨rfl, hj⟩ | ⟨hrest, hj⟩⟩ := joined_cases h
  · rw [hj]
    constructor
    · exact fun hs => ⟨b, hs, rfl⟩
    · rintro ⟨_, hs, he⟩
      cases he
      exact hs
  · rw [hj]
    refine iff_of_false (fun hs => ?_) ?_
    · exact absurd (congrArg List.length hs) (by simp [Hex.encodeByte])
    · rintro ⟨_, -, he⟩
      cases he
      exact hrest rfl

/-- More than two are one byte, a colon and an address. -/
theorem long_eq_joined {high low c : UInt8} {rest : List UInt8} (h : mac ≠ []) :
    high :: low :: c :: rest = joined mac ↔ ∃ b, [high, low] = Hex.lower.encodeByte b ∧
      c = colon ∧ ∃ mac', (mac' ≠ [] ∧ rest = joined mac') ∧ b :: mac' = mac := by
  obtain ⟨b, mac', rfl, ⟨rfl, hj⟩ | ⟨hmac, hj⟩⟩ := joined_cases h
  · rw [hj]
    refine iff_of_false (fun hs => ?_) ?_
    · exact absurd (congrArg List.length hs) (by simp [Hex.encodeByte])
    · rintro ⟨_, -, -, _, ⟨hne, -⟩, he⟩
      cases he
      exact hne rfl
  · rw [hj]
    constructor
    · intro hs
      obtain ⟨hpair, htail⟩ := List.append_inj (show [high, low] ++ c :: rest = _ from hs) rfl
      obtain ⟨hc, hrest⟩ := List.cons.inj htail
      exact ⟨b, hpair, hc, mac', ⟨hmac, hrest⟩, rfl⟩
    · rintro ⟨_, hpair, rfl, _, ⟨-, rfl⟩, he⟩
      cases he
      rw [← hpair]
      rfl

/-- What is read as an address is an address, with nothing left out. -/
theorem parseAddr_eq_some {s : List UInt8} : parseAddr s = some mac ↔ mac ≠ [] ∧ s = joined mac := by
  induction s using parseAddr.induct generalizing mac with
  | case1 high low =>
    simp only [parseAddr, Option.bind_eq_bind, Option.bind_eq_some_iff, Hex.decodeByte_eq_some,
      Option.pure_def, Option.some.injEq]
    constructor
    · rintro ⟨b, hb, rfl⟩
      have hne : [b] ≠ [] := List.cons_ne_nil b []
      exact ⟨hne, (pair_eq_joined hne).mpr ⟨b, hb, rfl⟩⟩
    · exact fun ⟨hne, hs⟩ => (pair_eq_joined hne).mp hs
  | case2 high low rest ih =>
    rw [parseAddr, if_pos rfl]
    simp only [Option.bind_eq_bind, Option.bind_eq_some_iff, Hex.decodeByte_eq_some, ih,
      Option.pure_def, Option.some.injEq]
    constructor
    · rintro ⟨b, hb, mac', h, rfl⟩
      have hne : b :: mac' ≠ [] := List.cons_ne_nil b mac'
      exact ⟨hne, (long_eq_joined hne).mpr ⟨b, hb, rfl, mac', h, rfl⟩⟩
    · rintro ⟨hne, hs⟩
      obtain ⟨b, hb, -, hrest⟩ := (long_eq_joined hne).mp hs
      exact ⟨b, hb, hrest⟩
  | case3 high low c rest hc =>
    rw [parseAddr, if_neg hc]
    refine iff_of_false (by rintro ⟨⟩) ?_
    rintro ⟨hne, hs⟩
    obtain ⟨b, -, hcolon, -⟩ := (long_eq_joined hne).mp hs
    exact hc hcolon
  | case4 s hpair hlong =>
    rw [parseAddr]
    · refine iff_of_false (by rintro ⟨⟩) ?_
      rintro ⟨hne, rfl⟩
      obtain ⟨b, mac, rfl, ⟨-, hj⟩ | ⟨-, hj⟩⟩ := joined_cases hne
      · exact hpair _ _ hj
      · exact hlong _ _ _ _ hj
    · exact hpair
    · exact hlong

theorem nul_not_mem_encodeByte (b : UInt8) : CString.nul ∉ Hex.lower.encodeByte b := by
  intro h
  have hz : ∀ n, CString.nul = Hex.lower.figure n → n < 16 → False := by
    intro n hn hlt
    have hv := Hex.lower.value_figure hlt
    rw [← hn] at hv
    cases hv
  have hb := b.toNat_lt
  rcases List.mem_cons.mp h with h | h
  · exact hz _ h (by omega)
  · exact hz _ (List.mem_singleton.mp h) (by omega)

theorem nul_not_mem_joined : CString.nul ∉ joined mac := by
  induction mac with
  | nil => exact List.not_mem_nil
  | cons b mac ih =>
    by_cases hmac : mac = []
    · rw [hmac, joined_singleton]
      exact nul_not_mem_encodeByte b
    · rw [joined_cons hmac, List.mem_append, List.mem_cons]
      rintro (h | h | h)
      · exact nul_not_mem_encodeByte b h
      · exact absurd h (by decide)
      · exact ih h

end

/-! ## What is printed -/

theorem printHex2_byte (b : UInt8) : ascii (printHex2 b.toNat) = Hex.lower.encodeByte b := by
  have hall : (List.range 256).all fun n =>
      ascii (printHex2 n) == Hex.lower.encodeByte (UInt8.ofNat n) := by decide +kernel
  have h := eq_of_beq (List.all_eq_true.mp hall b.toNat (List.mem_range.mpr b.toNat_lt))
  rwa [UInt8.ofNat_toNat] at h

section
variable {b : Buffer UInt8} {text old : List UInt8}

/-- Text that fits behind `text`, with its NUL. -/
theorem sprintf_cells (more : List UInt8) (hb : b.cells = text ++ old) (h : more.length < old.length) :
    ∃ b', sprintf text.length more b = .ok b' ∧
      b'.cells = text ++ more ++ CString.nul :: old.drop (more.length + 1) ∧
      b'.cells.length = b.cells.length := by
  have hlen : (more ++ [CString.nul]).length = more.length + 1 := by
    rw [List.length_append, List.length_singleton]
  have hfit : text.length + (more ++ [CString.nul]).length ≤ b.cells.length := by
    rw [hb, hlen, List.length_append]
    omega
  obtain ⟨b', hstore, hbecomes⟩ := Buffer.storeAll_becomes hfit
  refine ⟨b', hstore, ?_, ?_⟩
  · rw [hbecomes.cells, hb, hlen, List.take_left, List.drop_length_add_append]
    simp only [List.append_assoc, List.singleton_append]
  · rw [hbecomes.cells, Buffer.length_splice hfit]

variable (nvram : Nat → Option UInt8)

/-- Each turn prints one more byte behind those that are there. -/
theorem printBytes_joined {n i addrcount : Nat} {mac : List UInt8} (hmac : mac ≠ [])
    (hi : mac.length = i) (hb : b.cells = joined mac ++ CString.nul :: old)
    (h : 3 * n ≤ old.length) :
    ∃ b' old', printBytes nvram n i addrcount b =
        .ok (addrcount + ((List.range' i n).map fun j => (macbyte nvram j).toNat).sum, b') ∧
      b'.cells = joined (mac ++ (List.range' i n).map (macbyte nvram)) ++ CString.nul :: old' ∧
      b'.cells.length = b.cells.length := by
  induction n generalizing i addrcount mac b old with
  | zero => exact ⟨b, old, rfl, by rw [hb]; simp, rfl⟩
  | succ n ih =>
    have hjoined := length_joined hmac
    have hne : i ≠ 0 := fun h0 => hmac (List.length_eq_zero_iff.mp (hi.trans h0))
    have hmore : (colon :: Hex.lower.encodeByte (macbyte nvram i)).length = 3 := rfl
    obtain ⟨b₁, hprint, h₁, hlen₁⟩ := sprintf_cells (colon :: Hex.lower.encodeByte (macbyte nvram i)) hb
      (by rw [hmore, List.length_cons]; omega)
    rw [← joined_concat hmac, hmore, List.drop_succ_cons] at h₁
    obtain ⟨b₂, old', hrest, h₂, hlen₂⟩ := ih (i := i + 1) (List.append_ne_nil_of_left_ne_nil hmac _)
      (by rw [List.length_append, hi]; rfl) h₁ (by rw [List.length_drop]; omega)
    refine ⟨b₂, old', ?_, ?_, hlen₂.trans hlen₁⟩
    · rw [printBytes]
      simp only
      rw [if_pos hne, printHex2_byte, show i * 3 - 1 = (joined mac).length by omega, hprint]
      simp only [Outcome.ok_bind]
      rw [hrest, List.range'_succ, List.map_cons, List.sum_cons, Nat.add_assoc]
    · rw [h₂, List.append_assoc, List.range'_succ, List.map_cons]
      rfl

/-- The six bytes. -/
def address : List UInt8 := (List.range 6).map (macbyte nvram)

theorem length_address : (address nvram).length = 6 := rfl

/-- The loop leaves the six bytes in the array. -/
theorem printBytes_address (macaddr : Vector UInt8 18) :
    ∃ b old', printBytes nvram 6 0 0 (.fresh macaddr.toList) =
        .ok (((address nvram).map UInt8.toNat).sum, b) ∧
      b.cells = joined (address nvram) ++ CString.nul :: old' ∧ b.cells.length = 18 := by
  have hlen : (Buffer.fresh macaddr.toList).cells.length = 18 := macaddr.length_toList
  obtain ⟨b₁, hprint, h₁, hlen₁⟩ := sprintf_cells (Hex.lower.encodeByte (macbyte nvram 0))
    (List.nil_append (Buffer.fresh macaddr.toList).cells).symm
    (by rw [hlen]; show 2 < 18; decide)
  rw [List.nil_append, ← joined_singleton] at h₁
  obtain ⟨b₂, old', hrest, h₂, hlen₂⟩ := printBytes_joined nvram (n := 5) (i := 1)
    (List.cons_ne_nil _ []) rfl h₁ (by rw [List.length_drop, hlen]; show 15 ≤ 18 - 3; decide)
  refine ⟨b₂, old', ?_, h₂, by rw [hlen₂, hlen₁, hlen]⟩
  rw [printBytes]
  simp only
  rw [if_neg (not_not.mpr rfl), printHex2_byte]
  have hprint' : sprintf 0 (Hex.lower.encodeByte (macbyte nvram 0)) (.fresh macaddr.toList) =
      .ok b₁ := hprint
  rw [hprint']
  simp only [Outcome.ok_bind]
  rw [hrest, Nat.zero_add, address, List.map_map]
  rfl

/-! ## The address that is made up -/

/-- Below 256 a number has no more than two figures. -/
theorem printHex_byte {n : Nat} (h : n < 256) :
    (ascii (printHex n)).length ≤ 2 ∧ CString.nul ∉ ascii (printHex n) := by
  have hall : (List.range 256).all fun n =>
      (ascii (printHex n)).length ≤ 2 && !(ascii (printHex n)).contains CString.nul := by
    decide +kernel
  have hn := List.all_eq_true.mp hall n (List.mem_range.mpr h)
  simpa using hn

theorem fallbackByte_lt (rand : Nat) : fallbackByte rand < 256 := by
  have := Nat.mod_lt rand (show 0 < 255 by decide)
  unfold fallbackByte
  dsimp only
  split <;> omega

theorem fallback_eq (rand : Nat) : fallback rand =
    Hex.lower.encodeByte 0x0b ++ (ascii ":ad:c0:ff:ee:".toList ++
      ascii (printHex (fallbackByte rand))) := rfl

theorem fallback_fits (rand : Nat) : (fallback rand).length < 18 ∧ CString.nul ∉ fallback rand := by
  obtain ⟨hlen, hnul⟩ := printHex_byte (fallbackByte_lt rand)
  rw [fallback]
  constructor
  · rw [List.length_append]
    show 15 + _ < 18
    omega
  · rw [List.mem_append]
    rintro (h | h)
    · exact absurd h (by decide)
    · exact hnul h

/-- Its first byte is odd, whatever the last one is. -/
theorem fallback_head {rand : Nat} {mac : List UInt8} (h : parseAddr (fallback rand) = some mac) :
    mac.head? = some 0x0b := by
  obtain ⟨hne, hs⟩ := parseAddr_eq_some.mp h
  obtain ⟨b, rest, rfl, ⟨-, hj⟩ | ⟨-, hj⟩⟩ := joined_cases hne
  · have hlen := congrArg List.length (hs.trans hj)
    rw [fallback, List.length_append] at hlen
    change 15 + _ = 2 at hlen
    omega
  · rw [fallback_eq] at hs
    obtain ⟨hpair, -⟩ := List.append_inj (hs.trans hj) rfl
    have hb := Hex.decodeByte_eq_some.mpr hpair
    cases hb
    rfl

variable (rand : Nat) (macaddr : Vector UInt8 18)

/-! ## The line of the configuration -/

theorem config_injective {xs ys : List UInt8} (h : config xs = config ys) : xs = ys := by
  unfold config at h
  exact List.append_cancel_left (List.append_cancel_right h)

theorem sum_eq_zero_iff :
    ((address nvram).map UInt8.toNat).sum = 0 ↔ ∀ b ∈ address nvram, b = 0 := by
  rw [List.sum_eq_zero_iff_forall_eq_nat, List.forall_mem_map]
  exact forall₂_congr fun b _ => ⟨fun h => UInt8.toNat.inj h, fun h => by rw [h]; rfl⟩

/-- Bytes that are not all zero are written as they are. -/
theorem main_of_address (h : ¬ ∀ b ∈ address nvram, b = 0) :
    main nvram rand macaddr = .ok (config (joined (address nvram))) := by
  obtain ⟨b, old, hprint, hcells, -⟩ := printBytes_address nvram macaddr
  rw [main, hprint]
  simp only [Outcome.ok_bind]
  rw [if_neg (mt (sum_eq_zero_iff nvram).mp h), hcells, CString.read_append nul_not_mem_joined]
  rfl

theorem main_of_blank (h : ∀ b ∈ address nvram, b = 0) :
    main nvram rand macaddr = .ok (config (fallback rand)) := by
  obtain ⟨b, old, hprint, -, hlen⟩ := printBytes_address nvram macaddr
  obtain ⟨hfit, hnul⟩ := fallback_fits rand
  obtain ⟨b', hprint', hcells', -⟩ := sprintf_cells (fallback rand) (List.nil_append b.cells).symm
    (by rw [hlen]; exact hfit)
  have hsprintf : sprintf 0 (fallback rand) b = .ok b' := hprint'
  rw [main, hprint]
  simp only [Outcome.ok_bind]
  rw [if_pos ((sum_eq_zero_iff nvram).mpr h), hsprintf]
  simp only [Outcome.ok_bind]
  rw [hcells', List.nil_append, CString.read_append hnul]
  rfl

/-- The line holds six bytes and fits the array; they are those of the NVRAM, and where these are
all zero they are the address of one station. -/
def Configures : Prop :=
  ∃ text mac, main nvram rand macaddr = .ok (config text) ∧ text.length < 18 ∧
    parseAddr text = some mac ∧ mac.length = 6 ∧
    ((∃ b ∈ address nvram, b ≠ 0) → mac = address nvram) ∧
    ((∀ b ∈ address nvram, b = 0) → ∀ b ∈ mac.head?, b.toNat % 2 = 0)

theorem not_configures (hzero : ∀ b ∈ address nvram, b = 0) : ¬ Configures nvram rand macaddr := by
  rintro ⟨text, mac, hmain, -, hparse, -, -, hmac⟩
  rw [main_of_blank nvram rand macaddr hzero] at hmain
  rw [← config_injective (Except.ok.inj hmain)] at hparse
  exact absurd (hmac hzero 0x0b (fallback_head hparse)) (by decide)

/-- An address that is made up is one of a group, so there must be one in the NVRAM. -/
theorem configures_iff : Configures nvram rand macaddr ↔ ∃ b ∈ address nvram, b ≠ 0 := by
  constructor
  · intro h
    by_contra hno
    refine not_configures nvram rand macaddr (fun b hb => ?_) h
    by_contra hb0
    exact hno ⟨b, hb, hb0⟩
  · rintro ⟨b, hb, hb0⟩
    have hzero : ¬ ∀ b ∈ address nvram, b = 0 := fun h => hb0 (h b hb)
    have hne : address nvram ≠ [] := List.cons_ne_nil _ _
    have hlen := length_joined hne
    rw [length_address] at hlen
    exact ⟨joined (address nvram), address nvram, main_of_address nvram rand macaddr hzero,
      by omega, parseAddr_eq_some.mpr ⟨hne, rfl⟩, rfl, fun _ => rfl, fun h => absurd h hzero⟩

/-- Nothing can be read from the NVRAM, and `rand()` gives 0. -/
theorem blank_configures_group :
    main (fun _ => none) 0 (.replicate 18 0) = .ok (config (ascii "0b:ad:c0:ff:ee:0".toList)) ∧
      ¬ Configures (fun _ => none) 0 (.replicate 18 0) := by
  have hzero : ∀ b ∈ address fun _ => none, b = 0 := by
    intro b hb
    obtain ⟨i, -, rfl⟩ := List.mem_map.mp hb
    rfl
  exact ⟨main_of_blank _ _ _ hzero, not_configures _ _ _ hzero⟩

end

end P970.Wifi
