import Mathlib.Data.Nat.Bitwise
import P970.Lights.Pattern

/-!
# What a notification writes

For any color the brightness values are in range (`rgbToWb_spec`,
`specialPattern_spec`), and the line of a pattern is never cut (`patternText_eq`).
It is well formed exactly when its cycle, slope and waves are
(`wellFormed_line_iff`), which leaves the wave of a blinking light to be looked
at (`notifications_iff`).
-/

namespace P970.Lights

open P970.Printf (printInt printNat)
open P970.Words (Fits)

/-! ## Colors -/

def red (color : BitVec 32) : Int := (color.sshiftRight 16 &&& 0xff).toInt
def green (color : BitVec 32) : Int := (color.sshiftRight 8 &&& 0xff).toInt
def blue (color : BitVec 32) : Int := (color &&& 0xff).toInt

theorem byte_bounds (x : BitVec 32) : 0 ≤ (x &&& 0xff).toInt ∧ (x &&& 0xff).toInt ≤ 255 :=
  CInt.and_bounds (m := 0xff) (by decide)

/-- An average of three values up to `m`. -/
theorem rgbCoeffAvg_spec (color : BitVec 32) (r g b : CInt) {m : Int} (hr : 0 ≤ r.1) (hg : 0 ≤ g.1)
    (hb : 0 ≤ b.1) (hsum : r.1 + g.1 + b.1 = 256) (hm : m ≤ 255) (hred : red color ≤ m)
    (hgreen : green color ≤ m) (hblue : b.1 = 0 ∨ blue color ≤ m) :
    ∃ v, rgbCoeffAvg color r g b = .ok v ∧
      v.1 = (r.1 * red color + g.1 * green color + b.1 * blue color) / 256 ∧
      0 ≤ v.1 ∧ v.1 ≤ m := by
  have hred0 : 0 ≤ red color := (byte_bounds _).1
  have hgreen0 : 0 ≤ green color := (byte_bounds _).1
  have hblue0 : 0 ≤ blue color := (byte_bounds _).1
  have h1 := Int.mul_nonneg hr hred0
  have h2 := Int.mul_nonneg hg hgreen0
  have h3 := Int.mul_nonneg hb hblue0
  have h1' := Int.mul_le_mul_of_nonneg_left hred hr
  have h2' := Int.mul_le_mul_of_nonneg_left hgreen hg
  have h3' : b.1 * blue color ≤ b.1 * m := by
    rcases hblue with h | h
    · rw [h, Int.zero_mul, Int.zero_mul]
    · exact Int.mul_le_mul_of_nonneg_left h hb
  have htotal : r.1 * m + g.1 * m + b.1 * m = 256 * m := by
    rw [← Int.add_mul, ← Int.add_mul, hsum]
  refine ⟨⟨(r.1 * red color + g.1 * green color + b.1 * blue color) / 256, by omega, by omega⟩,
    ?_, rfl, ?_, ?_⟩
  · refine Outcome.bind_eq_ok.mpr ⟨⟨r.1 * red color, by omega, by omega⟩, CInt.mul_eq_ok.mpr rfl, ?_⟩
    refine Outcome.bind_eq_ok.mpr ⟨⟨g.1 * green color, by omega, by omega⟩, CInt.mul_eq_ok.mpr rfl, ?_⟩
    refine Outcome.bind_eq_ok.mpr ⟨⟨b.1 * blue color, by omega, by omega⟩, CInt.mul_eq_ok.mpr rfl, ?_⟩
    refine Outcome.bind_eq_ok.mpr ⟨⟨r.1 * red color + g.1 * green color, by omega, by omega⟩,
      CInt.add_eq_ok.mpr rfl, ?_⟩
    refine Outcome.bind_eq_ok.mpr ⟨⟨r.1 * red color + g.1 * green color + b.1 * blue color, by omega,
      by omega⟩, CInt.add_eq_ok.mpr rfl, ?_⟩
    refine Outcome.bind_eq_ok.mpr ⟨⟨r.1 + g.1, by omega, by omega⟩, CInt.add_eq_ok.mpr rfl, ?_⟩
    refine Outcome.bind_eq_ok.mpr ⟨⟨256, by decide⟩, CInt.add_eq_ok.mpr hsum, ?_⟩
    refine CInt.div_eq_ok.mpr ⟨by decide, Int.tdiv_eq_ediv_of_nonneg ?_⟩
    show 0 ≤ r.1 * red color + g.1 * green color + b.1 * blue color
    omega
  · show 0 ≤ (r.1 * red color + g.1 * green color + b.1 * blue color) / 256
    omega
  · show (r.1 * red color + g.1 * green color + b.1 * blue color) / 256 ≤ m
    omega

/-- A brightness. -/
def Level (v : CInt) : Prop := 0 ≤ v.1 ∧ v.1 ≤ 255

theorem rgbToWb_spec (color : BitVec 32) :
    ∃ wb, rgbToWb color = .ok wb ∧ Level wb.white ∧ Level wb.blue := by
  obtain ⟨hblue0, hblue1⟩ := byte_bounds color
  obtain ⟨white, hwhite, -, hw0, hw1⟩ := rgbCoeffAvg_spec color ⟨87, by decide⟩
    ⟨169, by decide⟩ ⟨0, by decide⟩ (by decide) (by decide) (by decide) (by decide)
    (Int.le_refl 255) (byte_bounds _).2 (byte_bounds _).2 (.inl rfl)
  by_cases hneg : (color &&& 0xff).toInt - white.1 < 0
  · obtain ⟨white', hwhite', -, hw⟩ := rgbCoeffAvg_spec color ⟨77, by decide⟩
      ⟨150, by decide⟩ ⟨29, by decide⟩ (by decide) (by decide) (by decide) (by decide)
      (Int.le_refl 255) (byte_bounds _).2 (byte_bounds _).2 (.inr (byte_bounds _).2)
    refine ⟨⟨white', ⟨0, by decide⟩⟩, ?_, hw, Int.le_refl 0, (by decide : (0 : Int) ≤ 255)⟩
    refine Outcome.bind_eq_ok.mpr ⟨white, hwhite, ?_⟩
    refine Outcome.bind_eq_ok.mpr ⟨⟨(color &&& 0xff).toInt - white.1, by omega, by omega⟩,
      CInt.sub_eq_ok.mpr rfl, ?_⟩
    rw [if_pos hneg, hwhite']
    rfl
  · refine ⟨⟨white, ⟨(color &&& 0xff).toInt - white.1, by omega, by omega⟩⟩, ?_, ⟨hw0, hw1⟩, ?_, ?_⟩
    · refine Outcome.bind_eq_ok.mpr ⟨white, hwhite, ?_⟩
      refine Outcome.bind_eq_ok.mpr ⟨⟨(color &&& 0xff).toInt - white.1, by omega, by omega⟩,
        CInt.sub_eq_ok.mpr rfl, ?_⟩
      rw [if_neg hneg]
      rfl
    · exact Int.not_lt.mp hneg
    · show (color &&& 0xff).toInt - white.1 ≤ 255
      omega

theorem level_ledValues {white blue : CInt} (hw : Level white) (hb : Level blue) :
    ∀ v ∈ ledValues white blue, Level v := by
  intro v hv
  obtain ⟨led, -, rfl⟩ := List.mem_map.mp hv
  split
  · exact hw
  · exact hb

theorem length_ledValues (white blue : CInt) : (ledValues white blue).length = leds := by
  rw [ledValues, List.length_map, List.length_range]

/-! ## Patterns -/

/-- The number of a wave is one of the sixteen. -/
def Known (wave : Wave) : Prop := (wave &&& ~~~inv).toNat ≤ 15

instance (wave : Wave) : Decidable (Known wave) := Nat.decLe _ _

theorem specialWaves_known :
    ∀ row ∈ specialWaves, row.length = leds ∧ ∀ wave ∈ row, Known wave := by
  have h : (specialWaves.all fun row =>
      row.length == leds && row.all fun wave => (wave &&& ~~~inv).toNat ≤ 15) = true := by decide
  intro row hrow
  obtain ⟨hlen, hall⟩ := (Bool.and_eq_true ..).mp (List.all_eq_true.mp h row hrow)
  exact ⟨eq_of_beq hlen, fun wave hw => of_decide_eq_true (List.all_eq_true.mp hall wave hw)⟩

/-- Reading a row LED by LED. -/
theorem mapM_index {row : List Wave} (h : row.length = leds) :
    ((List.range leds).mapM fun led => CInt.index row led) = .ok row := by
  match row, h with
  | [_, _, _, _, _, _], _ => rfl

/-- The parts of a pattern that are printed are in range. -/
structure Pattern.Ok (p : Pattern) : Prop where
  cycle : p.cycle.toNat ≤ 7
  slope : p.slope.toNat ≤ 3
  waves : p.waves.length = leds

theorem and_lt {x m : BitVec 32} {k : Nat} (h : m.toNat < k) : (x &&& m).toNat < k := by
  rw [BitVec.toNat_and]
  exact Nat.lt_of_le_of_lt Nat.and_le_right h

theorem xor_lt {x y : BitVec 32} {k : Nat} (hx : x.toNat < 2 ^ k) (hy : y.toNat < 2 ^ k) :
    (x ^^^ y).toNat < 2 ^ k := by
  rw [BitVec.toNat_xor]
  exact Nat.xor_lt_two_pow hx hy

theorem slope_le (x : BitVec 32) : ((x &&& 0xf) >>> 2 ^^^ ((x &&& 0xf) &&& 3)).toNat ≤ 3 := by
  have h : (x &&& 0xf).toNat < 16 := and_lt (by decide)
  refine Nat.lt_succ_iff.mp (xor_lt (k := 2) ?_ (and_lt (by decide)))
  rw [BitVec.toNat_ushiftRight, Nat.shiftRight_eq_div_pow]
  omega

theorem level_blue (color : BitVec 32) : Level (CInt.ofBits ((color &&& 0xf0) * 0xff / 0xf0)) := by
  have h : (color &&& 0xf0).toNat < 0xf1 := and_lt (by decide)
  have hn : ((color &&& 0xf0) * 0xff / 0xf0).toNat ≤ 255 := by
    rw [BitVec.toNat_udiv, BitVec.toNat_mul]
    show (color &&& 0xf0).toNat * 0xff % 2 ^ 32 / 0xf0 ≤ 255
    rw [Nat.mod_eq_of_lt (by omega)]
    omega
  have hi : ((color &&& 0xf0) * 0xff / 0xf0).toInt = ((color &&& 0xf0) * 0xff / 0xf0).toNat := by
    rw [BitVec.toInt_eq_toNat_cond, if_pos (by omega)]
  exact ⟨by show 0 ≤ BitVec.toInt _; omega, by show BitVec.toInt _ ≤ 255; omega⟩

theorem specialPattern_spec (color : BitVec 32) {p : Pattern} (hp : p.cycle.toNat ≤ 7) :
    ∃ r, specialPattern color p = .ok r ∧ (∀ v ∈ r.1, Level v) ∧ r.1.length = leds ∧ r.2.Ok ∧
      ∀ wave ∈ r.2.waves, Known wave := by
  have hred : red (color &&& 0xf0f000) ≤ 0xf0 := by
    rw [red, BitVec.sshiftRight_and_distrib, BitVec.and_assoc]
    exact (CInt.and_bounds (by decide)).2
  have hgreen : green (color &&& 0xf0f000) ≤ 0xf0 := by
    rw [green, BitVec.sshiftRight_and_distrib, BitVec.and_assoc]
    exact (CInt.and_bounds (by decide)).2
  obtain ⟨average, havg, -, h0, h1⟩ := rgbCoeffAvg_spec (color &&& 0xf0f000) ⟨87, by decide⟩
    ⟨169, by decide⟩ ⟨0, by decide⟩ (by decide) (by decide) (by decide) (by decide) (by decide)
    hred hgreen (.inl rfl)
  have hwhite0 : 0 ≤ average.1 * 0xff / 0xf0 := by omega
  have hwhite1 : average.1 * 0xff / 0xf0 ≤ 255 := by omega
  obtain ⟨row, hrow⟩ : ∃ row, specialWaves[((color >>> 8 &&& 0xf) ^^^ (color &&& 0xf)).toNat]? =
      some row :=
    ⟨_, List.getElem?_eq_getElem (xor_lt (k := 4) (and_lt (by decide)) (and_lt (by decide)))⟩
  obtain ⟨hlen, hknown⟩ := specialWaves_known row (List.mem_of_getElem? hrow)
  refine ⟨(ledValues ⟨average.1 * 0xff / 0xf0, by omega, by omega⟩
    (CInt.ofBits ((color &&& 0xf0) * 0xff / 0xf0)),
    { p with
      slope := (color >>> 16 &&& 0xf) >>> 2 ^^^ ((color >>> 16 &&& 0xf) &&& 3), waves := row }),
    ?_, level_ledValues ⟨hwhite0, hwhite1⟩ (level_blue color), length_ledValues _ _,
    ⟨hp, slope_le _, hlen⟩, hknown⟩
  refine Outcome.bind_eq_ok.mpr ⟨average, havg, ?_⟩
  refine Outcome.bind_eq_ok.mpr ⟨⟨average.1 * 0xff, by omega, by omega⟩, CInt.mul_eq_ok.mpr rfl, ?_⟩
  refine Outcome.bind_eq_ok.mpr ⟨⟨average.1 * 0xff / 0xf0, by omega, by omega⟩,
    CInt.div_eq_ok.mpr ⟨by decide, Int.tdiv_eq_ediv_of_nonneg ?_⟩, ?_⟩
  · show 0 ≤ average.1 * 0xff
    omega
  · refine Outcome.bind_eq_ok.mpr ⟨row, ?_, rfl⟩
    simp only [CInt.index_eq_ok.mpr hrow, Outcome.ok_bind]
    exact mapM_index hlen

/-! ## The line -/

/-- The line of a cycle, a slope and the levels of the LEDs. -/
def line (cycle slope : Nat) (l : List (Nat × Nat × Nat)) : List Char :=
  printNat cycle ++ ' ' :: (printNat slope ++ ' ' :: (printNat slope ++ ' ' :: '-' ::
    (l.map ledText).flatten))

/-- At most one intensity of an LED is not zero, and both are percentages. -/
structure LedOk (x : Nat × Nat × Nat) : Prop where
  first : x.1 ≤ 100
  second : x.2.1 ≤ 100
  one : x.1 = 0 ∨ x.2.1 = 0
  wave : x.2.2 ≤ 15

/-- A complete line that the driver can read: a cycle, twice the same slope, six LEDs. -/
def WellFormed (text : List Char) : Prop :=
  ∃ cycle slope l, text = line cycle slope l ∧ cycle ≤ 7 ∧ slope ≤ 3 ∧ l.length = 6 ∧
    ∀ x ∈ l, LedOk x

theorem ledText_append_inj {x y : Nat × Nat × Nat} {s t : List Char}
    (h : ledText x ++ s = ledText y ++ t) : x = y ∧ s = t := by
  obtain ⟨x0, x1, x2⟩ := x
  obtain ⟨y0, y1, y2⟩ := y
  simp only [ledText, List.cons_append, List.append_assoc, List.cons.injEq, true_and,
    List.nil_append] at h
  obtain ⟨h0, h⟩ := Printf.printNat_append_inj (by decide) h
  obtain ⟨h1, h⟩ := Printf.printNat_append_inj (by decide) h
  obtain ⟨h2, h⟩ := Printf.printNat_append_inj (by decide) h
  exact ⟨by rw [h0, h1, h2], h⟩

theorem flatten_ledText_inj {l l' : List (Nat × Nat × Nat)}
    (h : (l.map ledText).flatten = (l'.map ledText).flatten) : l = l' := by
  induction l generalizing l' with
  | nil =>
    cases l' with
    | nil => rfl
    | cons y l' => cases h
  | cons x l ih =>
    cases l' with
    | nil => cases h
    | cons y l' =>
      obtain ⟨rfl, ht⟩ := ledText_append_inj h
      rw [ih ht]

theorem line_inj {c s c' s' : Nat} {l l' : List (Nat × Nat × Nat)}
    (h : line c s l = line c' s' l') : c = c' ∧ s = s' ∧ l = l' := by
  obtain ⟨hc, h⟩ := Printf.printNat_append_inj (by decide) h
  obtain ⟨hs, h⟩ := Printf.printNat_append_inj (by decide) h
  obtain ⟨-, h⟩ := Printf.printNat_append_inj (by decide) h
  exact ⟨hc, hs, flatten_ledText_inj (List.cons.inj h).2⟩

theorem wellFormed_line_iff {c s : Nat} {l : List (Nat × Nat × Nat)} :
    WellFormed (line c s l) ↔ c ≤ 7 ∧ s ≤ 3 ∧ l.length = 6 ∧ ∀ x ∈ l, LedOk x := by
  constructor
  · rintro ⟨c', s', l', h, hok⟩
    obtain ⟨rfl, rfl, rfl⟩ := line_inj h
    exact hok
  · exact fun h => ⟨c, s, l, rfl, h⟩

/-! ### It is complete -/

theorem length_ledText_le {x : Nat × Nat × Nat} (h0 : x.1 ≤ 100) (h1 : x.2.1 ≤ 100)
    (h2 : x.2.2 < 2 ^ 32) : (ledText x).length ≤ 20 := by
  have e0 := Printf.length_printNat_le (n := x.1) (k := 3) (by decide) (by omega)
  have e1 := Printf.length_printNat_le (n := x.2.1) (k := 3) (by decide) (by omega)
  have e2 := Printf.length_printNat_le (n := x.2.2) (k := 10) (by decide) (by omega)
  simp only [ledText, List.length_append, List.length_cons, List.length_nil]
  omega

theorem length_flatten_le {l : List (Nat × Nat × Nat)} (h : ∀ x ∈ l, (ledText x).length ≤ 20) :
    (l.map ledText).flatten.length ≤ 20 * l.length := by
  induction l with
  | nil => exact Nat.le_refl 0
  | cons x l ih =>
    have hx := h x List.mem_cons_self
    have hl := ih fun y hy => h y (List.mem_cons_of_mem x hy)
    rw [List.map_cons, List.flatten_cons, List.length_append, List.length_cons]
    omega

theorem level_bits {v : CInt} (h : Level v) : v.bits.toNat ≤ 255 := by
  have := CInt.toNat_bits h.1
  have := h.2
  omega

theorem percent_eq {x : BitVec 32} (h : x.toNat ≤ 255) :
    (x * 100 / 255).toNat = x.toNat * 100 / 255 := by
  rw [BitVec.toNat_udiv, BitVec.toNat_mul]
  show x.toNat * 100 % 2 ^ 32 / 255 = _
  rw [Nat.mod_eq_of_lt (by omega)]

/-- The value is the intensity of the first state for an inverted wave, of the second for another. -/
theorem ledLevels_eq (wave : Wave) {v : CInt} (h : Level v) : ledLevels wave v =
    (if wave &&& inv = 0 then (0, v.bits.toNat * 100 / 255, (wave &&& ~~~inv).toNat)
      else (v.bits.toNat * 100 / 255, 0, (wave &&& ~~~inv).toNat)) := by
  have hv := percent_eq (level_bits h)
  have hi : wave &&& inv &&& inv = wave &&& inv := by rw [BitVec.and_assoc, BitVec.and_self]
  unfold ledLevels
  simp only [hi]
  by_cases hz : wave &&& inv = 0
  · rw [if_pos hz, if_pos hz, if_neg (not_not.mpr hz), hv]
    rfl
  · rw [if_neg hz, if_neg hz, if_pos hz, hv]
    rfl

theorem ledLevels_ok (wave : Wave) {v : CInt} (h : Level v) :
    LedOk (ledLevels wave v) ↔ Known wave := by
  have hv := level_bits h
  constructor
  · exact LedOk.wave
  · intro hk
    rw [ledLevels_eq wave h]
    split
    · exact ⟨Nat.zero_le _, by show v.bits.toNat * 100 / 255 ≤ 100; omega, .inl rfl, hk⟩
    · exact ⟨by show v.bits.toNat * 100 / 255 ≤ 100; omega, Nat.zero_le _, .inr rfl, hk⟩

theorem length_ledLevels_le (wave : Wave) {v : CInt} (h : Level v) :
    (ledText (ledLevels wave v)).length ≤ 20 := by
  have hv := level_bits h
  have hw := (wave &&& ~~~inv).isLt
  rw [ledLevels_eq wave h]
  split
  · exact length_ledText_le (Nat.zero_le _) (by show v.bits.toNat * 100 / 255 ≤ 100; omega) hw
  · exact length_ledText_le (by show v.bits.toNat * 100 / 255 ≤ 100; omega) (Nat.zero_le _) hw

theorem printInt_toInt {x : BitVec 32} (h : x.toNat ≤ 7) : printInt x.toInt = printNat x.toNat := by
  have hx : x.toInt = x.toNat := by rw [BitVec.toInt_eq_toNat_cond, if_pos (by omega)]
  rw [hx, Printf.printInt_of_nonneg (by omega), Int.toNat_natCast]

theorem mem_zipWith {waves : List Wave} {value : List CInt} {x : Nat × Nat × Nat}
    (h : x ∈ waves.zipWith ledLevels value) : ∃ wave, ∃ v ∈ value, x = ledLevels wave v := by
  rw [← List.map_uncurry_zip_eq_zipWith] at h
  obtain ⟨⟨wave, v⟩, hz, rfl⟩ := List.mem_map.mp h
  exact ⟨wave, v, (List.of_mem_zip hz).2, rfl⟩

/-- What is written of a pattern is all of its line. -/
theorem patternText_eq {value : List CInt} {p : Pattern} (hv : ∀ v ∈ value, Level v) (hp : p.Ok) :
    patternText value p = line p.cycle.toNat p.slope.toNat (p.waves.zipWith ledLevels value) ∧
      (patternText value p).length < 256 := by
  obtain ⟨hc, hs, hw⟩ := hp
  have hhead : headText p = printNat p.cycle.toNat ++ ' ' :: (printNat p.slope.toNat ++
      ' ' :: (printNat p.slope.toNat ++ [' ', '-'])) := by
    rw [headText, printInt_toInt hc, printInt_toInt (by omega)]
    simp only [List.append_assoc, List.cons_append]
  have hlen1 := Printf.length_printNat_le (n := p.cycle.toNat) (k := 1) (by decide) (by omega)
  have hlen2 := Printf.length_printNat_le (n := p.slope.toNat) (k := 1) (by decide) (by omega)
  have hlen3 : (headText p).length ≤ 7 := by
    rw [hhead]
    simp only [List.length_append, List.length_cons, List.length_nil]
    omega
  have hlen4 := length_flatten_le (l := p.waves.zipWith ledLevels value) fun x hx => by
    obtain ⟨wave, v, hmem, rfl⟩ := mem_zipWith hx
    exact length_ledLevels_le wave (hv v hmem)
  have hlen5 : (p.waves.zipWith ledLevels value).length ≤ 6 := by
    rw [List.length_zipWith, hw]
    exact Nat.min_le_left ..
  have htotal : (headText p :: (p.waves.zipWith ledLevels value).map ledText).flatten.length < 256 := by
    rw [List.flatten_cons, List.length_append]
    omega
  have htext : patternText value p =
      [] ++ (headText p :: (p.waves.zipWith ledLevels value).map ledText).flatten :=
    Printf.appendAll_eq _ (by rw [List.length_nil]; omega)
  rw [List.nil_append] at htext
  refine ⟨?_, by rw [htext]; exact htotal⟩
  rw [htext, List.flatten_cons, hhead, line]
  simp only [List.append_assoc, List.cons_append, List.nil_append]

theorem ledOk_zipWith_iff {waves : List Wave} {value : List CInt} (hv : ∀ v ∈ value, Level v)
    (hlen : waves.length = value.length) :
    (∀ x ∈ waves.zipWith ledLevels value, LedOk x) ↔ ∀ wave ∈ waves, Known wave := by
  induction waves generalizing value with
  | nil => simp
  | cons wave waves ih =>
    cases value with
    | nil => cases hlen
    | cons v value =>
      rw [List.zipWith_cons_cons, List.forall_mem_cons, List.forall_mem_cons,
        ledLevels_ok wave (hv v List.mem_cons_self),
        ih (fun u hu => hv u (List.mem_cons_of_mem v hu)) (Nat.succ.inj hlen)]

/-- A pattern gives a well-formed line exactly when its waves have numbers. -/
theorem wellFormed_patternText_iff {value : List CInt} {p : Pattern} (hv : ∀ v ∈ value, Level v)
    (hlen : value.length = leds) (hp : p.Ok) :
    WellFormed (patternText value p) ↔ ∀ wave ∈ p.waves, Known wave := by
  have hl : p.waves.length = value.length := hp.waves.trans hlen.symm
  rw [(patternText_eq hv hp).1, wellFormed_line_iff, ledOk_zipWith_iff hv hl]
  refine ⟨fun h => h.2.2.2, fun h => ⟨hp.cycle, hp.slope, ?_, h⟩⟩
  rw [List.length_zipWith, ← hl, Nat.min_self]
  exact hp.waves

/-! ## The wave of a blinking light -/

theorem toNat_and_inv (x : Wave) : (x &&& inv).toNat = x.toNat / 256 % 2 * 256 := by
  rw [BitVec.toNat_and, show inv.toNat = 2 ^ 8 from rfl, Nat.and_two_pow, Nat.toNat_testBit]
  rfl

/-- A wave is its number and the inversion bit. -/
theorem toNat_and_not_inv (x : Wave) : (x &&& ~~~inv).toNat + (x &&& inv).toNat = x.toNat := by
  have hdisjoint : (x &&& ~~~inv) &&& (x &&& inv) = 0 := by
    rw [BitVec.and_assoc, ← BitVec.and_assoc (~~~inv), BitVec.and_comm (~~~inv) x, BitVec.and_assoc x]
    rw [show ~~~inv &&& inv = (0 : BitVec 32) from rfl]
    simp
  have hunion : (x &&& ~~~inv) ||| (x &&& inv) = x := by
    rw [← BitVec.and_or_distrib_left, show ~~~inv ||| inv = BitVec.allOnes 32 from rfl,
      BitVec.and_allOnes]
  rw [← BitVec.toNat_add_of_and_eq_zero hdisjoint, BitVec.add_eq_or_of_and_eq_zero _ _ hdisjoint,
    hunion]

theorem known_iff (x : Wave) : Known x ↔ x.toNat ≤ 15 ∨ (256 ≤ x.toNat ∧ x.toNat ≤ 271) := by
  have h1 := toNat_and_inv x
  have h2 := toNat_and_not_inv x
  unfold Known
  omega

theorem known_bits_iff (w : CInt) : Known w.bits ↔ (0 ≤ w.1 ∧ w.1 ≤ 15) ∨ (256 ≤ w.1 ∧ w.1 ≤ 271) := by
  rw [known_iff]
  obtain ⟨x, hl, hh⟩ := w
  rw [CInt.bits, BitVec.toNat_ofInt]
  simp only
  omega

/-- `n` over `s` is a wave, with or without the inversion bit. -/
def WaveRange (n s : Int) : Prop :=
  (0 < s ∧ (-s < n ∧ n < 16 * s ∨ 256 * s ≤ n ∧ n < 272 * s)) ∨
    (s < 0 ∧ (16 * s < n ∧ n < -s ∨ 272 * s < n ∧ n ≤ 256 * s))

theorem tdiv_known_of_pos {n s : Int} (hs : 0 < s) :
    ((0 ≤ n.tdiv s ∧ n.tdiv s ≤ 15) ∨ (256 ≤ n.tdiv s ∧ n.tdiv s ≤ 271)) ↔
      -s < n ∧ n < 16 * s ∨ 256 * s ≤ n ∧ n < 272 * s := by
  by_cases hn : 0 ≤ n
  · rw [Int.tdiv_eq_ediv_of_nonneg hn]
    have h0 := Int.ediv_nonneg hn hs.le
    have h16 : n / s < 16 ↔ n < 16 * s := Int.ediv_lt_iff_lt_mul hs
    have h256 : 256 ≤ n / s ↔ 256 * s ≤ n := Int.le_ediv_iff_mul_le hs
    have h272 : n / s < 272 ↔ n < 272 * s := Int.ediv_lt_iff_lt_mul hs
    omega
  · -- the quotient is not above zero
    have ht : n.tdiv s = -(-n / s) := by
      rw [← Int.tdiv_eq_ediv_of_nonneg (by omega), Int.neg_tdiv, Int.neg_neg]
    have h0 : 0 ≤ -n / s := Int.ediv_nonneg (by omega) hs.le
    have h1 : -n / s < 1 ↔ -n < 1 * s := Int.ediv_lt_iff_lt_mul hs
    rw [ht]
    omega

theorem tdiv_known_iff {n s : Int} (hs : s ≠ 0) :
    ((0 ≤ n.tdiv s ∧ n.tdiv s ≤ 15) ∨ (256 ≤ n.tdiv s ∧ n.tdiv s ≤ 271)) ↔ WaveRange n s := by
  unfold WaveRange
  by_cases hpos : 0 < s
  · rw [tdiv_known_of_pos hpos]
    omega
  · have hneg : 0 < -s := by omega
    rw [← Int.neg_tdiv_neg, tdiv_known_of_pos hneg]
    omega

/-! ## The notification -/

/-- The call ends, and writes a line that is complete and well formed. -/
def Safe (state : LightState) : Prop :=
  ∃ text, setLightNotifications state =
      .ok [(ledPath ++ "brightness", printInt 63), (ledPath ++ "pattern", text)] ∧
    text.length < 256 ∧ WellFormed text

theorem setLightNotifications_eq {state : LightState} {p : Pattern} {r : List CInt × Pattern}
    (h : patternFromLightState state = .ok p)
    (hr : (if p.special then specialPattern state.color p else plainPattern state.color p) = .ok r) :
    setLightNotifications state =
      .ok [(ledPath ++ "brightness", printInt 63), (ledPath ++ "pattern", patternText r.1 r.2)] := by
  refine Outcome.bind_eq_ok.mpr ⟨p, h, ?_⟩
  cases hsp : p.special with
  | true =>
    rw [hsp, if_pos rfl] at hr
    exact Outcome.bind_eq_ok.mpr ⟨r, hr, rfl⟩
  | false =>
    rw [hsp, if_neg Bool.false_ne_true] at hr
    exact Outcome.bind_eq_ok.mpr ⟨r, hr, rfl⟩

theorem safe_iff_of_pattern {state : LightState} {p : Pattern}
    (h : patternFromLightState state = .ok p) (hp : p.Ok) :
    Safe state ↔ p.special = true ∨ ∀ wave ∈ p.waves, Known wave := by
  have hrun := fun {r} => setLightNotifications_eq (r := r) h
  cases hsp : p.special with
  | true =>
    rw [hsp] at hrun
    obtain ⟨r, hr, hv, hlen, hok, hknown⟩ := specialPattern_spec state.color hp.cycle
    refine iff_of_true ⟨patternText r.1 r.2, hrun hr, (patternText_eq hv hok).2, ?_⟩ (.inl rfl)
    exact (wellFormed_patternText_iff hv hlen hok).mpr hknown
  | false =>
    rw [hsp] at hrun
    obtain ⟨wb, hwb, hw, hb⟩ := rgbToWb_spec state.color
    have hv := level_ledValues hw hb
    have hlen := length_ledValues wb.white wb.blue
    have hr := hrun (Outcome.bind_eq_ok.mpr ⟨wb, hwb, rfl⟩)
    rw [← wellFormed_patternText_iff hv hlen hp]
    constructor
    · rintro ⟨text, ht, -, hf⟩
      rw [hr] at ht
      cases ht
      exact .inr hf
    · rintro (hf | hf)
      · cases hf
      · exact ⟨_, hr, (patternText_eq hv hp).2, hf⟩

theorem ok_b {cycle : Cycle} (h : cycle.toNat ≤ 7) (wave : Wave) : (b cycle wave).Ok :=
  ⟨h, (by decide : slope4th.toNat ≤ 3), List.length_replicate⟩

theorem cycleFromFlashMS_le (flashMS : CInt) : (cycleFromFlashMS flashMS).toNat ≤ 7 := by
  unfold cycleFromFlashMS
  repeat' split
  all_goals decide

theorem specialCycle_le (flashOnMS : CInt) : (specialCycle flashOnMS).toNat ≤ 7 := by
  unfold specialCycle
  repeat' split
  all_goals decide

/-- The light is to blink at times of its own. -/
def Blinks (state : LightState) : Prop :=
  state.flashMode = lightFlashTimed ∧ state.flashOnMS.1 ≠ 0 ∧ state.flashOffMS.1 ≠ 0

instance (state : LightState) : Decidable (Blinks state) := inferInstanceAs (Decidable (_ ∧ _ ∧ _))

section
variable {state : LightState}

theorem patternFromLightState_overflow (h : ¬ Fits (state.flashOnMS.1 + state.flashOffMS.1)) :
    patternFromLightState state = .error .overflow := by
  have hadd : state.flashOnMS.add state.flashOffMS = .error .overflow := dif_neg h
  rw [patternFromLightState, hadd]
  rfl

theorem patternFromLightState_still (h : Fits (state.flashOnMS.1 + state.flashOffMS.1))
    (hb : ¬ Blinks state) : ∃ p, patternFromLightState state = .ok p ∧ p.Ok ∧
      (p.special = true ∨ ∀ wave ∈ p.waves, Known wave) := by
  have hadd := CInt.checked_of_fits h
  have hplain : ∀ wave, Known wave → ∀ w ∈ (b cycle210S wave).waves, Known w :=
    fun wave hw w hm => List.eq_of_mem_replicate hm ▸ hw
  have hok : ∀ wave, (b cycle210S wave).Ok := fun wave => ok_b (by decide) wave
  unfold patternFromLightState
  rw [CInt.add, hadd, Outcome.ok_bind]
  by_cases h1 : state.flashMode = lightFlashHardware
  · exact ⟨b cycle210S wave44, if_pos h1, hok _, .inr (hplain _ (by decide))⟩
  rw [if_neg h1]
  by_cases h2 : state.flashMode ≠ lightFlashTimed
  · exact ⟨b cycle210S (wave8 ||| inv), if_pos h2, hok _, .inr (hplain _ (by decide))⟩
  rw [if_neg h2]
  by_cases h3 : state.flashOnMS.1 = 0
  · exact ⟨b cycle210S (wave8 ||| inv), if_pos h3, hok _, .inr (hplain _ (by decide))⟩
  rw [if_neg h3]
  have h4 : state.flashOffMS.1 = 0 := by
    by_contra h4
    exact hb ⟨not_not.mp h2, h3, h4⟩
  rw [if_pos h4]
  by_cases h5 : state.flashOnMS.1 = 1
  · exact ⟨b cycle210S wave8, if_pos h5, hok _, .inr (hplain _ (by decide))⟩
  · exact ⟨⟨true, specialCycle state.flashOnMS, 0, List.replicate leds 0⟩, if_neg h5,
      ⟨specialCycle_le _, Nat.zero_le _, List.length_replicate⟩, .inl rfl⟩

theorem patternFromLightState_blink (h : Fits (state.flashOnMS.1 + state.flashOffMS.1))
    (hb : Blinks state) : patternFromLightState state =
      ((CInt.mul ⟨7, by decide⟩ state.flashOffMS) >>= fun product =>
        product.div ⟨state.flashOnMS.1 + state.flashOffMS.1, h⟩ >>= fun wave =>
          .ok (b (cycleFromFlashMS ⟨state.flashOnMS.1 + state.flashOffMS.1, h⟩) wave.bits)) := by
  have hadd := CInt.checked_of_fits h
  have hne : state.flashMode ≠ lightFlashHardware := by
    rw [hb.1]
    decide
  unfold patternFromLightState
  rw [CInt.add, hadd, Outcome.ok_bind, if_neg hne, if_neg (not_not.mpr hb.1), if_neg hb.2.1, if_neg hb.2.2]
  rfl

/-- The wave that is computed, when it can be. -/
theorem patternFromLightState_blink_eq_ok (h : Fits (state.flashOnMS.1 + state.flashOffMS.1))
    (hb : Blinks state) {p : Pattern} : patternFromLightState state = .ok p ↔
      state.flashOnMS.1 + state.flashOffMS.1 ≠ 0 ∧ Fits (7 * state.flashOffMS.1) ∧
      ∃ wave : CInt, (7 * state.flashOffMS.1).tdiv (state.flashOnMS.1 + state.flashOffMS.1) = wave.1 ∧
        b (cycleFromFlashMS ⟨state.flashOnMS.1 + state.flashOffMS.1, h⟩) wave.bits = p := by
  rw [patternFromLightState_blink h hb, Outcome.bind_eq_ok]
  constructor
  · rintro ⟨product, hproduct, hrest⟩
    obtain ⟨wave, hwave, hp⟩ := Outcome.bind_eq_ok.mp hrest
    obtain ⟨hs, hwave⟩ := CInt.div_eq_ok.mp hwave
    have hproduct : 7 * state.flashOffMS.1 = product.1 := CInt.mul_eq_ok.mp hproduct
    rw [hproduct]
    exact ⟨hs, product.2, wave, hwave, Except.ok.inj hp⟩
  · rintro ⟨hs, hf, wave, hwave, hp⟩
    refine ⟨⟨_, hf⟩, CInt.mul_eq_ok.mpr rfl, Outcome.bind_eq_ok.mpr ⟨wave, ?_, congrArg _ hp⟩⟩
    exact CInt.div_eq_ok.mpr ⟨hs, hwave⟩

end

theorem WaveRange.ne_zero {n s : Int} (h : WaveRange n s) : s ≠ 0 := by
  rcases h with ⟨h, -⟩ | ⟨h, -⟩ <;> omega

theorem safe_of_blink {state : LightState} (h : Fits (state.flashOnMS.1 + state.flashOffMS.1))
    (hb : Blinks state) : Safe state ↔ Fits (7 * state.flashOffMS.1) ∧
      WaveRange (7 * state.flashOffMS.1) (state.flashOnMS.1 + state.flashOffMS.1) := by
  have hp := fun {p} => patternFromLightState_blink_eq_ok (p := p) h hb
  have hwave : ∀ wave : CInt, (∀ w ∈ (b (cycleFromFlashMS ⟨_, h⟩) wave.bits).waves, Known w) ↔
      Known wave.bits := by
    intro wave
    exact ⟨fun hk => hk _ (List.mem_replicate.mpr ⟨by decide, rfl⟩),
      fun hk w hw => List.eq_of_mem_replicate hw ▸ hk⟩
  constructor
  · rintro ⟨text, ht, hsafe⟩
    obtain ⟨p, hpat, -⟩ := Outcome.bind_eq_ok.mp ht
    obtain ⟨hs, hf, wave, hw, rfl⟩ := hp.mp hpat
    refine ⟨hf, ?_⟩
    have hk := (safe_iff_of_pattern hpat (ok_b (cycleFromFlashMS_le _) _)).mp ⟨text, ht, hsafe⟩
    have hk := (hwave wave).mp (hk.resolve_left Bool.false_ne_true)
    rw [← tdiv_known_iff hs, hw]
    exact (known_bits_iff wave).mp hk
  · rintro ⟨hf, hr⟩
    have hs := hr.ne_zero
    have hk := (tdiv_known_iff hs).mpr hr
    have hfits : Fits ((7 * state.flashOffMS.1).tdiv
        (state.flashOnMS.1 + state.flashOffMS.1)) := ⟨by omega, by omega⟩
    have hpat := hp.mpr ⟨hs, hf, ⟨_, hfits⟩, rfl, rfl⟩
    refine (safe_iff_of_pattern hpat (ok_b (cycleFromFlashMS_le _) _)).mpr (.inr ?_)
    exact (hwave _).mpr ((known_bits_iff _).mpr hk)

/-- A notification is safe exactly when the sum of its times fits and, should it blink at times of
its own, seven times the one without light fits and is over the sum a number of a wave. -/
theorem notifications_iff (state : LightState) : Safe state ↔
    Fits (state.flashOnMS.1 + state.flashOffMS.1) ∧
      (Blinks state → Fits (7 * state.flashOffMS.1) ∧
        WaveRange (7 * state.flashOffMS.1) (state.flashOnMS.1 + state.flashOffMS.1)) := by
  by_cases h : Fits (state.flashOnMS.1 + state.flashOffMS.1)
  · by_cases hb : Blinks state
    · rw [safe_of_blink h hb]
      exact ⟨fun hr => ⟨h, fun _ => hr⟩, fun hr => hr.2 hb⟩
    · obtain ⟨p, hpat, hp, hk⟩ := patternFromLightState_still h hb
      exact iff_of_true ((safe_iff_of_pattern hpat hp).mpr hk) ⟨h, fun hb' => absurd hb' hb⟩
  · refine iff_of_false ?_ fun hr => h hr.1
    rintro ⟨text, ht, -⟩
    obtain ⟨p, hpat, -⟩ := Outcome.bind_eq_ok.mp ht
    rw [patternFromLightState_overflow h] at hpat
    cases hpat

/-- Opposite times are divided by their sum. -/
theorem notifications_divide_by_zero :
    setLightNotifications ⟨0xff0000ff, lightFlashTimed, ⟨-100, by decide⟩, ⟨100, by decide⟩⟩ =
      .error .divisionByZero := by rfl

end P970.Lights
