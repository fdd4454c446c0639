import Mathlib.Algebra.Order.Field.Rat
import Mathlib.Tactic.FieldSimp
import Mathlib.Tactic.LinearCombination
import P970.Lights.Notifications

/-!
# A blinking light

With a time on and a time off the LEDs are dark in the first slots of a cycle and
lit in the others, in about the ratio of the times, and the cycle is the shortest
one that is long enough (`blinking_share`).
-/

namespace P970.Lights

open P970.Printf (printInt)
open P970.Words (Fits)

/-- The nominal lengths of the cycles, in milliseconds. -/
def nominalMS : List Int := [1, 4, 8, 16, 32, 64, 96, 128].map (131 * ·)

/-- The cycle has the shortest length that is not below `flashMS`, or the longest when none is. -/
def Shortest (flashMS : Int) (cycle : Nat) : Prop :=
  ∃ len, nominalMS[cycle]? = some len ∧
    ((flashMS ≤ len ∧ ∀ len' ∈ nominalMS, flashMS ≤ len' → len ≤ len') ∨
      ∀ len' ∈ nominalMS, len' < flashMS ∧ len' ≤ len)

/-- The line written is of that cycle, and every LED is dark in the first `k` of the eight slots of
its wave and at its full value in the others. -/
def Blinking (state : LightState) (cycle k : Nat) : Prop :=
  ∃ wb wave, rgbToWb state.color = .ok wb ∧
    waveSlots[wave]? = some (List.replicate k 1 ++ List.replicate (8 - k) 2) ∧
    setLightNotifications state = .ok [(ledPath ++ "brightness", printInt 63),
      (ledPath ++ "pattern", line cycle slope4th.toNat ((ledValues wb.white wb.blue).map fun v =>
        (0, v.1.toNat * 100 / 255, wave)))]

/-! ## The cycle -/

theorem shortest_cycleFromFlashMS (flashMS : CInt) :
    Shortest flashMS.1 (cycleFromFlashMS flashMS).toNat := by
  unfold Shortest
  simp only [nominalMS, List.map_cons, List.map_nil, List.forall_mem_cons, List.not_mem_nil,
    false_implies, implies_true, and_true]
  unfold cycleFromFlashMS
  repeat' split
  all_goals
    refine ⟨_, rfl, ?_⟩
    omega

/-! ## The slots -/

theorem waveSlots_eq : ∀ wave ≤ 6, waveSlots[wave]? =
    some (List.replicate (wave + 1) 1 ++ List.replicate (8 - (wave + 1)) 2) := by decide

section
variable {on off on' off' : Int}

/-- The wave is one of the first seven. -/
theorem wave_bounds (hon : 0 < on) (hoff : 0 < off) :
    0 ≤ 7 * off / (on + off) ∧ 7 * off / (on + off) < 7 := by
  refine ⟨Int.ediv_nonneg (by omega) (by omega), ?_⟩
  apply Int.ediv_lt_of_lt_mul (by omega)
  omega

/-- The share of the dark slots is that of the time off, up to a slot. -/
theorem share_bound (hon : 0 < on) (hoff : 0 < off) :
    |(((7 * off / (on + off) + 1 : Int) : ℚ)) / 8 - off / (on + off)| ≤ 1 / 8 := by
  have hs : 0 < on + off := by omega
  have hle := Int.ediv_mul_le (7 * off) hs.ne'
  have hlt := Int.lt_ediv_add_one_mul_self (7 * off) hs
  generalize 7 * off / (on + off) = q at hle hlt
  have hs' : (0 : ℚ) < on + off := by exact_mod_cast hs
  have hon' : (0 : ℚ) < on := by exact_mod_cast hon
  have hoff' : (0 : ℚ) < off := by exact_mod_cast hoff
  have hle' : (q : ℚ) * (on + off) ≤ 7 * off := by exact_mod_cast hle
  have hlt' : (7 * off : ℚ) < (q + 1) * (on + off) := by exact_mod_cast hlt
  push_cast
  rw [abs_le, div_sub_div _ _ (by norm_num) hs'.ne', le_div_iff₀ (by positivity),
    div_le_iff₀ (by positivity)]
  constructor <;> linarith

theorem wave_mono (hon : 0 < on) (hoff : 0 < off) (hon' : 0 < on') (hoff' : 0 < off')
    (h : (off : ℚ) / (on + off) ≤ off' / (on' + off')) :
    7 * off / (on + off) ≤ 7 * off' / (on' + off') := by
  have hs : 0 < on + off := by omega
  have hs' : 0 < on' + off' := by omega
  have hcross : off * (on' + off') ≤ off' * (on + off) := by
    rw [div_le_div_iff₀ (by exact_mod_cast hs) (by exact_mod_cast hs')] at h
    exact_mod_cast h
  rw [Int.le_ediv_iff_mul_le hs']
  have hle := Int.ediv_mul_le (7 * off) hs.ne'
  generalize 7 * off / (on + off) = q at hle ⊢
  refine Int.le_of_mul_le_mul_right ?_ hs
  calc q * (on' + off') * (on + off) = q * (on + off) * (on' + off') := by ring
    _ ≤ 7 * off * (on' + off') := Int.mul_le_mul_of_nonneg_right hle hs'.le
    _ = 7 * (off * (on' + off')) := by ring
    _ ≤ 7 * (off' * (on + off)) := Int.mul_le_mul_of_nonneg_left hcross (by decide)
    _ = 7 * off' * (on + off) := by ring

end

/-! ## The line -/

theorem zipWith_replicate_eq {waves : List Wave} {value : List CInt} {wave : Wave}
    (h : waves = List.replicate value.length wave) :
    waves.zipWith ledLevels value = value.map (ledLevels wave) := by
  subst h
  induction value with
  | nil => rfl
  | cons v value ih =>
    rw [List.length_cons, List.replicate_succ, List.zipWith_cons_cons, List.map_cons, ih]

/-- The levels under a wave that is not inverted. -/
theorem ledLevels_of_lt {wave : CInt} {v : CInt} (h0 : 0 ≤ wave.1) (h1 : wave.1 < 256) (hv : Level v) :
    ledLevels wave.bits v = (0, v.1.toNat * 100 / 255, wave.1.toNat) := by
  have hn := CInt.toNat_bits h0
  have hi := toNat_and_inv wave.bits
  have hw := toNat_and_not_inv wave.bits
  have hz : wave.bits &&& inv = 0 := by
    apply BitVec.eq_of_toNat_eq
    show _ = 0
    omega
  have hval : v.bits.toNat = v.1.toNat := by
    have := CInt.toNat_bits hv.1
    omega
  rw [ledLevels_eq wave.bits hv, if_pos hz, hval]
  rw [show (wave.bits &&& ~~~inv).toNat = wave.1.toNat by omega]

section
variable {state : LightState}

theorem blinking_of_times (hm : state.flashMode = lightFlashTimed) (hon : 0 < state.flashOnMS.1)
    (hoff : 0 < state.flashOffMS.1) (h7 : Fits (7 * state.flashOffMS.1))
    (hsum : Fits (state.flashOnMS.1 + state.flashOffMS.1)) : ∃ k : Nat,
      (k : Int) = 7 * state.flashOffMS.1 / (state.flashOnMS.1 + state.flashOffMS.1) + 1 ∧
      Blinking state (cycleFromFlashMS ⟨_, hsum⟩).toNat k := by
  have hb : Blinks state := ⟨hm, hon.ne', hoff.ne'⟩
  obtain ⟨hw0, hw7⟩ := wave_bounds hon hoff
  have ht : (7 * state.flashOffMS.1).tdiv (state.flashOnMS.1 + state.flashOffMS.1) =
      7 * state.flashOffMS.1 / (state.flashOnMS.1 + state.flashOffMS.1) :=
    Int.tdiv_eq_ediv_of_nonneg (by omega)
  generalize 7 * state.flashOffMS.1 / (state.flashOnMS.1 + state.flashOffMS.1) = q at hw0 hw7 ht
  have hpat := (patternFromLightState_blink_eq_ok hsum hb).mpr
    ⟨by omega, h7, ⟨q, by omega, by omega⟩, ht, rfl⟩
  obtain ⟨wb, hwb, hwhite, hblue⟩ := rgbToWb_spec state.color
  have hv := level_ledValues hwhite hblue
  have hrun := setLightNotifications_eq hpat (r := (ledValues wb.white wb.blue, _))
    (Outcome.bind_eq_ok.mpr ⟨wb, hwb, rfl⟩)
  have hline := (patternText_eq hv (ok_b (cycleFromFlashMS_le ⟨_, hsum⟩)
    (CInt.bits ⟨q, by omega, by omega⟩))).1
  refine ⟨q.toNat + 1, by omega, wb, q.toNat, hwb, waveSlots_eq _ (by omega), ?_⟩
  have hlevels : (b (cycleFromFlashMS ⟨_, hsum⟩) (CInt.bits ⟨q, by omega, by omega⟩)).waves.zipWith
      ledLevels (ledValues wb.white wb.blue) = (ledValues wb.white wb.blue).map fun v =>
        (0, v.1.toNat * 100 / 255, q.toNat) := by
    rw [zipWith_replicate_eq (by rw [length_ledValues]; rfl)]
    refine List.map_congr_left fun v hmem => ?_
    exact ledLevels_of_lt hw0 (by show q < 256; omega) (hv v hmem)
  rw [hrun, hline, hlevels]
  rfl

/-- A line has one cycle and one number of dark slots. -/
theorem Blinking.unique {c k c' k' : Nat} (h : Blinking state c k) (h' : Blinking state c' k') :
    c = c' ∧ k = k' := by
  obtain ⟨wb, wave, hwb, hslots, hrun⟩ := h
  obtain ⟨wb', wave', hwb', hslots', hrun'⟩ := h'
  rw [hwb] at hwb'
  cases hwb'
  rw [hrun] at hrun'
  have htext := Except.ok.inj hrun'
  simp only [List.cons.injEq, Prod.mk.injEq, true_and, and_true] at htext
  obtain ⟨hc, -, hl⟩ := line_inj htext
  refine ⟨hc, ?_⟩
  have hwave : wave = wave' := by
    obtain ⟨v, hv⟩ := List.exists_mem_of_length_pos (l := ledValues wb.white wb.blue) (by
      rw [length_ledValues]
      decide)
    have hx := List.map_inj_left.mp hl v hv
    exact (Prod.mk.inj (Prod.mk.inj hx).2).2
  rw [hwave, hslots'] at hslots
  have hk := congrArg (List.count 1) (Option.some.inj hslots)
  simpa [List.count_append, List.count_replicate] using hk.symm

end

/-- A light with a time on and a time off blinks: the share of the dark slots differs from that of
the time off by at most a slot and grows with it, and the cycle is the shortest that is long
enough. -/
theorem blinking_share (state : LightState) (hm : state.flashMode = lightFlashTimed)
    (hon : 0 < state.flashOnMS.1) (hoff : 0 < state.flashOffMS.1)
    (h7 : Fits (7 * state.flashOffMS.1))
    (hsum : Fits (state.flashOnMS.1 + state.flashOffMS.1)) :
    ∃ cycle k, Blinking state cycle k ∧
      |(k : ℚ) / 8 - state.flashOffMS.1 / (state.flashOnMS.1 + state.flashOffMS.1)| ≤ 1 / 8 ∧
      Shortest (state.flashOnMS.1 + state.flashOffMS.1) cycle ∧
      ∀ state' cycle' k', state'.flashMode = lightFlashTimed → 0 < state'.flashOnMS.1 →
        0 < state'.flashOffMS.1 → Fits (7 * state'.flashOffMS.1) →
        Fits (state'.flashOnMS.1 + state'.flashOffMS.1) → Blinking state' cycle' k' →
        (state.flashOffMS.1 / (state.flashOnMS.1 + state.flashOffMS.1) : ℚ) ≤
          state'.flashOffMS.1 / (state'.flashOnMS.1 + state'.flashOffMS.1) → k ≤ k' := by
  obtain ⟨k, hk, hb⟩ := blinking_of_times hm hon hoff h7 hsum
  refine ⟨_, k, hb, ?_, shortest_cycleFromFlashMS ⟨_, hsum⟩, ?_⟩
  · have hshare := share_bound hon hoff
    rw [← hk, Int.cast_natCast] at hshare
    exact hshare
  · intro state' cycle' k' hm' hon' hoff' h7' hsum' hb' hle
    obtain ⟨j, hj, hbj⟩ := blinking_of_times hm' hon' hoff' h7' hsum'
    have hmono := wave_mono hon hoff hon' hoff' hle
    obtain ⟨-, rfl⟩ := hb'.unique hbj
    omega

/-- A second on and half a second off, and the other way round. -/
theorem blinking_share_seconds :
    ∃ cycle k cycle' k',
      Blinking ⟨0xffffffff, lightFlashTimed, ⟨1000, by decide⟩, ⟨500, by decide⟩⟩ cycle k ∧
      Blinking ⟨0xffffffff, lightFlashTimed, ⟨500, by decide⟩, ⟨1000, by decide⟩⟩ cycle' k' ∧
      |(k : ℚ) / 8 - 1 / 3| ≤ 1 / 8 ∧ Shortest 1500 cycle ∧ k ≤ k' := by
  obtain ⟨cycle, k, hb, hshare, hcycle, hmono⟩ := blinking_share
    ⟨0xffffffff, lightFlashTimed, ⟨1000, by decide⟩, ⟨500, by decide⟩⟩ rfl (by decide) (by decide)
    (by decide) (by decide)
  obtain ⟨cycle', k', hb', -⟩ := blinking_share
    ⟨0xffffffff, lightFlashTimed, ⟨500, by decide⟩, ⟨1000, by decide⟩⟩ rfl (by decide) (by decide)
    (by decide) (by decide)
  refine ⟨cycle, k, cycle', k', hb, hb', ?_, hcycle, ?_⟩
  · norm_num at hshare
    norm_num
    exact hshare
  · apply hmono _ cycle' k' rfl (by decide) (by decide) (by decide) (by decide) hb'
    norm_num

end P970.Lights
