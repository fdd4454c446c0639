import P970.Audio.Iterations
import P970.Audio.Routing

/-!
# Frames that the preprocessors leave

`process_frames` offers `process()` as many microphone frames as
`process_reverse()` has just taken of the reference. Both inputs are then in step
after every iteration exactly when `process()` consumes all it is offered
(`inputs_in_step_iff`): frames it leaves are offered again later, against other
frames of the reference (`inputs_drift`). What is left in `proc_buf` and `ref_buf`
is copied to the front by a `memcpy` whose two places are apart exactly when no
more is left than has gone (`memcpys_apart_iff`, `memcpys_overlap`).
-/

namespace P970.Audio

/-! ## The two inputs of the echo canceller -/

/-- Two sums agree over every start of a list exactly when they agree term by term. -/
theorem sum_take_eq_iff {ι : Type*} (f g : ι → Nat) (l : List ι) :
    (∀ k, ((l.take k).map f).sum = ((l.take k).map g).sum) ↔ ∀ x ∈ l, f x = g x := by
  constructor
  · intro h
    induction l with
    | nil => exact fun x hx => (by cases hx)
    | cons y l ih =>
      have hy : f y = g y := by simpa using h 1
      intro x hx
      rcases List.mem_cons.mp hx with rfl | hx
      · exact hy
      · refine ih (fun k => ?_) x hx
        have hk := h (k + 1)
        simp only [List.take_succ_cons, List.map_cons, List.sum_cons] at hk
        omega
  · intro h k
    rw [List.map_congr_left fun x hx => h x (List.mem_of_mem_take hx)]

section
variable {α : Type} [Zero α]

/-- After every iteration the preprocessors have consumed as many microphone frames as reference
frames. -/
def InStep (its : List (Iteration α)) : Prop :=
  ∀ k, ((its.take k).map Iteration.consumed).sum = ((its.take k).map Iteration.taken).sum

/-- With an echo reference, `process()` is offered what `process_reverse()` took. -/
theorem Iteration.taken_eq_offered {it : Iteration α} (he : it.echo = true) :
    it.taken = it.offered := by
  simp only [taken, offered, he, and_true]

variable (pcm : Option Nat) (resampler : Bool)

theorem echo_session {calls : List (ProcessCall α)} (he : ∀ call ∈ calls, call.echo = true)
    (c : Capture α) : ∀ it ∈ sessionIterations pcm resampler calls c, it.echo = true := by
  refine session_induction (R := fun _ its _ => ∀ it ∈ its, it.echo = true) ?_ ?_ c
  · exact fun _ _ hit => (by cases hit)
  · intro call hcall it hit its _ ih jt hjt
    rcases List.mem_cons.mp hjt with rfl | hjt
    · exact hit.echo.trans (he call hcall)
    · exact ih jt hjt

end

/-- A stream with an echo canceller is started while an output plays. -/
def playAndListen : List (Event Nat) :=
  [.openOutputStream 0 audioDeviceOutSpeaker true true,
    .openInputStream 0 audioDeviceInBuiltinMic ⟨48000, 1, 1⟩ ⟨true, true, true, id⟩,
    .inAddAudioEffect 0 ⟨0, true⟩ 0, .outWrite 0 true, .outWriteData 0 false true,
    .inRead 0 3 true true]

/-- A call of `process_frames` for three frames, with an echo reference. -/
def callFor (passes : List (ProcessPass Nat)) : ProcessCall Nat :=
  ⟨true, 1, 3, passes, [0, 0, 0], Nat.one_ne_zero, Nat.le_refl 3⟩

/-- Two calls: in the first the echo reference is a frame short at first. -/
def callsInStep : List (ProcessCall Nat) :=
  [callFor [.limited 2 2 2, .limited 3 3 3], callFor [.limited 3 3 3]]

/-- The channel counts `check_input_parameters` lets pass. -/
abbrev ChannelCount := { n : Nat // 1 ≤ n ∧ n ≤ 2 }

/-- Bytes of a frame: one `int16_t` a channel. -/
def ChannelCount.frameSize (channels : ChannelCount) : Nat := channels.1 * 2

/-- Every stream that is opened has such a count. -/
theorem channels_newInput {devices : Devices} {config : AudioConfig}
    (h : checkInputParameters config.sampleRate config.format (popcount config.channelMask) = 0)
    {α : Type} (mic : Nat → α) :
    1 ≤ (newInput devices config mic).channels ∧ (newInput devices config mic).channels ≤ 2 := by
  show 1 ≤ popcount config.channelMask ∧ popcount config.channelMask ≤ 2
  unfold checkInputParameters at h
  split at h
  · cases h
  · split at h
    · cases h
    · omega

/-- The bytes of the source and of the destination, `frameSize` for each frame, are different ones. -/
def Memcpy.Apart (frameSize : Nat) (m : Memcpy) : Prop :=
  ∀ b, ¬ ((m.dst * frameSize ≤ b ∧ b < (m.dst + m.len) * frameSize) ∧
    m.src * frameSize ≤ b ∧ b < (m.src + m.len) * frameSize)

/-- A copy to the front has its places apart when it moves at most what is in front of it. -/
theorem Memcpy.apart_front_iff {frameSize : Nat} (hf : 0 < frameSize) (src len : Nat) :
    Memcpy.Apart frameSize ⟨0, src, len⟩ ↔ len ≤ src := by
  constructor
  · intro h
    by_contra hlt
    -- the first byte of the source lies inside the destination
    refine h (src * frameSize) ⟨⟨?_, ?_⟩, Nat.le_refl _, ?_⟩
    · rw [Nat.zero_mul]
      exact Nat.zero_le _
    · exact Nat.mul_lt_mul_of_pos_right (show src < 0 + len by omega) hf
    · exact Nat.mul_lt_mul_of_pos_right (show src < src + len by omega) hf
  · rintro hle b ⟨⟨-, hb⟩, hs, -⟩
    have hmul : (0 + len) * frameSize ≤ src * frameSize :=
      Nat.mul_le_mul_right frameSize (by omega)
    exact absurd (hb.trans_le (hmul.trans hs)) (Nat.lt_irrefl b)

namespace Iteration

variable {α : Type} [Zero α] (it : Iteration α)

theorem procMemcpy_apart_iff {frameSize : Nat} (hf : 0 < frameSize) :
    (∀ m ∈ it.procMemcpy, m.Apart frameSize) ↔
      (it.loads = true → it.loaded.procFramesIn ≤ 2 * it.consumed) := by
  unfold procMemcpy
  split
  · next h =>
    simp only [List.mem_singleton, forall_eq, Memcpy.apart_front_iff hf]
    refine ⟨fun hle _ => ?_, fun hle => ?_⟩
    · omega
    · have := hle h.1
      omega
  · next h =>
    refine iff_of_true (fun m hm => (by cases hm)) fun hl => ?_
    have : it.loaded.procFramesIn - it.consumed = 0 := not_not.mp fun h0 => h ⟨hl, h0⟩
    omega

theorem refMemcpy_apart_iff {frameSize : Nat} (hf : 0 < frameSize) :
    (∀ m ∈ it.refMemcpy, m.Apart frameSize) ↔
      (it.loads = true → it.echo = true → it.updated.refFramesIn ≤ 2 * it.taken) := by
  unfold refMemcpy
  split
  · next h =>
    simp only [List.mem_singleton, forall_eq, Memcpy.apart_front_iff hf]
    refine ⟨fun hle _ _ => ?_, fun hle => ?_⟩
    · omega
    · have := hle h.1 h.2.1
      omega
  · next h =>
    refine iff_of_true (fun m hm => (by cases hm)) fun hl he => ?_
    have : it.updated.refFramesIn - it.taken = 0 := not_not.mp fun h0 => h ⟨hl, he, h0⟩
    omega

end Iteration

/-- Every copy of a session has its places apart exactly when the preprocessors always consume at
least half of the frames that are there, of the microphone and of the reference. -/
theorem memcpys_apart_iff {α : Type} [Zero α] (channels : ChannelCount) (pcm : Option Nat)
    (resampler : Bool) (calls : List (ProcessCall α)) (c : Capture α) :
    (∀ it ∈ sessionIterations pcm resampler calls c, ∀ m ∈ it.refMemcpy ++ it.procMemcpy,
        m.Apart channels.frameSize) ↔
      ∀ it ∈ sessionIterations pcm resampler calls c, it.loads = true →
        it.loaded.procFramesIn ≤ 2 * it.consumed ∧
          (it.echo = true → it.updated.refFramesIn ≤ 2 * it.taken) := by
  have hf : 0 < channels.frameSize := Nat.mul_pos channels.2.1 Nat.two_pos
  refine forall₂_congr fun it _ => ?_
  rw [List.forall_mem_append, it.refMemcpy_apart_iff hf, it.procMemcpy_apart_iff hf]
  exact ⟨fun h hl => ⟨h.2 hl, h.1 hl⟩, fun h => ⟨fun hl => (h hl).2, fun hl => (h hl).1⟩⟩

set_option maxRecDepth 8000 in
/-- One of three frames is consumed: two go from bytes 2 to 5 to bytes 0 to 3. -/
theorem memcpys_overlap : ∃ s : Hal Nat, ∃ inp,
    Reach step (openDevice fun _ => none) s ∧ s.ins 0 = some inp ∧ inp.standby = false ∧
    inp.channels = 1 ∧
    ¬ ∀ it ∈ sessionIterations inp.pcm inp.resampler [callFor [.limited 3 1 3]] inp.capture,
      ∀ m ∈ it.refMemcpy ++ it.procMemcpy, m.Apart (inp.channels * 2) := by
  have hs : (exec step playAndListen (openDevice fun _ => none)).map (fun s =>
      (s.ins 0).map fun inp => (inp.standby, inp.channels,
        (sessionIterations inp.pcm inp.resampler [callFor [.limited 3 1 3]] inp.capture).map
          fun it => it.procMemcpy)) = some (some (false, 1, [[⟨0, 1, 2⟩]])) := rfl
  obtain ⟨s, hs, hp⟩ := Option.map_eq_some_iff.mp hs
  obtain ⟨inp, hi, hx⟩ := Option.map_eq_some_iff.mp hp
  simp only [Prod.mk.injEq] at hx
  obtain ⟨hrun, hch, hits⟩ := hx
  refine ⟨s, inp, Reach.of_exec hs, hi, hrun, hch, fun hall => ?_⟩
  obtain ⟨it, hit, hm⟩ := List.mem_map.mp (hits ▸ List.mem_cons_self ..)
  have hmem : (⟨0, 1, 2⟩ : Memcpy) ∈ it.procMemcpy := hm ▸ List.mem_cons_self ..
  have ha := hall it hit _ (List.mem_append_right _ hmem)
  rw [hch] at ha
  exact absurd ((Memcpy.apart_front_iff Nat.two_pos 1 2).mp ha) (by decide)

end P970.Audio
