import P970.Lib.Queue
import P970.Audio.Iterations
import P970.Audio.Resamplers

/-!
# What goes through `proc_buf` and `ref_buf`

The frames at the front of the two buffers are queues (`Capture.procQueue`,
`Capture.refQueue`): over any number of calls of `process_frames` the frames
`read_frames` and the echo reference deliver come in behind, those the
preprocessors consume go out in front, and nothing is lost, repeated or out of
order. The counts stay within the sizes of the buffers (`Capture.Sized`), as
does every use of them, and a call that returns has filled the client's buffer
(`frames_conserved`).
-/

namespace P970.Audio

section
variable {α : Type} {c : Capture α}

/-- The frames of `proc_buf` that count. -/
def Capture.procQueue (c : Capture α) : List α := c.procBuf.take c.procFramesIn

/-- The frames of `ref_buf` that count. -/
def Capture.refQueue (c : Capture α) : List α := c.refBuf.take c.refFramesIn

structure Capture.Sized (c : Capture α) : Prop where
  proc : c.procBuf.length = c.procBufSize
  procIn : c.procFramesIn ≤ c.procBufSize
  ref : c.refBuf.length = c.refBufSize
  refIn : c.refFramesIn ≤ c.refBufSize

structure Capture.Sound (c : Capture α) : Prop where
  shape : c.Shape
  sized : c.Sized

theorem Capture.Sized.length_procQueue (h : c.Sized) : c.procQueue.length = c.procFramesIn :=
  List.length_take_of_le (h.procIn.trans h.proc.ge)

theorem Capture.Sized.length_refQueue (h : c.Sized) : c.refQueue.length = c.refFramesIn :=
  List.length_take_of_le (h.refIn.trans h.ref.ge)

/-! ## The buffers as arrays -/

theorem length_writeAt_of_le {buf : List α} {off : Nat} {xs : List α}
    (h : off + xs.length ≤ buf.length) : (writeAt buf off xs).length = buf.length := by
  simp only [writeAt, List.length_append, List.length_take, List.length_drop]
  omega

theorem length_grow [Zero α] {buf : List α} {size : Nat} (h : buf.length ≤ size) :
    (grow buf size).length = size := by
  simp only [grow, List.length_append, List.length_replicate]
  omega

/-- What is left of the first `n` frames, `count` of them gone, put at the front. -/
def shift (buf : List α) (n count : Nat) : List α :=
  if n - count = 0 then buf else writeAt buf 0 ((buf.drop count).take (n - count))

theorem length_shift {buf : List α} {n : Nat} (h : n ≤ buf.length) (count : Nat) :
    (shift buf n count).length = buf.length := by
  unfold shift
  split
  · rfl
  · refine length_writeAt_of_le ?_
    rw [List.length_take, List.length_drop]
    omega

theorem take_shift {buf : List α} {n count : Nat} (h : n ≤ buf.length) :
    (shift buf n count).take (n - count) = (buf.take n).drop count := by
  have hlen : ((buf.drop count).take (n - count)).length = n - count := by
    rw [List.length_take, List.length_drop]
    omega
  have ht := take_writeAt ((buf.drop count).take (n - count)) (Nat.zero_le buf.length)
  rw [hlen, Nat.zero_add, List.take_zero, List.nil_append] at ht
  unfold shift
  split
  · next h0 => rw [h0, List.take_zero, List.drop_eq_nil_of_le (by rw [List.length_take]; omega)]
  · rw [ht, List.drop_take]

theorem consume_spec (h : c.Sound) (count : Nat) :
    (consume count c).Sound ∧ (consume count c).procQueue = c.procQueue.drop count ∧
      (consume count c).refQueue = c.refQueue := by
  have hin : c.procFramesIn ≤ c.procBuf.length := h.sized.proc ▸ h.sized.procIn
  have hlen : (consume count c).procBuf.length = c.procBuf.length := length_shift hin count
  refine ⟨⟨⟨h.shape.buffered, h.shape.framesIn, ?_, h.shape.status⟩,
    ⟨hlen.trans h.sized.proc, ?_, h.sized.ref, h.sized.refIn⟩⟩, take_shift hin, rfl⟩
  · exact (Nat.sub_le ..).trans (hin.trans hlen.ge)
  · exact (Nat.sub_le ..).trans h.sized.procIn

end

/-! ## One iteration -/

namespace Iteration

variable {α : Type} [Zero α] {it : Iteration α}

theorem frames_le_grown (it : Iteration α) : it.frames ≤ it.grown.procBufSize := by
  unfold grown
  split
  · exact Nat.le_refl _
  · omega

theorem grown_spec (h : it.before.Sound) :
    it.grown.Sound ∧ it.grown.procFramesIn = it.before.procFramesIn ∧
      it.grown.procQueue = it.before.procQueue ∧ it.grown.bufs.2 = it.before.bufs.2 := by
  unfold grown
  split
  · next hlt =>
    have hl : (grow it.before.procBuf it.frames).length = it.frames :=
      length_grow (by rw [h.sized.proc]; omega)
    have hin : it.before.procFramesIn ≤ it.frames := by
      have := h.sized.procIn
      omega
    refine ⟨⟨⟨h.shape.buffered, h.shape.framesIn, hin.trans hl.ge, h.shape.status⟩,
      ⟨hl, hin, h.sized.ref, h.sized.refIn⟩⟩, rfl, ?_, rfl⟩
    exact List.take_append_of_le_length h.shape.proc
  · exact ⟨h, rfl, rfl, rfl⟩

theorem read_spec (h : it.before.Sound) {r : Result α} (hr : it.read = some r) :
    it.before.procFramesIn < it.frames ∧ r.capture.Shape ∧ r.capture.bufs = it.grown.bufs ∧
      r.out.length ≤ it.frames - it.before.procFramesIn ∧
      ∀ n, r.ret = some n → 0 ≤ n →
        n.toNat = r.out.length ∧ r.out.length = it.frames - it.before.procFramesIn := by
  unfold read at hr
  split at hr
  · next hlt =>
    cases hr
    obtain ⟨hs, hl, hn⟩ := readFrames_spec (grown_spec h).1.shape it.pcm it.resampler it.pass.reads
      [] (Nat.zero_le (it.frames - it.before.procFramesIn))
    refine ⟨hlt, hs, (bufs_kept _).readFrames .., hl, fun n hret h0 => ?_⟩
    obtain ⟨hnf, hlen⟩ := hn n hret h0
    refine ⟨?_, hlen⟩
    have hlen : (readFrames it.pcm it.resampler (it.frames - it.before.procFramesIn) it.pass.reads 0
      [] it.grown).out.length = _ := hlen
    rw [hlen, hnf, Int.toNat_natCast]
  · cases hr

/-- The reload: what is delivered comes in behind, up to the frames of the call. -/
theorem loaded_spec (h : it.before.Sound) :
    it.loaded.Sound ∧ it.loaded.procQueue = it.before.procQueue ++ it.delivered ∧
      it.loaded.bufs.2 = it.before.bufs.2 ∧ (it.loads = true → it.frames ≤ it.loaded.procFramesIn) := by
  cases hr : it.read with
  | none =>
    have hle : it.frames ≤ it.before.procFramesIn := by
      unfold read at hr
      split at hr
      · cases hr
      · omega
    have hd : it.delivered = [] := by simp only [delivered, hr]
    have hl : it.loaded = it.before := by rw [loaded, reload_none hr]
    rw [hl, hd, List.append_nil]
    exact ⟨h, rfl, rfl, fun _ => hle⟩
  | some r =>
    obtain ⟨hlt, hs, hb, hle, hn⟩ := read_spec h hr
    obtain ⟨hg, hin, hq, href⟩ := grown_spec h
    obtain ⟨hbp, hbr⟩ := Prod.mk.inj hb
    simp only [Prod.mk.injEq] at hbp
    obtain ⟨hb1, hb2, hb3⟩ := hbp
    have hsz := hg.sized.proc
    have hfr := it.frames_le_grown
    have hoff : it.before.procFramesIn + r.out.length ≤ r.capture.procBuf.length := by
      rw [hb1, hsz]
      omega
    have hlen : (writeAt r.capture.procBuf it.before.procFramesIn r.out).length =
        r.capture.procBufSize := by
      rw [length_writeAt_of_le hoff, hb1, hb2, hsz]
    have hpin : it.before.procFramesIn ≤ r.capture.procBuf.length := (Nat.le_add_right ..).trans hoff
    have hfront : r.capture.procBuf.take it.before.procFramesIn = it.before.procQueue := by
      rw [hb1, ← hq, Capture.procQueue, hin]
    have hl : it.loaded = (reload it.pcm it.resampler it.frames it.pass it.before).2 := rfl
    rw [reload_some hr] at hl
    have hsound : ∀ k, k ≤ r.capture.procBufSize → Capture.Sound { r.capture with
        procBuf := writeAt r.capture.procBuf it.before.procFramesIn r.out, procFramesIn := k } := by
      intro k hk
      simp only [Prod.mk.injEq] at hbr
      obtain ⟨hr1, hr2, hr3⟩ := hbr
      refine ⟨⟨hs.buffered, hs.framesIn, hlen ▸ hk, hs.status⟩, ⟨hlen, hk, ?_, ?_⟩⟩
      · show r.capture.refBuf.length = r.capture.refBufSize
        rw [hr1, hr2, hg.sized.ref]
      · show r.capture.refFramesIn ≤ r.capture.refBufSize
        rw [hr2, hr3]
        exact hg.sized.refIn
    have hkeep : r.capture.procFramesIn ≤ r.capture.procBufSize := by
      rw [hb2, hb3]
      exact hg.sized.procIn
    cases hloads : it.loads with
    | true =>
      have hret : ∃ n, r.ret = some n ∧ 0 ≤ n := by
        simp only [loads, hr, Option.all_some, Option.any_eq_true, decide_eq_true_eq] at hloads
        exact hloads
      obtain ⟨n, hret, h0⟩ := hret
      obtain ⟨hnl, hlf⟩ := hn n hret h0
      rw [hret] at hl
      simp only [if_neg (not_lt.mpr h0), hb3, hin, hnl] at hl
      have hd : it.delivered = r.out := by simp only [delivered, hr, hloads, if_true]
      rw [hl, hd]
      refine ⟨hsound _ ?_, ?_, hbr.trans href, fun _ => ?_⟩
      · rw [hb2]
        omega
      · rw [← hfront]
        exact take_writeAt r.out hpin
      · show it.frames ≤ it.before.procFramesIn + r.out.length
        omega
    | false =>
      have hk : it.loaded = { r.capture with
          procBuf := writeAt r.capture.procBuf it.before.procFramesIn r.out } := by
        rw [hl]
        cases hret : r.ret with
        | none => rfl
        | some n =>
          have hneg : n < 0 := by
            simpa [loads, hr, hret] using hloads
          simp only [if_pos hneg]
      have hd : it.delivered = [] := by
        simp only [delivered, hr, hloads, Bool.false_eq_true, if_false]
      rw [hk, hd, List.append_nil]
      refine ⟨hsound _ hkeep, ?_, hbr.trans href, fun hc => (by cases hc)⟩
      rw [← hfront]
      show (writeAt r.capture.procBuf it.before.procFramesIn r.out).take r.capture.procFramesIn = _
      rw [hb3, hin]
      exact take_writeAt_self r.out hpin

/-- `update_echo_reference`: what the echo reference delivers comes in behind. -/
theorem updated_spec (h : it.loaded.Sound) (hl : it.loads = true) :
    it.updated.Sound ∧ it.updated.bufs.1 = it.loaded.bufs.1 ∧
      it.updated.refQueue = it.loaded.refQueue ++ it.echoed ∧
      (it.echo = true → it.loaded.procFramesIn ≤ it.updated.refBufSize ∨
        it.loaded.procFramesIn ≤ it.loaded.refFramesIn) := by
  by_cases he : it.echo = true ∧ it.loaded.refFramesIn < it.loaded.procFramesIn
  · obtain ⟨he, hf⟩ := he
    have hread := it.pass.echoRead_le (it.loaded.procFramesIn - it.loaded.refFramesIn)
    have hsz := h.sized.ref
    have hin := h.sized.refIn
    -- the buffer with room for the frames asked of the echo reference
    have hbuf : ∃ buf size, (if it.loaded.refBufSize < it.loaded.procFramesIn then
          { it.loaded with
            refBufSize := it.loaded.procFramesIn
            refBuf := grow it.loaded.refBuf it.loaded.procFramesIn }
          else it.loaded) = { it.loaded with refBuf := buf, refBufSize := size } ∧
        buf.length = size ∧ it.loaded.procFramesIn ≤ size ∧
        buf.take it.loaded.refFramesIn = it.loaded.refQueue := by
      split
      · next hlt =>
        refine ⟨_, _, rfl, length_grow (by omega), Nat.le_refl _, ?_⟩
        exact List.take_append_of_le_length (by omega)
      · exact ⟨it.loaded.refBuf, it.loaded.refBufSize, rfl, hsz, by omega, rfl⟩
    obtain ⟨buf, size, hbuf, hlen, hle, htake⟩ := hbuf
    have hechoed : it.echoed =
        if (it.pass.echoRead (it.loaded.procFramesIn - it.loaded.refFramesIn)).1.1 = 0 then
          (it.pass.echoRead (it.loaded.procFramesIn - it.loaded.refFramesIn)).2 else [] :=
      if_pos ⟨hl, he, hf⟩
    have hupd : it.updated = updateEchoReference it.loaded.procFramesIn it.pass it.loaded :=
      if_pos he
    rw [updateEchoReference, if_pos hf] at hupd
    simp only [hbuf, Capture.usePcm] at hupd
    generalize it.pass.echoRead (it.loaded.procFramesIn - it.loaded.refFramesIn) = r
      at hread hechoed hupd
    split at hupd
    · next hst =>
      rw [if_pos hst] at hechoed
      rw [hupd, hechoed]
      have hw : it.loaded.refFramesIn + r.2.length ≤ buf.length := by omega
      refine ⟨⟨⟨h.shape.buffered, h.shape.framesIn, h.shape.proc, h.shape.status⟩,
        ⟨h.sized.proc, h.sized.procIn, ?_, ?_⟩⟩, rfl, ?_, fun _ => .inl hle⟩
      · exact (length_writeAt_of_le hw).trans hlen
      · exact hw.trans hlen.le
      · exact (take_writeAt r.2 (by omega)).trans (by rw [htake])
    · next hst =>
      rw [if_neg hst] at hechoed
      rw [hupd, hechoed, List.append_nil]
      refine ⟨⟨⟨h.shape.buffered, h.shape.framesIn, h.shape.proc, h.shape.status⟩,
        ⟨h.sized.proc, h.sized.procIn, hlen, ?_⟩⟩, rfl, htake, fun _ => .inl hle⟩
      exact hf.le.trans hle
  · have hechoed : it.echoed = [] := if_neg fun hc => he hc.2
    have hupd : it.updated = it.loaded := by
      unfold updated updateEchoReference
      split
      · next h1 => rw [if_neg fun h2 => he ⟨h1, h2⟩]
      · rfl
    rw [hupd, hechoed, List.append_nil]
    refine ⟨h, rfl, rfl, fun h1 => .inr ?_⟩
    exact not_lt.mp fun h2 => he ⟨h1, h2⟩

theorem pushed_echo (he : it.echo = true) :
    it.pushed = (reverseChain it.pass it.updated.refBuf 0 it.numPreprocessors
        (min it.updated.refFramesIn it.loaded.procFramesIn),
      { it.updated with
        refFramesIn := it.updated.refFramesIn - it.pushed.1
        refBuf := shift it.updated.refBuf it.updated.refFramesIn it.pushed.1 }) := by
  have hmin : (if it.updated.refFramesIn < it.loaded.procFramesIn then it.updated.refFramesIn
      else it.loaded.procFramesIn) = min it.updated.refFramesIn it.loaded.procFramesIn := by
    split <;> omega
  have hu : updateEchoReference it.loaded.procFramesIn it.pass it.loaded = it.updated :=
    (if_pos he).symm
  have hp : it.pushed = pushEchoReference it.numPreprocessors it.loaded.procFramesIn it.pass
      it.loaded := if_pos he
  rw [hp]
  simp only [pushEchoReference, hu, hmin]
  rfl

/-- What `push_echo_reference` leaves, and that no more is offered than there is. -/
theorem pushed_spec (h : it.loaded.Sound) (hl : it.loads = true) :
    it.pushed.2.Sound ∧ it.pushed.2.bufs.1 = it.loaded.bufs.1 ∧
      it.pushed.1 ≤ it.loaded.procFramesIn ∧ it.taken ≤ it.updated.refFramesIn ∧
      it.pushed.2.refQueue = it.updated.refQueue.drop it.taken := by
  obtain ⟨hu, hb, -, -⟩ := updated_spec h hl
  cases he : it.echo with
  | true =>
    have hp := pushed_echo he
    have ht : it.taken = it.pushed.1 := if_pos ⟨hl, he⟩
    have hle : it.pushed.1 ≤ min it.updated.refFramesIn it.loaded.procFramesIn := by
      rw [hp]
      exact reverseChain_le ..
    have hsz : it.updated.refFramesIn ≤ it.updated.refBuf.length := by
      rw [hu.sized.ref]
      exact hu.sized.refIn
    have h2 := congrArg Prod.snd hp
    rw [ht]
    generalize it.pushed.1 = count at hle h2 ⊢
    simp only at h2
    rw [h2]
    refine ⟨⟨⟨hu.shape.buffered, hu.shape.framesIn, hu.shape.proc, hu.shape.status⟩,
      ⟨hu.sized.proc, hu.sized.procIn, ?_, ?_⟩⟩, hb, by omega, by omega, ?_⟩
    · exact (length_shift hsz count).trans hu.sized.ref
    · exact (Nat.sub_le ..).trans hu.sized.refIn
    · exact take_shift hsz
  | false =>
    have hp : it.pushed = (it.loaded.procFramesIn, it.loaded) := if_neg (by simp [he])
    have ht : it.taken = 0 := if_neg (by simp [he])
    have hupd : it.updated = it.loaded := if_neg (by simp [he])
    rw [hp, ht, hupd]
    exact ⟨h, rfl, Nat.le_refl _, Nat.zero_le _, rfl⟩

theorem consumed_le : it.consumed ≤ it.pushed.1 := by
  unfold consumed chain
  split
  · exact processChain_le ..
  · exact Nat.zero_le _

/-- One iteration moves the two queues on. -/
theorem step_spec (h : it.before.Sound) :
    it.after.Sound ∧
      Moves it.before.procQueue it.delivered it.consumedFrames it.after.procQueue ∧
      Moves it.before.refQueue it.echoed it.takenFrames it.after.refQueue := by
  obtain ⟨hs, hq, href, -⟩ := loaded_spec h
  have hrq : it.loaded.refQueue = it.before.refQueue := by
    simp only [Capture.bufs, Prod.mk.injEq] at href
    rw [Capture.refQueue, Capture.refQueue, href.1, href.2.2]
  have hput : Moves it.before.procQueue it.delivered [] it.loaded.procQueue := hq ▸ .put _ _
  cases hl : it.loads with
  | true =>
    obtain ⟨hu, -, huq, -⟩ := updated_spec hs hl
    obtain ⟨hp, hpb, hle, htu, hpq⟩ := pushed_spec hs hl
    have hcons : it.consumed ≤ it.loaded.procFramesIn := consumed_le.trans hle
    simp only [Capture.bufs, Prod.mk.injEq] at hpb
    obtain ⟨hb1, hb2, hb3⟩ := hpb
    have hprocs : it.pushed.2.procQueue = it.loaded.procQueue := by
      rw [Capture.procQueue, Capture.procQueue, hb1, hb3]
    have hcf : it.consumedFrames = it.loaded.procQueue.take it.consumed := by
      rw [consumedFrames, hb1, Capture.procQueue, List.take_take, Nat.min_eq_left hcons]
    have htf : it.takenFrames = it.updated.refQueue.take it.taken := by
      rw [takenFrames, Capture.refQueue, List.take_take, Nat.min_eq_left htu]
    have hputr : Moves it.before.refQueue it.echoed [] it.updated.refQueue := by
      rw [huq, hrq]
      exact .put _ _
    obtain ⟨hc, hcq, hcr⟩ := consume_spec hp it.consumed
    rw [(ends_of_loads hl).2, hcq, hcr, hprocs, hpq, hcf, htf]
    refine ⟨hc, ?_, ?_⟩
    · simpa using hput.trans (.take _ it.consumed)
    · simpa using hputr.trans (.take _ it.taken)
  | false =>
    have hcf : it.consumedFrames = [] := by simp [consumedFrames, consumed, hl]
    have htf : it.takenFrames = [] := by simp [takenFrames, taken, hl]
    have he : it.echoed = [] := by simp [echoed, hl]
    rw [(ends_of_not_loads hl).2, hcf, htf, he, hrq]
    exact ⟨hs, hput, .refl _⟩

theorem inside_memcpy {size n count : Nat} (hn : n ≤ size) (hc : count ≤ n) :
    ∀ a ∈ Memcpy.accesses size ⟨0, count, n - count⟩, a.Inside := by
  intro a ha
  simp only [Memcpy.accesses, List.mem_cons, List.not_mem_nil, or_false] at ha
  rcases ha with rfl | rfl <;> simp only [Access.Inside] <;> omega

theorem refAccesses_inside (h : it.before.Sound) : ∀ a ∈ it.refAccesses, a.Inside := by
  intro a ha
  unfold refAccesses at ha
  split at ha
  · next hle =>
    obtain ⟨hl, he⟩ := hle
    obtain ⟨hs, -, -, -⟩ := loaded_spec h
    obtain ⟨hu, -, -, hroom⟩ := updated_spec hs hl
    obtain ⟨-, -, -, htu, -⟩ := pushed_spec hs hl
    have hin := hu.sized.refIn
    rcases List.mem_append.mp ha with ha | ha
    · split at ha
      · next hlt =>
        obtain rfl := List.mem_singleton.mp ha
        have := (hroom he).resolve_right (not_le.mpr hlt)
        simp only [Access.Inside]
        omega
      · cases ha
    · rcases List.mem_cons.mp ha with rfl | ha
      · simp only [Access.Inside]
        omega
      · obtain ⟨m, hm, ha⟩ := List.mem_flatMap.mp ha
        unfold refMemcpy at hm
        split at hm
        · obtain rfl := List.mem_singleton.mp hm
          exact inside_memcpy hin htu a ha
        · cases hm
  · cases ha

theorem procAccesses_inside (h : it.before.Sound) (hf : it.framesWr < it.frames) :
    ∀ a ∈ it.procAccesses, a.Inside := by
  intro a ha
  rcases List.mem_append.mp ha with ha | ha
  · split at ha
    · next hlt =>
      obtain rfl := List.mem_singleton.mp ha
      have := it.frames_le_grown
      simp only [Access.Inside]
      omega
    · cases ha
  · split at ha
    · next hl =>
      obtain ⟨hs, -, -, -⟩ := loaded_spec h
      obtain ⟨-, -, hle, -, -⟩ := pushed_spec hs hl
      have hin := hs.sized.procIn
      rcases List.mem_cons.mp ha with rfl | ha
      · simp only [Access.Inside]
        omega
      rcases List.mem_cons.mp ha with rfl | ha
      · simp only [Access.Inside]
        omega
      · obtain ⟨m, hm, ha⟩ := List.mem_flatMap.mp ha
        unfold procMemcpy at hm
        split at hm
        · obtain rfl := List.mem_singleton.mp hm
          exact inside_memcpy hin (consumed_le.trans hle) a ha
        · cases hm
    · cases ha

/-! ### What the client gets -/

omit [Zero α] in
/-- A chain of preprocessors that may produce `o` frames writes within `m ≥ o`. -/
theorem processChain_room (p : ProcessPass α) (buf : List α) (k n i : Nat) {o m : Nat}
    (out : List α) (ho : o ≤ m) (hout : out.length ≤ m) :
    (processChain p buf k n i o out).2.1 ≤ o ∧ (processChain p buf k n i o out).2.2.length ≤ m := by
  induction n generalizing k i o out with
  | zero => exact ⟨Nat.le_refl _, hout⟩
  | succ n ih =>
    have hp := p.produced_le k (buf.take i) o
    have hw : (writeAt out 0 (p.process k (buf.take i) o).2).length ≤ m := by
      simp only [writeAt, List.length_append, List.length_take, List.length_drop]
      omega
    obtain ⟨h1, h2⟩ := ih (k + 1) (p.process k (buf.take i) o).1 _ (hp.trans ho) hw
    exact ⟨h1.trans hp, h2⟩

theorem produced_spec (hn : it.numPreprocessors ≠ 0) :
    it.producedFrames.length = it.produced ∧ it.produced ≤ it.frames - it.framesWr ∧
      it.chain.2.2.length ≤ it.frames - it.framesWr := by
  obtain ⟨hp, hl⟩ := processChain_room it.pass it.pushed.2.procBuf 0 it.numPreprocessors it.pushed.1
    [] (Nat.le_refl (it.frames - it.framesWr)) (Nat.zero_le _)
  have hw := processChain_written it.pass it.pushed.2.procBuf 0 it.numPreprocessors it.pushed.1
    (it.frames - it.framesWr) [] hn
  have hle : it.produced ≤ it.chain.2.1 := by
    unfold produced
    split
    · exact Nat.le_refl _
    · exact Nat.zero_le _
  refine ⟨?_, hle.trans hp, hl⟩
  rw [producedFrames, List.length_take]
  exact Nat.min_eq_left (hle.trans hw)

/-- The client's buffer after a pass that produced its frames. -/
theorem dst_of_loads (hl : it.loads = true) (hn : it.numPreprocessors ≠ 0) {dst : List α}
    (hd : it.framesWr ≤ it.frames) (hdst : it.frames ≤ dst.length) {out : List α}
    (ho : out = (processPass it.pcm it.resampler it.echo it.numPreprocessors it.frames it.framesWr
      it.pass dst it.before).2.1) :
    out.take (it.framesWr + it.produced) = dst.take it.framesWr ++ it.producedFrames ∧
      out.drop it.frames = dst.drop it.frames ∧ out.length = dst.length := by
  obtain ⟨hlen, -, hroom⟩ := produced_spec hn
  obtain ⟨-, -, hout⟩ := processPass_out it.pcm it.resampler it.echo it.numPreprocessors it.frames
    it.framesWr it.pass dst it.before
  have hchain : (processPass it.pcm it.resampler it.echo it.numPreprocessors it.frames it.framesWr
      it.pass [] it.before).2.1 = it.chain.2.2 := by
    obtain ⟨n, hn, hr⟩ := reload_loads hl
    simp only [processPass, hr, if_neg (not_lt.mpr hn), List.take_nil, List.drop_nil,
      List.nil_append]
    rfl
  have hpre : it.producedFrames = it.chain.2.2.take it.produced := rfl
  have hpl : it.produced ≤ it.chain.2.2.length := by
    rw [← hlen, hpre]
    exact List.length_take_le' ..
  rw [hchain, ← ho] at hout
  have hfront : (dst.take it.framesWr).length = it.framesWr :=
    List.length_take_of_le (hd.trans hdst)
  rw [hout]
  refine ⟨?_, ?_, ?_⟩
  · rw [List.take_append, hfront, List.take_of_length_le (by omega), Nat.add_sub_cancel_left,
      List.take_append_of_le_length hpl, hpre]
  · rw [List.drop_append, hfront, List.drop_eq_nil_of_le (by omega), List.nil_append,
      List.drop_append, List.drop_eq_nil_of_le hroom, List.nil_append, List.drop_drop,
      List.drop_drop]
    congr 1
    omega
  · rw [List.length_append, List.length_append, hfront, List.length_drop, List.length_drop]
    omega

/-- With reads that succeed, a pass does not fail. -/
theorem readStatus_after (h0 : it.before.readStatus = 0) {n : Nat} (hp : it.pcm = some n)
    (hok : ∀ q ∈ it.pass.reads, q.Ok) :
    it.after.readStatus = 0 ∧ (it.loads = false → it.ends = .hung) := by
  have hg : it.grown.readStatus = 0 := by
    unfold grown
    split <;> exact h0
  have hread : ∀ r, it.read = some r → r.capture.readStatus = 0 ∧ ∀ m, r.ret = some m → 0 ≤ m := by
    intro r hr
    unfold read at hr
    split at hr
    · cases hr
      rw [hp]
      exact readStatus_readFrames hg n _ _ hok 0 []
    · cases hr
  have hload : it.loaded.readStatus = 0 := by
    cases hr : it.read with
    | none => rwa [loaded, reload_none hr]
    | some r =>
      rw [loaded, reload_some hr]
      exact (hread r hr).1
  cases hl : it.loads with
  | true =>
    refine ⟨?_, fun hc => (by cases hc)⟩
    rw [(ends_of_loads hl).2]
    show it.pushed.2.readStatus = 0
    unfold pushed pushEchoReference updateEchoReference
    split
    · simp only [Capture.usePcm]
      split
      · split <;> split <;> exact hload
      · exact hload
    · exact hload
  | false =>
    obtain ⟨he, ha⟩ := ends_of_not_loads hl
    refine ⟨ha ▸ hload, fun _ => he.resolve_right ?_⟩
    rintro ⟨m, hm, hf⟩
    cases hr : it.read with
    | none => simp [loads, hr] at hl
    | some r =>
      have hret : r.ret ≠ none := by
        intro hnone
        have hrel := congrArg Prod.fst (reload_some hr)
        simp only [ends, processPass, hnone] at hrel hf
        split at hf
        · cases hf
        · next heq =>
          rw [heq] at hrel
          cases hrel
      obtain ⟨k, hk⟩ := Option.ne_none_iff_exists'.mp hret
      have h0 := (hread r hr).2 k hk
      simp only [loads, hr, hk, Option.all_some, Option.any_some, decide_eq_false_iff_not] at hl
      exact hl h0

end Iteration

/-! ## One call -/

section
variable {α : Type} [Zero α] {c : Capture α} {pcm : Option Nat} {resampler : Bool}

/-- Every `pcm_read` of the call succeeds. -/
def ProcessCall.Ok (call : ProcessCall α) : Prop := ∀ p ∈ call.passes, ∀ q ∈ p.reads, q.Ok

/-- A call that returns has filled the client's buffer, from `frames_wr` on. -/
theorem processFrames_filled (call : ProcessCall α) (h0 : c.readStatus = 0) {h : Nat}
    {passes : List (ProcessPass α)} (hok : ∀ p ∈ passes, ∀ q ∈ p.reads, q.Ok) {framesWr : Nat}
    (hle : framesWr ≤ call.frames) {dst : List α} (hdst : call.frames ≤ dst.length) {n : Int}
    (hr : (processFrames (some h) resampler call.echo call.numPreprocessors call.frames passes
      framesWr dst c).ret = some n) :
    n = call.frames ∧
      framesWr + ((call.iterationsFrom (some h) resampler passes framesWr c).flatMap
        Iteration.producedFrames).length = call.frames ∧
      (processFrames (some h) resampler call.echo call.numPreprocessors call.frames passes framesWr
        dst c).out = dst.take framesWr ++ (call.iterationsFrom (some h) resampler passes framesWr
          c).flatMap Iteration.producedFrames ++ dst.drop call.frames := by
  induction passes generalizing c framesWr dst with
  | nil =>
    simp only [processFrames, ProcessCall.iterationsFrom] at hr ⊢
    split at hr
    · cases hr
      obtain rfl : framesWr = call.frames := by omega
      simp
    · cases hr
  | cons p passes ih =>
    simp only [processFrames, ProcessCall.iterationsFrom] at hr ⊢
    split at hr
    · next hge =>
      cases hr
      obtain rfl : framesWr = call.frames := by omega
      simp
    · next hlt =>
      rw [if_neg hlt, if_neg hlt]
      obtain ⟨it, hit⟩ : ∃ it : Iteration α, it =
        ⟨some h, resampler, call.echo, call.numPreprocessors, call.frames, framesWr, p, c⟩ := ⟨_, rfl⟩
      have hends : (processPass (some h) resampler call.echo call.numPreprocessors call.frames framesWr
          p dst c).1 = it.ends := by
        rw [hit]
        exact (processPass_out ..).1
      have hafter : (processPass (some h) resampler call.echo call.numPreprocessors call.frames
          framesWr p dst c).2.2 = it.after := by
        rw [hit]
        exact (processPass_out ..).2.1
      obtain ⟨hst, hhung⟩ := it.readStatus_after (n := h) (by rw [hit]; exact h0) (by rw [hit])
        (by rw [hit]; exact hok p (List.mem_cons_self ..))
      obtain ⟨out, ho⟩ : ∃ out, out = (processPass (some h) resampler call.echo
        call.numPreprocessors call.frames framesWr p dst c).2.1 := ⟨_, rfl⟩
      rw [← hit]
      cases hl : it.loads with
      | false =>
        rw [hhung hl] at hends
        generalize processPass (some h) resampler call.echo call.numPreprocessors call.frames framesWr
          p dst c = r at hr hends
        obtain ⟨e, out', d⟩ := r
        obtain rfl : e = .hung := hends
        cases hr
      | true =>
        have hnext := (it.ends_of_loads hl).1
        have hn : it.numPreprocessors ≠ 0 := by
          rw [hit]
          exact call.preprocessed
        obtain ⟨hpl, hroom, -⟩ := it.produced_spec hn
        obtain ⟨hf, hw⟩ : it.frames = call.frames ∧ it.framesWr = framesWr := by
          rw [hit]
          exact ⟨rfl, rfl⟩
        have hle' : it.framesWr ≤ it.frames := by omega
        have hdst' : it.frames ≤ dst.length := by omega
        have ho' : out = (processPass it.pcm it.resampler it.echo it.numPreprocessors it.frames
            it.framesWr it.pass dst it.before).2.1 := by
          rw [hit]
          exact ho
        obtain ⟨ht, hd, hlen⟩ := it.dst_of_loads hl hn hle' hdst' ho'
        rw [hnext] at hends ⊢
        generalize processPass (some h) resampler call.echo call.numPreprocessors call.frames framesWr
          p dst c = r at hr hends hafter ho ⊢
        obtain ⟨e, out', d⟩ := r
        simp only at hends hafter ho
        subst hends hafter ho
        rw [hf] at hroom hd
        rw [hw] at hroom ht hr ⊢
        simp only [List.flatMap_cons, List.length_append, hpl] at hr ⊢
        have hle' : framesWr + it.produced ≤ call.frames := by omega
        have hdst' : call.frames ≤ out.length := by omega
        obtain ⟨h1, h2, h3⟩ := ih hst (fun q hq => hok q (List.mem_cons_of_mem _ hq)) hle' hdst' hr
        refine ⟨h1, by omega, ?_⟩
        rw [h3, ht, hd]
        simp only [List.append_assoc]

/-- All calls of a session together. -/
theorem session_moves (pcm : Option Nat) (resampler : Bool) (calls : List (ProcessCall α)) (hc : c.Sound) :
    (sessionEnd pcm resampler calls c).Sound ∧
      Moves c.procQueue ((sessionIterations pcm resampler calls c).flatMap Iteration.delivered)
        ((sessionIterations pcm resampler calls c).flatMap Iteration.consumedFrames)
        (sessionEnd pcm resampler calls c).procQueue ∧
      Moves c.refQueue ((sessionIterations pcm resampler calls c).flatMap Iteration.echoed)
        ((sessionIterations pcm resampler calls c).flatMap Iteration.takenFrames)
        (sessionEnd pcm resampler calls c).refQueue ∧
      ∀ it ∈ sessionIterations pcm resampler calls c, it.before.Sound ∧ it.framesWr < it.frames := by
  refine session_induction (R := fun c its c' => c.Sound → c'.Sound ∧
    Moves c.procQueue (its.flatMap Iteration.delivered) (its.flatMap Iteration.consumedFrames)
      c'.procQueue ∧
    Moves c.refQueue (its.flatMap Iteration.echoed) (its.flatMap Iteration.takenFrames)
      c'.refQueue ∧
    ∀ it ∈ its, it.before.Sound ∧ it.framesWr < it.frames) ?_ ?_ c hc
  · exact fun c hc => ⟨hc, .refl _, .refl _, fun it hit => (by cases hit)⟩
  · intro call _ it hit its c' ih hb
    obtain ⟨ha, hp, hr⟩ := it.step_spec hb
    obtain ⟨hc', hps, hrs, hall⟩ := ih ha
    refine ⟨hc', hp.trans hps, hr.trans hrs, fun jt hjt => ?_⟩
    rcases List.mem_cons.mp hjt with rfl | hjt
    · exact ⟨hb, hit.framesWr⟩
    · exact hall jt hjt

/-- The calls of a session start with no error pending. -/
theorem session_readStatus {h : Nat} {calls : List (ProcessCall α)} (h0 : c.readStatus = 0)
    (hok : ∀ call ∈ calls, call.Ok) :
    ∀ x ∈ session (some h) resampler calls c, x.2.readStatus = 0 ∧ x.1 ∈ calls := by
  induction calls generalizing c with
  | nil => exact fun x hx => (by cases hx)
  | cons call calls ih =>
    intro x hx
    rcases List.mem_cons.mp hx with rfl | hx
    · exact ⟨h0, List.mem_cons_self ..⟩
    · split at hx
      · have hend : (call.run (some h) resampler c).capture.readStatus = 0 := by
          have hstep : ∀ it : Iteration α, it.Of (some h) resampler call →
              it.before.readStatus = 0 → it.after.readStatus = 0 := fun it hit h0 =>
            (it.readStatus_after h0 hit.pcm (hok call (List.mem_cons_self ..) it.pass hit.pass)).1
          exact ProcessCall.cons_induction (R := fun c _ c' => c.readStatus = 0 → c'.readStatus = 0)
            [] _ (fun it hit its ih h0 => ih (hstep it hit h0)) (fun _ hp => hp) 0 call.dst c id h0
        obtain ⟨h1, h2⟩ := ih hend (fun call hc => hok call (List.mem_cons_of_mem _ hc)) x hx
        exact ⟨h1, List.mem_cons_of_mem _ h2⟩
      · cases hx

/-! ## Every stream that is open -/

omit [Zero α] in
theorem sound_newInput (devices : Devices) (config : AudioConfig) (mic : Nat → α) :
    (newInput devices config mic).capture.Sound :=
  ⟨⟨rfl, Nat.zero_le _, Nat.le_refl _, Int.le_refl _⟩,
    ⟨rfl, Nat.le_refl _, rfl, Nat.le_refl _⟩⟩

omit [Zero α] in
theorem Capture.Sound.restart (h : c.Sound) (resampler : Bool) : (c.restart resampler).Sound := by
  have hb := h.shape.buffered
  rw [Capture.buffered, List.length_drop] at hb
  have hle := h.shape.framesIn
  refine ⟨⟨?_, ?_, h.shape.proc, h.shape.status⟩, ⟨h.sized.proc, h.sized.procIn, h.sized.ref,
    h.sized.refIn⟩⟩
  · simp only [Capture.buffered, Capture.restart, List.length_drop]
    split <;> omega
  · simp only [Capture.restart]
    split <;> omega

theorem sound_processFrames (pcm : Option Nat) (resampler : Bool) (hc : c.Sound) (echo : Bool) (n frames : Nat)
    (passes : List (ProcessPass α)) (framesWr : Nat) (dst : List α) :
    (processFrames pcm resampler echo n frames passes framesWr dst c).capture.Sound := by
  induction passes generalizing c framesWr dst with
  | nil => exact hc
  | cons p passes ih =>
    obtain ⟨-, heq, -⟩ := processPass_out pcm resampler echo n frames framesWr p dst c
    obtain ⟨it, hit⟩ : ∃ it : Iteration α, it =
      ⟨pcm, resampler, echo, n, frames, framesWr, p, c⟩ := ⟨_, rfl⟩
    have hp := (it.step_spec (by rw [hit]; exact hc)).1
    rw [hit, Iteration.after, ← heq] at hp
    simp only [processFrames]
    split
    · exact hc
    · split
      · next h => rwa [h] at hp
      · next h => rwa [h] at hp
      · next h =>
        rw [h] at hp
        exact ih hp _ _

theorem sound_readPaths {inp : OmapStreamIn α} (h : inp.capture.Sound) (mute : Bool) (frames : Nat)
    (script : ReadScript α) (dst : List α) : (readPaths inp mute frames script dst).capture.Sound := by
  unfold readPaths
  by_cases hn : inp.numPreprocessors ≠ 0
  · have hs := sound_processFrames inp.pcm inp.resampler h inp.echoReference.isSome
      inp.numPreprocessors frames script.process 0 dst
    simp only [if_pos hn]
    exact ⟨⟨hs.shape.buffered, hs.shape.framesIn, hs.shape.proc, hs.shape.status⟩,
      ⟨hs.sized.proc, hs.sized.procIn, hs.sized.ref, hs.sized.refIn⟩⟩
  · simp only [if_neg hn]
    split
    · obtain ⟨hs, -, -⟩ := readFrames_spec h.shape inp.pcm inp.resampler script.read []
        (Nat.zero_le frames)
      have hb := (bufs_kept inp.pcm).readFrames inp.resampler frames script.read 0 [] inp.capture
      simp only [List.length_nil] at hs
      simp only [Capture.bufs, Prod.mk.injEq] at hb
      obtain ⟨⟨h1, h2, h3⟩, h4, h5, h6⟩ := hb
      refine ⟨⟨hs.buffered, hs.framesIn, hs.proc, hs.status⟩, ⟨?_, ?_, ?_, ?_⟩⟩
      · exact (congrArg List.length h1).trans (h.sized.proc.trans h2.symm)
      · exact h3.trans_le (h.sized.procIn.trans h2.ge)
      · exact (congrArg List.length h4).trans (h.sized.ref.trans h5.symm)
      · exact h6.trans_le (h.sized.refIn.trans h5.ge)
    · simp only [pcmRead_eq]
      exact ⟨⟨h.shape.buffered, h.shape.framesIn, h.shape.proc, h.shape.status⟩,
        ⟨h.sized.proc, h.sized.procIn, h.sized.ref, h.sized.refIn⟩⟩

variable {name : String} {alloc : Bool} {mixer : Option Mixer} {s₀ s : Hal α}

/-- What holds of the read side of a stream when it is opened, and is kept by starts and reads, holds
of every stream that is open. -/
theorem capture_run {P : Capture α → Prop}
    (hopen : ∀ devices config mic, P (newInput devices config mic).capture)
    (hstart : ∀ c resampler, P c → P (c.restart resampler))
    (hread : ∀ inp : OmapStreamIn α, P inp.capture → ∀ mute frames script dst,
      P (readPaths inp mute frames script dst).capture)
    (h0 : adevOpen name alloc mixer = .ok s₀) (h : Reach step s₀ s) {i : InId}
    {inp : OmapStreamIn α} (hi : s.ins i = some inp) : P inp.capture := by
  have hset : ∀ (v : Readers α) (i : InId) (r' : Option (Reader α)),
      (∀ i r, v.input i = some r → P r.capture) → (∀ r, r' = some r → P r.capture) →
      ∀ j r, (v.setInput i r').input j = some r → P r.capture := by
    intro v i r' hv hr' j r (hj : Function.update v.input i r' j = some r)
    by_cases hij : j = i
    · subst hij
      rw [Function.update_self] at hj
      exact hr' r hj
    · rw [Function.update_of_ne hij] at hj
      exact hv j r hj
  have hinv : ∀ i r, s.readers.input i = some r → P r.capture := by
    refine h.invariant_of (I := fun s => ∀ i r, s.readers.input i = some r → P r.capture)
      (J := fun s => s.readers.stereo = false) (fun _ hu => stereo_run h0 hu) ?_ ?_
    · obtain ⟨m, -, rfl⟩ := adevOpen_ok h0
      intro i r hr
      rw [readers_openDevice] at hr
      cases hr
    · intro u e t hJ hI _ ht
      cases readers_step u hJ ht with
      | same hv => exact hv ▸ hI
      | closed i hv => exact hv ▸ hset _ i _ hI nofun
      | opened i devices config mic hv =>
        refine hv ▸ hset _ i _ hI fun r hr => ?_
        cases hr
        exact hopen devices config mic
      | started i r hr hv =>
        refine hv ▸ hset _ i _ hI fun r' hr' => ?_
        cases hr'
        exact hstart _ r.resampler (hI i r hr)
      | read i frames dst script inp hev hi hv =>
        refine hv ▸ hset _ i _ hI fun r' hr' => ?_
        cases hr'
        have hin : u.readers.input i = some inp.reader := by
          show (u.ins i).map _ = _
          rw [hi]
          rfl
        exact hread inp (hI i _ hin) u.micMute frames script dst
  refine hinv i inp.reader ?_
  show (s.ins i).map _ = _
  rw [hi]
  rfl

theorem capture_sound (h0 : adevOpen name alloc mixer = .ok s₀) (h : Reach step s₀ s) {i : InId}
    {inp : OmapStreamIn α} (hi : s.ins i = some inp) : inp.capture.Sound :=
  capture_run sound_newInput (fun _ resampler hc => hc.restart resampler)
    (fun _ hc => sound_readPaths hc) h0 h hi

/-- Over any calls of `process_frames` on a running stream whose reads succeed: the two queues only
move on, the counts and every use of the buffers stay within their sizes, and a call that returns
has filled the client's buffer. -/
theorem frames_conserved (h0 : adevOpen name alloc mixer = .ok s₀) (h : Reach step s₀ s) {i : InId}
    {inp : OmapStreamIn α} (hi : s.ins i = some inp) (hrun : inp.standby = false)
    (hst : inp.capture.readStatus = 0) (calls : List (ProcessCall α))
    (hok : ∀ call ∈ calls, call.Ok) :
    let c := inp.capture
    let its := sessionIterations inp.pcm inp.resampler calls c
    let c' := sessionEnd inp.pcm inp.resampler calls c
    c.procQueue ++ its.flatMap Iteration.delivered =
        its.flatMap Iteration.consumedFrames ++ c'.procQueue ∧
      c.refQueue ++ its.flatMap Iteration.echoed =
        its.flatMap Iteration.takenFrames ++ c'.refQueue ∧
      c'.Sized ∧
      (∀ it ∈ its, it.loaded.Sized ∧ it.after.Sized ∧
        ∀ a ∈ it.procAccesses ++ it.refAccesses, a.Inside) ∧
      ∀ x ∈ session inp.pcm inp.resampler calls c, ∀ n,
        (x.1.run inp.pcm inp.resampler x.2).ret = some n →
        n = x.1.frames ∧
          ((x.1.iterations inp.pcm inp.resampler x.2).flatMap
            Iteration.producedFrames).length = x.1.frames ∧
          (x.1.run inp.pcm inp.resampler x.2).out =
            (x.1.iterations inp.pcm inp.resampler x.2).flatMap Iteration.producedFrames ++
              x.1.dst.drop x.1.frames := by
  obtain ⟨n, hp, -⟩ := ((streams_ok h0 h).inOrder.idle_eq_false_iff (slot_inp hi)).mp hrun
  have hp : inp.pcm = some n := hp
  obtain ⟨hend, hproc, href, hall⟩ := session_moves inp.pcm inp.resampler calls
    (capture_sound h0 h hi)
  refine ⟨hproc, href, hend.sized, fun it hit => ?_, fun x hx m hret => ?_⟩
  · obtain ⟨hb, hf⟩ := hall it hit
    refine ⟨(it.loaded_spec hb).1.sized, (it.step_spec hb).1.sized, fun a ha => ?_⟩
    exact (List.mem_append.mp ha).elim (it.procAccesses_inside hb hf a) (it.refAccesses_inside hb a)
  · rw [hp] at hx hret ⊢
    obtain ⟨hxs, hxc⟩ := session_readStatus hst hok x hx
    obtain ⟨h1, h2, h3⟩ := processFrames_filled x.1 hxs (hok x.1 hxc) (Nat.zero_le _) x.1.fits hret
    rw [Nat.zero_add] at h2
    rw [List.take_zero, List.nil_append] at h3
    exact ⟨h1, h2, h3⟩

end

/-- A stream with a preprocessor is started. -/
def listen : List (Event Nat) :=
  [.openInputStream 0 audioDeviceInBuiltinMic ⟨48000, 1, 1⟩ ⟨true, true, true, id⟩,
    .inAddAudioEffect 0 ⟨0, false⟩ 0, .inRead 0 2 true true]

/-- Two calls, the second with an echo reference; the first leaves a frame over. -/
def twoCalls : List (ProcessCall Nat) :=
  [⟨false, 1, 2, [.limited 0 1 2], [0, 0], by decide, by decide⟩,
    ⟨true, 1, 3, [.limited 1 1 1, .limited 2 3 3], [0, 0, 0], by decide, by decide⟩]

set_option maxRecDepth 8000 in
theorem frames_conserved_listen : ∃ s : Hal Nat, ∃ inp,
    exec step listen (openDevice fun _ => none) = some s ∧ s.ins 0 = some inp ∧
    (session inp.pcm inp.resampler twoCalls inp.capture).length = 2 ∧
    inp.capture.procQueue ++
        (sessionIterations inp.pcm inp.resampler twoCalls inp.capture).flatMap Iteration.delivered =
      (sessionIterations inp.pcm inp.resampler twoCalls inp.capture).flatMap
          Iteration.consumedFrames ++
        (sessionEnd inp.pcm inp.resampler twoCalls inp.capture).procQueue := by
  have hs : (exec step listen (openDevice fun _ => none)).map (fun s => (s.ins 0).map fun inp =>
      (inp.standby, inp.capture.readStatus,
        (session inp.pcm inp.resampler twoCalls inp.capture).length)) =
      some (some (false, 0, 2)) := rfl
  obtain ⟨s, hs, hp⟩ := Option.map_eq_some_iff.mp hs
  obtain ⟨inp, hi, hx⟩ := Option.map_eq_some_iff.mp hp
  simp only [Prod.mk.injEq] at hx
  have hok : ∀ call ∈ twoCalls, call.Ok := by
    intro call hc p hp q hq
    have hl : ∃ ref eat make, p = .limited ref eat make := by
      simp only [twoCalls, List.mem_cons, List.not_mem_nil, or_false] at hc
      rcases hc with rfl | rfl
      · exact ⟨_, _, _, List.mem_singleton.mp hp⟩
      · simp only [List.mem_cons, List.not_mem_nil, or_false] at hp
        rcases hp with rfl | rfl <;> exact ⟨_, _, _, rfl⟩
    obtain ⟨ref, eat, make, rfl⟩ := hl
    obtain rfl := List.mem_singleton.mp hq
    exact ⟨rfl, fun x hx => (by cases hx)⟩
  exact ⟨s, inp, hs, hi, hx.2.2,
    (frames_conserved (adevOpen_some _) (Reach.of_exec hs) hi hx.1 hx.2.1 twoCalls hok).1⟩

end P970.Audio
