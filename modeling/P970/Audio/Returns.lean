import P970.Audio.Conservation

/-!
# `read_frames` returns

Each pass of `read_frames` makes a frame or leaves an error behind: a period of
the driver is not empty (`periodSize_run`), and a resampler that has not been
refused makes a frame (`ReadPass.Makes`). So as many passes as frames asked for
are enough (`readFrames_returns`), and an iteration of `process_frames` given
those is never stuck inside `read_frames` (`Iteration.not_hung`).
-/

namespace P970.Audio

section
variable {α : Type} {c : Capture α}

/-! ## The size of a period -/

theorem periodSize_kept (pcm : Option Nat) : KeptByPasses pcm fun c : Capture α => c.periodSize where
  reads :=
    { getNextBuffer := fun status b c => by
        cases pcm with
        | none => rfl
        | some n =>
          simp only [getNextBuffer, pcmRead_eq]
          split
          · split <;> rfl
          · rfl
      releaseBuffer := fun _ _ => rfl }
  bufs _ _ _ _ _ _ _ _ _ _ := rfl

/-! ## `read_frames` -/

/-- Unless its provider has left an error behind, the resampler makes a frame. -/
def ReadPass.Makes (p : ReadPass α) : Prop :=
  ∀ pcm (c : Capture α), c.Shape → 0 < c.periodSize →
    (pullFrames pcm p.provider c).2.readStatus = 0 →
    p.resample (pullFrames pcm p.provider c).1 ≠ []

/-- `get_next_buffer` offers a frame, or leaves an error behind. -/
theorem getNextBuffer_pos (hp : 0 < c.periodSize) (pcm : Option Nat) (status : Status) {n : Nat}
    (hn : 0 < n) (h0 : (getNextBuffer pcm status ⟨none, n⟩ c).2.2.readStatus = 0) :
    0 < (getNextBuffer pcm status ⟨none, n⟩ c).2.1.frameCount := by
  have hprov : ∀ c : Capture α, 0 < c.framesIn →
      0 < (provide ⟨none, n⟩ c).2.1.frameCount := by
    intro c hc
    simp only [provide]
    split
    · exact hc
    · exact hn
  cases pcm with
  | none =>
    have hst : (-enodev : Int) ≠ 0 := by decide
    exact absurd h0 hst
  | some k =>
    simp only [getNextBuffer, pcmRead_eq] at h0 ⊢
    split
    · next hf =>
      rw [if_pos hf] at h0
      split
      · next hst =>
        rw [if_pos hst] at h0
        exact absurd h0 hst
      · exact hprov _ hp
    · next hf => exact hprov _ (Nat.pos_of_ne_zero hf)

/-- A pass of `read_frames` writes a frame, or leaves an error behind. -/
theorem readPass_pos (h : c.Shape) (hp : 0 < c.periodSize) (pcm : Option Nat) (resampler : Bool)
    {n : Nat} (hn : 0 < n) {p : ReadPass α} (hm : resampler = true → p.Makes)
    (h0 : (readPass pcm resampler n p c).2.2.readStatus = 0) :
    0 < (readPass pcm resampler n p c).2.1 := by
  cases resampler with
  | true =>
    simp only [readPass, if_true] at h0 ⊢
    have hne := hm rfl pcm c h hp h0
    have hlen := List.length_pos_iff_ne_nil.mpr hne
    rw [List.length_take]
    omega
  | false =>
    have hpos := getNextBuffer_pos hp pcm p.status hn
    simp only [readPass, Bool.false_eq_true, if_false] at h0 ⊢
    split
    · next hraw =>
      simp only [hraw] at h0
      exact hpos h0
    · exact hn

/-- With a pass for every frame that is missing, `read_frames` returns. -/
theorem readFrames_returns (pcm : Option Nat) (resampler : Bool) {frames : Nat}
    (passes : List (ReadPass α)) (hm : resampler = true → ∀ p ∈ passes, p.Makes) {n : Nat}
    (henough : frames ≤ n + passes.length) (out : List α) (h : c.Shape) (hp : 0 < c.periodSize) :
    (readFrames pcm resampler frames passes n out c).ret.isSome = true := by
  induction passes generalizing n out c with
  | nil =>
    have hle : frames ≤ n := henough
    rw [readFrames, if_pos hle]
    rfl
  | cons p passes ih =>
    obtain ⟨hs, -, -⟩ := readPass_spec h pcm resampler (frames - n) p
    have hper := (periodSize_kept pcm).reads.readPass resampler (frames - n) p c
    have hmp : resampler = true → p.Makes := fun hr => hm hr p (List.mem_cons_self ..)
    simp only [readFrames]
    split
    · rfl
    · next hlt =>
      have hpos := readPass_pos h hp pcm resampler (show 0 < frames - n by omega) hmp
      split
      · rfl
      · next h0 =>
        have hpos := hpos (not_not.mp h0)
        rw [List.length_cons] at henough
        exact ih (fun hr q hq => hm hr q (List.mem_cons_of_mem _ hq)) (by omega) _ hs (hper ▸ hp)

/-- The pass can take every call of `read_frames` for at most `frames` frames to its end: there is
the outcome of a `pcm_read` for each frame that may be missing, and the resampler makes frames. -/
structure ProcessPass.Feeds (resampler : Bool) (frames : Nat) (p : ProcessPass α) : Prop where
  enough : frames ≤ p.reads.length
  makes : resampler = true → ∀ r ∈ p.reads, r.Makes

/-- A resampler that asks its provider once, for a frame, and makes at least one of each it is
given. -/
theorem makes_of_pull {p : ReadPass α} {ask use : Nat} {status : Status}
    (hp : p.provider = [(ask, use, status)]) (hask : 0 < ask) (huse : 0 < use)
    (hr : ∀ xs, xs ≠ [] → p.resample xs ≠ []) : p.Makes := by
  intro pcm c h hper h0
  refine hr _ ?_
  obtain ⟨hreads, ho⟩ := reads_getNextBuffer h pcm status ⟨none, ask⟩
  have hshape := hreads.shape
  have hpos := getNextBuffer_pos hper pcm status hask
  simp only [hp, pullFrames] at h0 ⊢
  generalize getNextBuffer pcm status ⟨none, ask⟩ c = g at ho hpos hshape h0 ⊢
  obtain ⟨st, b, d⟩ := g
  rcases ho with ⟨hb, hst⟩ | ⟨n, hn, hb⟩
  · simp only at hb
    subst hb
    exact absurd h0 hst
  · simp only at hb hn
    subst hb
    have hpos : 0 < n := hpos h0
    have hl : d.buffered.length = d.framesIn := hshape.buffered
    simp only [List.append_nil]
    rw [← List.length_pos_iff_ne_nil, List.length_take, hl]
    exact Nat.lt_min.mpr ⟨Nat.lt_min.mpr ⟨huse, hpos⟩, hpos.trans_le hn⟩

end

/-! ## Every stream that is open -/

section
variable {α : Type} [Zero α] {c : Capture α}

theorem periodSize_readPaths (inp : OmapStreamIn α) (mute : Bool) (frames : Nat)
    (script : ReadScript α) (dst : List α) :
    (readPaths inp mute frames script dst).capture.periodSize = inp.capture.periodSize := by
  unfold readPaths
  by_cases hn : inp.numPreprocessors ≠ 0
  · simp only [if_pos hn]
    exact (periodSize_kept inp.pcm).processFrames ..
  · simp only [if_neg hn]
    split
    · exact (periodSize_kept inp.pcm).reads.readFrames ..
    · simp only [pcmRead_eq]
      rfl

variable {name : String} {alloc : Bool} {mixer : Option Mixer} {s₀ s : Hal α}

/-- Every input stream reads periods of `SHORT_PERIOD_SIZE`. -/
theorem periodSize_run (h0 : adevOpen name alloc mixer = .ok s₀) (h : Reach step s₀ s) {i : InId}
    {inp : OmapStreamIn α} (hi : s.ins i = some inp) : inp.capture.periodSize = shortPeriodSize :=
  capture_run (P := fun c => c.periodSize = shortPeriodSize) (fun _ _ _ => rfl)
    (fun _ _ hc => hc)
    (fun inp hc mute frames script dst => (periodSize_readPaths inp mute frames script dst).trans hc)
    h0 h hi

namespace Iteration

/-- An iteration whose reads suffice gets out of `read_frames`. -/
theorem not_hung {it : Iteration α} (h : it.before.Sound) (hp : 0 < it.before.periodSize)
    (hf : it.pass.Feeds it.resampler it.frames) : it.ends ≠ .hung := by
  have hret : (reload it.pcm it.resampler it.frames it.pass it.before).1.isSome = true := by
    cases hr : it.read with
    | none =>
      rw [reload_none hr]
      rfl
    | some r =>
      obtain ⟨hs, -, -, -⟩ := grown_spec h
      have hper : it.grown.periodSize = it.before.periodSize := by
        unfold grown
        split <;> rfl
      have henough : it.frames - it.before.procFramesIn ≤ 0 + it.pass.reads.length := by
        have := hf.enough
        omega
      have hret := readFrames_returns it.pcm it.resampler it.pass.reads hf.makes henough []
        hs.shape (hper ▸ hp)
      unfold read at hr
      split at hr
      · next hlt =>
        rw [reload_some (if_pos hlt)]
        exact hret
      · cases hr
  intro hh
  unfold ends processPass at hh
  generalize reload it.pcm it.resampler it.frames it.pass it.before = r at hret hh
  obtain ⟨ret, d⟩ := r
  cases ret with
  | none => cases hret
  | some n =>
    simp only at hh
    split at hh <;> cases hh

end Iteration

end

end P970.Audio
