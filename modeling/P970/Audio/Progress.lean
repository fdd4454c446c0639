import P970.Audio.Leftovers
import P970.Audio.Returns

/-!
# The loop of `process_frames` comes to an end

The preprocessors have to consume or to produce a frame when they are offered one
(`ProcessPass.Lively`), and keep a bounded number of frames back. Then an
iteration that gets out of `read_frames` gets the call further exactly when it is
not stalled (`Iteration.progress_iff`): `proc_buf` is full, so nothing is read,
the echo reference has delivered nothing to set against it, so nothing is
offered, and nothing comes out. A call none of whose iterations is stalled
returns (`process_frames_returns`), and one whose echo reference stays silent
never does (`spins`, `process_frames_spins`).
-/

namespace P970.Audio

open P970.LockOrder (Op)

section
variable {α : Type}

/-- Offered a frame, `process_reverse()` consumes one; offered a frame and asked for one, the chain
of `n` `process()` consumes or produces one. -/
structure ProcessPass.Lively (n : Nat) (p : ProcessPass α) : Prop where
  reverse : ∀ k f, p.reverse k = some f → ∀ xs, xs ≠ [] → 0 < f xs
  process : ∀ buf inCount room, 0 < inCount → inCount ≤ buf.length → 0 < room →
    0 < (processChain p buf 0 n inCount room []).1 ∨
      0 < (processChain p buf 0 n inCount room []).2.1

theorem reverseChain_pos {p : ProcessPass α} {m : Nat} (hp : p.Lively m) (buf : List α) (k n : Nat)
    {count : Nat} (h0 : 0 < count) (hle : count ≤ buf.length) :
    0 < reverseChain p buf k n count := by
  induction n generalizing k count with
  | zero => exact h0
  | succ n ih =>
    rw [reverseChain]
    split
    · exact ih _ h0 hle
    · next f hf =>
      have hne : buf.take count ≠ [] := by
        rw [← List.length_pos_iff_ne_nil, List.length_take]
        omega
      have hfl := p.reverse_le k f hf (buf.take count)
      rw [List.length_take] at hfl
      refine ih _ (hp.reverse k f hf _ hne) ?_
      omega

end

namespace Iteration

variable {α : Type} [Zero α] {it : Iteration α}

/-- The pass gets the call further: a frame is read, or the preprocessors consume or produce one,
or the loop is left, `read_frames` having failed. -/
def Progress (it : Iteration α) : Prop :=
  it.delivered ≠ [] ∨ 0 < it.consumed ∨ 0 < it.produced ∨ ∃ n, it.ends = .failed n

/-- `proc_buf` holds what the call asks for, there is no frame of the reference to set against it,
and the preprocessors have none to hand out. -/
structure Stalled (it : Iteration α) : Prop where
  echo : it.echo = true
  full : it.frames ≤ it.before.procFramesIn
  refIn : it.before.refFramesIn = 0
  silent : (it.pass.echoRead it.before.procFramesIn).1.1 ≠ 0 ∨
    (it.pass.echoRead it.before.procFramesIn).2 = []
  dry : (processChain it.pass it.before.procBuf 0 it.numPreprocessors 0 (it.frames - it.framesWr)
    []).2.1 = 0

/-! ### What a pass reads -/

/-- With enough frames in `proc_buf` the pass reads none. -/
theorem not_read (h : it.frames ≤ it.before.procFramesIn) :
    it.loads = true ∧ it.delivered = [] ∧ it.loaded = it.before := by
  have hr : it.read = none := if_neg (not_lt.mpr h)
  refine ⟨?_, ?_, ?_⟩
  · rw [loads, hr]
    rfl
  · simp only [delivered, hr]
  · rw [loaded, reload_none hr]

/-- With too few it reads those that are missing. -/
theorem length_delivered (h : it.before.Sound) (hl : it.loads = true) :
    it.before.procFramesIn + it.delivered.length = max it.before.procFramesIn it.frames := by
  cases hr : it.read with
  | none =>
    have hf : it.frames ≤ it.before.procFramesIn := by
      unfold read at hr
      split at hr
      · cases hr
      · omega
    simp only [delivered, hr, List.length_nil]
    omega
  | some r =>
    obtain ⟨hlt, -, -, -, hn⟩ := read_spec h hr
    have hret : ∃ n, r.ret = some n ∧ 0 ≤ n := by
      simpa only [loads, hr, Option.all_some, Option.any_eq_true, decide_eq_true_eq] using hl
    obtain ⟨n, hret, h0⟩ := hret
    obtain ⟨-, hlen⟩ := hn n hret h0
    simp only [delivered, hr, hl, if_true, hlen]
    omega

/-- The counts of a pass. -/
theorem step_counts (h : it.before.Sound) :
    it.before.procFramesIn + it.delivered.length = it.consumed + it.after.procFramesIn ∧
      it.after.procFramesIn ≤ max it.before.procFramesIn it.frames := by
  obtain ⟨hs, hq, -, -⟩ := loaded_spec h
  have hlen := congrArg List.length hq
  rw [List.length_append, hs.sized.length_procQueue, h.sized.length_procQueue] at hlen
  cases hl : it.loads with
  | true =>
    obtain ⟨-, hb, hle, -, -⟩ := pushed_spec hs hl
    have hin : it.pushed.2.procFramesIn = it.loaded.procFramesIn := by
      simp only [Capture.bufs, Prod.mk.injEq] at hb
      exact hb.2.2
    have hmax := length_delivered h hl
    have hc : it.consumed ≤ it.loaded.procFramesIn := consumed_le.trans hle
    have ha : it.after.procFramesIn = it.loaded.procFramesIn - it.consumed := by
      rw [(ends_of_loads hl).2, ← hin]
      rfl
    omega
  | false =>
    have hc : it.consumed = 0 := by simp [consumed, hl]
    have hd : it.delivered = [] := by
      unfold delivered
      split
      · rw [if_neg (by simp [hl])]
      · rfl
    rw [hd, List.length_nil] at hlen
    rw [(ends_of_not_loads hl).2, hc, hd, List.length_nil]
    omega

/-! ### Progress -/

/-- No frame of the reference is there after the echo read when none was before and none came. -/
theorem refFramesIn_updated (h : it.loaded.Sound) (hl : it.loads = true) :
    it.updated.refFramesIn = it.loaded.refFramesIn + it.echoed.length := by
  obtain ⟨hu, -, hq, -⟩ := updated_spec h hl
  have hlen := congrArg List.length hq
  rwa [List.length_append, hu.sized.length_refQueue, h.sized.length_refQueue] at hlen

theorem consumed_eq (hl : it.loads = true) : it.consumed = it.chain.1 := if_pos hl

theorem produced_eq (hl : it.loads = true) : it.produced = it.chain.2.1 := if_pos hl

/-- A pass that offers a frame gets further. -/
theorem progress_of_offered (h : it.before.Sound) (hw : it.framesWr < it.frames)
    (hp : it.pass.Lively it.numPreprocessors) (hl : it.loads = true) (ho : 0 < it.pushed.1) :
    it.Progress := by
  obtain ⟨hs, -, -, -⟩ := loaded_spec h
  obtain ⟨hps, hb, hle, -, -⟩ := pushed_spec hs hl
  have hbuf : it.pushed.1 ≤ it.pushed.2.procBuf.length := by
    simp only [Capture.bufs, Prod.mk.injEq] at hb
    have hin := hps.sized.procIn
    rw [hps.sized.proc]
    omega
  have hroom : 0 < it.frames - it.framesWr := by omega
  rcases hp.process it.pushed.2.procBuf it.pushed.1 _ ho hbuf hroom with hc | hc
  · exact .inr (.inl (consumed_eq hl ▸ hc))
  · exact .inr (.inr (.inl (produced_eq hl ▸ hc)))

/-- A pass that gets out of `read_frames` gets the call further exactly when it is not stalled. -/
theorem progress_iff (h : it.before.Sound) (hw : it.framesWr < it.frames)
    (hp : it.pass.Lively it.numPreprocessors) (hr : it.ends ≠ .hung) :
    it.Progress ↔ ¬ it.Stalled := by
  by_cases hf : it.frames ≤ it.before.procFramesIn
  · obtain ⟨hl, hd, hld⟩ := not_read hf
    have hs : it.loaded.Sound := hld ▸ h
    cases he : it.echo with
    | false =>
      have hpush : it.pushed.1 = it.loaded.procFramesIn := by
        rw [pushed, if_neg (by simp [he])]
      refine iff_of_true (progress_of_offered h hw hp hl ?_) fun hst => ?_
      · rw [hpush, hld]
        omega
      · rw [hst.echo] at he
        cases he
    | true =>
      have href := refFramesIn_updated hs hl
      rw [hld] at href
      have hpush := congrArg Prod.fst (pushed_echo he)
      simp only [hld] at hpush
      by_cases hu : it.updated.refFramesIn = 0
      · -- nothing is offered
        have h0 : it.before.refFramesIn = 0 := by omega
        have hecho : it.echoed = [] := List.length_eq_zero_iff.mp (by omega)
        have hoff : it.pushed.1 = 0 := by
          rw [hu, Nat.zero_min] at hpush
          exact Nat.le_zero.mp (hpush ▸ reverseChain_le ..)
        have hc : it.consumed = 0 := Nat.le_zero.mp (hoff ▸ consumed_le)
        have hbuf : it.pushed.2.procBuf = it.before.procBuf := by
          obtain ⟨-, hb, -, -, -⟩ := pushed_spec hs hl
          simp only [Capture.bufs, Prod.mk.injEq] at hb
          rw [hb.1, hld]
        have hprod : it.produced = (processChain it.pass it.before.procBuf 0 it.numPreprocessors 0
            (it.frames - it.framesWr) []).2.1 := by
          rw [produced_eq hl, chain, hbuf, hoff]
        have hends : it.ends = .next (it.framesWr + it.produced) := (ends_of_loads hl).1
        constructor
        · rintro (hne | hpos | hpos | ⟨n, hend⟩) hst
          · exact hne hd
          · omega
          · rw [hprod, hst.dry] at hpos
            cases hpos
          · rw [hends] at hend
            cases hend
        · intro hst
          refine .inr (.inr (.inl (Nat.pos_of_ne_zero fun hz => hst ?_)))
          refine ⟨he, hf, h0, ?_, hprod ▸ hz⟩
          have hcond : it.loads = true ∧ it.echo = true ∧
              it.loaded.refFramesIn < it.loaded.procFramesIn := by
            rw [hld]
            exact ⟨hl, he, by omega⟩
          rw [echoed, if_pos hcond, hld, h0, Nat.sub_zero] at hecho
          by_cases hok : (it.pass.echoRead it.before.procFramesIn).1.1 = 0
          · rw [if_pos hok] at hecho
            exact .inr hecho
          · exact .inl hok
      · refine iff_of_true (progress_of_offered h hw hp hl ?_) fun hst => hu ?_
        · have hin : it.updated.refFramesIn ≤ it.updated.refBuf.length := by
            obtain ⟨hup, -, -, -⟩ := updated_spec hs hl
            rw [hup.sized.ref]
            exact hup.sized.refIn
          rw [hpush]
          exact reverseChain_pos hp _ _ _ (by omega) (by omega)
        · have hecho : it.echoed = [] := by
            unfold echoed
            rw [hld, hst.refIn, Nat.sub_zero]
            split
            · simp only
              split
              · next hok => exact hst.silent.resolve_left (not_not.mpr hok)
              · rfl
            · rfl
          rw [href, hst.refIn, hecho, List.length_nil]
  · refine iff_of_true ?_ fun hst => hf hst.full
    cases hl : it.loads with
    | true =>
      have hlen := length_delivered h hl
      refine .inl fun hnil => ?_
      rw [hnil, List.length_nil] at hlen
      omega
    | false =>
      obtain ⟨n, -, he⟩ := (ends_of_not_loads hl).1.resolve_left hr
      exact .inr (.inr (.inr ⟨n, he⟩))

end Iteration

/-! ## A whole call -/

section
variable {α : Type} [Zero α] {pcm : Option Nat} {resampler : Bool} {c : Capture α}

theorem ProcessCall.forall_of (call : ProcessCall α) (hc : c.Sound) :
    ∀ it ∈ call.iterations pcm resampler c, it.before.Sound ∧
      it.before.periodSize = c.periodSize ∧ it.Of pcm resampler call := by
  have h := ProcessCall.cons_induction
    (R := fun c its _ => c.Sound → ∀ it ∈ its, it.before.Sound ∧
      it.before.periodSize = c.periodSize ∧ it.Of pcm resampler call) [] c
    (fun it (hit : it.Of pcm resampler call) its ih hb jt hjt => ?_) (fun _ hp => hp) 0 call.dst c
    (fun _ it hit => (by cases hit)) hc
  · rwa [List.append_nil] at h
  · rcases List.mem_cons.mp hjt with rfl | hjt
    · exact ⟨hb, rfl, hit⟩
    · obtain ⟨hs, hper, hof⟩ := ih (it.step_spec hb).1 jt hjt
      exact ⟨hs, hper.trans ((periodSize_kept it.pcm).processPass ..), hof⟩

/-- The frames read in a call are those consumed, and those it leaves in `proc_buf` more than it
found. -/
theorem ProcessCall.delivered_le (call : ProcessCall α) (pcm : Option Nat) (resampler : Bool)
    (hc : c.Sound) :
    ((call.iterations pcm resampler c).map fun it => it.delivered.length).sum ≤
      ((call.iterations pcm resampler c).map Iteration.consumed).sum +
        max c.procFramesIn call.frames := by
  have hR : c.Sound → c.procFramesIn +
        ((call.iterations pcm resampler c).map fun it => it.delivered.length).sum =
      ((call.iterations pcm resampler c).map Iteration.consumed).sum +
        (call.run pcm resampler c).capture.procFramesIn ∧
      (call.run pcm resampler c).capture.procFramesIn ≤ max c.procFramesIn call.frames := by
    have h := ProcessCall.cons_induction (R := fun c its c' => c.Sound →
        c.procFramesIn + (its.map fun it => it.delivered.length).sum =
          (its.map Iteration.consumed).sum + c'.procFramesIn ∧
        c'.procFramesIn ≤ max c.procFramesIn call.frames) []
      (call.run pcm resampler c).capture (fun it (hit : it.Of pcm resampler call) its ih hb => ?_)
      (fun _ hp => hp) 0 call.dst c (fun _ => ⟨Nat.add_comm _ 0, Nat.le_max_left ..⟩)
    · rwa [List.append_nil] at h
    · obtain ⟨h1, h2⟩ := it.step_counts hb
      obtain ⟨h3, h4⟩ := ih (it.step_spec hb).1
      rw [hit.frames] at h2
      simp only [List.map_cons, List.sum_cons]
      omega
  obtain ⟨h1, h2⟩ := hR hc
  omega

theorem ProcessCall.produced_le (call : ProcessCall α) (pcm : Option Nat) (resampler : Bool)
    (passes : List (ProcessPass α)) {framesWr : Nat} (hle : framesWr ≤ call.frames) (c : Capture α) :
    framesWr + ((call.iterationsFrom pcm resampler passes framesWr c).map Iteration.produced).sum ≤
      call.frames := by
  induction passes generalizing framesWr c with
  | nil => exact hle
  | cons p passes ih =>
    simp only [iterationsFrom]
    split
    · exact hle
    · next hlt =>
      obtain ⟨it, hit⟩ : ∃ it : Iteration α, it =
        ⟨pcm, resampler, call.echo, call.numPreprocessors, call.frames, framesWr, p, c⟩ := ⟨_, rfl⟩
      obtain ⟨hf, hw, hn⟩ : it.frames = call.frames ∧ it.framesWr = framesWr ∧
          it.numPreprocessors ≠ 0 := by
        rw [hit]
        exact ⟨rfl, rfl, call.preprocessed⟩
      obtain ⟨-, hroom, -⟩ := it.produced_spec hn
      rw [← hit, List.map_cons, List.sum_cons]
      cases hl : it.loads with
      | true =>
        rw [(it.ends_of_loads hl).1, hw]
        have hle' : framesWr + it.produced ≤ call.frames := by omega
        have := ih hle' it.after
        simp only
        omega
      | false =>
        have hnext : ∀ m, it.ends ≠ .next m := by
          intro m hm
          rcases (it.ends_of_not_loads hl).1 with he | ⟨_, -, he⟩ <;> rw [he] at hm <;> cases hm
        split
        · next m hm => exact absurd hm (hnext m)
        · simp only [List.map_nil, List.sum_nil]
          omega

theorem ProcessCall.iterationsFrom_done (call : ProcessCall α) {framesWr : Nat}
    (h : call.frames ≤ framesWr) (passes : List (ProcessPass α)) (c : Capture α) :
    call.iterationsFrom pcm resampler passes framesWr c = [] := by
  cases passes with
  | nil => rfl
  | cons p passes => exact if_pos h

theorem ProcessCall.iterationsFrom_next (call : ProcessCall α) {framesWr m : Nat}
    {p : ProcessPass α} {c : Capture α} (h : framesWr < call.frames)
    (he : (⟨pcm, resampler, call.echo, call.numPreprocessors, call.frames, framesWr, p, c⟩ :
      Iteration α).ends = .next m) (passes : List (ProcessPass α)) :
    call.iterationsFrom pcm resampler (p :: passes) framesWr c =
      ⟨pcm, resampler, call.echo, call.numPreprocessors, call.frames, framesWr, p, c⟩ ::
        call.iterationsFrom pcm resampler passes m
          (⟨pcm, resampler, call.echo, call.numPreprocessors, call.frames, framesWr, p, c⟩ :
            Iteration α).after := by
  rw [iterationsFrom, if_neg (not_le.mpr h)]
  simp only
  rw [he]

/-- A call that has not returned, and is not inside `read_frames`, has used up its passes. -/
theorem ProcessCall.ongoing (call : ProcessCall α) (passes : List (ProcessPass α)) (framesWr : Nat)
    (dst : List α) (c : Capture α)
    (hret : (processFrames pcm resampler call.echo call.numPreprocessors call.frames passes framesWr
      dst c).ret = none)
    (hh : ∀ it ∈ call.iterationsFrom pcm resampler passes framesWr c, it.ends ≠ .hung) :
    (call.iterationsFrom pcm resampler passes framesWr c).length = passes.length ∧
      ∀ it ∈ call.iterationsFrom pcm resampler passes framesWr c, ∃ m, it.ends = .next m := by
  induction passes generalizing framesWr dst c with
  | nil => exact ⟨rfl, fun it hit => (by cases hit)⟩
  | cons p passes ih =>
    have hlt : ¬ call.frames ≤ framesWr := by
      intro hle
      rw [processFrames, if_pos hle] at hret
      cases hret
    rw [iterationsFrom, if_neg hlt] at hh ⊢
    obtain ⟨it, hit⟩ : ∃ it : Iteration α, it =
      ⟨pcm, resampler, call.echo, call.numPreprocessors, call.frames, framesWr, p, c⟩ := ⟨_, rfl⟩
    simp only [← hit] at hh ⊢
    cases he : it.ends with
    | hung => exact absurd he (hh it (List.mem_cons_self ..))
    | failed n =>
      obtain ⟨h1, -, -⟩ := processPass_out pcm resampler call.echo call.numPreprocessors call.frames
        framesWr p dst c
      have h1 : (processPass pcm resampler call.echo call.numPreprocessors call.frames framesWr p dst
          c).1 = .failed n := by
        rw [h1, ← he, hit]
        rfl
      rw [processFrames, if_neg hlt] at hret
      generalize processPass pcm resampler call.echo call.numPreprocessors call.frames framesWr p dst
        c = r at hret h1
      obtain ⟨e, out, d⟩ := r
      obtain rfl : e = .failed n := h1
      cases hret
    | next m =>
      rw [he] at hh
      have hw : it.framesWr < it.frames := by
        rw [hit]
        exact not_le.mp hlt
      obtain ⟨out, hrun⟩ := Iteration.processFrames_next he hw passes dst
      rw [hit] at hrun
      rw [hrun] at hret
      obtain ⟨hlen, hall⟩ := ih m out it.after (hit ▸ hret)
        fun jt hjt => hh jt (List.mem_cons_of_mem _ hjt)
      refine ⟨by simp only [List.length_cons, hlen], fun jt hjt => ?_⟩
      rcases List.mem_cons.mp hjt with rfl | hjt
      · exact ⟨m, he⟩
      · exact hall jt hjt

/-- A call whose iterations all get it further takes no more passes than it can read, consume and
produce frames, if it consumes at most `bound` more than it produces. -/
theorem ProcessCall.passes_le (call : ProcessCall α) (hc : c.Sound) {bound : Nat}
    (hprog : ∀ it ∈ call.iterations pcm resampler c, it.Progress)
    (hbuf : ((call.iterations pcm resampler c).map Iteration.consumed).sum ≤
      ((call.iterations pcm resampler c).map Iteration.produced).sum + bound)
    (hret : (call.run pcm resampler c).ret = none)
    (hh : ∀ it ∈ call.iterations pcm resampler c, it.ends ≠ .hung) :
    call.passes.length ≤ 4 * call.frames + 2 * bound + c.procFramesIn := by
  obtain ⟨hlen, hnext⟩ := call.ongoing call.passes 0 call.dst c hret hh
  have hprod := call.produced_le pcm resampler call.passes
    (Nat.zero_le call.frames) c
  have hdel := call.delivered_le pcm resampler hc
  have hone : ∀ n ∈ (call.iterations pcm resampler c).map fun it =>
      it.delivered.length + it.consumed + it.produced, 1 ≤ n := by
    intro n hn
    obtain ⟨it, hit, rfl⟩ := List.mem_map.mp hn
    rcases hprog it hit with h | h | h | ⟨n, hend⟩
    · have := List.length_pos_iff_ne_nil.mpr h
      omega
    · omega
    · omega
    · obtain ⟨m, hm⟩ := hnext it hit
      rw [hend] at hm
      cases hm
  have hle := List.length_le_sum_of_one_le _ hone
  simp only [List.length_map, List.sum_map_add] at hle
  have hlen : (call.iterations pcm resampler c).length = call.passes.length := hlen
  have hprod : 0 + ((call.iterations pcm resampler c).map Iteration.produced).sum ≤ _ := hprod
  omega

/-- The call of `process_frames` that `in_read` makes on the stream. -/
def OmapStreamIn.processCall (inp : OmapStreamIn α) (hn : inp.numPreprocessors ≠ 0) {frames : Nat}
    {dst : List α} (hf : frames ≤ dst.length) (passes : List (ProcessPass α)) : ProcessCall α :=
  ⟨inp.echoReference.isSome, inp.numPreprocessors, frames, passes, dst, hn, hf⟩

/-- Its iterations. -/
def OmapStreamIn.iterations (inp : OmapStreamIn α) (hn : inp.numPreprocessors ≠ 0) {frames : Nat}
    {dst : List α} (hf : frames ≤ dst.length) (passes : List (ProcessPass α)) :
    List (Iteration α) :=
  (inp.processCall hn hf passes).iterations inp.pcm inp.resampler inp.capture

variable {s : Hal α} {i : InId} {inp : OmapStreamIn α}

/-- `in_read` returns when its `process_frames` does, and then gives the stream lock back. -/
theorem inReadData_process (hi : s.ins i = some inp) (hn : inp.numPreprocessors ≠ 0) {frames : Nat}
    {dst : List α} (hf : frames ≤ dst.length) (passes : List (ProcessPass α)) :
    ((inReadData i frames dst ⟨passes, [], .ok⟩ s).1.isSome =
        ((inp.processCall hn hf passes).run inp.pcm inp.resampler inp.capture).ret.isSome) ∧
      ((inReadData i frames dst ⟨passes, [], .ok⟩ s).1.isSome = true →
        Op.unlock (.inp i) ∈ (inReadData i frames dst ⟨passes, [], .ok⟩ s).2.2.trace) := by
  constructor
  · simp only [inReadData, hi, readPaths, if_pos hn, Option.isSome_map]
    rfl
  · intro h
    simp only [inReadData, hi] at h ⊢
    rw [if_pos h, trace_unlock]
    exact List.mem_append_right _ (List.mem_singleton_self _)

variable {name : String} {alloc : Bool} {mixer : Option Mixer} {s₀ : Hal α}

/-- With reads that suffice, lively preprocessors that keep at most `bound` frames back, and no
iteration stalled, every iteration gets the call further, and after some number of them it has
returned and given the stream lock back. -/
theorem process_frames_returns (h0 : adevOpen name alloc mixer = .ok s₀) (h : Reach step s₀ s)
    (hi : s.ins i = some inp) (hn : inp.numPreprocessors ≠ 0) {frames : Nat} {dst : List α}
    (hf : frames ≤ dst.length) (passes : Nat → ProcessPass α) (bound : Nat)
    (hfed : ∀ k, (passes k).Feeds inp.resampler frames)
    (hlive : ∀ k, (passes k).Lively inp.numPreprocessors)
    (hbuf : ∀ k, ((inp.iterations hn hf ((List.range k).map passes)).map Iteration.consumed).sum ≤
      ((inp.iterations hn hf ((List.range k).map passes)).map Iteration.produced).sum + bound)
    (hflow : ∀ k, ∀ it ∈ inp.iterations hn hf ((List.range k).map passes), ¬ it.Stalled) :
    (∀ k, ∀ it ∈ inp.iterations hn hf ((List.range k).map passes), it.Progress) ∧
      ∃ k, (inReadData i frames dst ⟨(List.range k).map passes, [], .ok⟩ s).1.isSome = true ∧
        Op.unlock (.inp i) ∈
          (inReadData i frames dst ⟨(List.range k).map passes, [], .ok⟩ s).2.2.trace := by
  have hc := capture_sound h0 h hi
  have hper : 0 < inp.capture.periodSize := by
    rw [periodSize_run h0 h hi]
    decide
  have hof : ∀ k, ∀ it ∈ inp.iterations hn hf ((List.range k).map passes), it.ends ≠ .hung ∧
      it.Progress := by
    intro k it hit
    obtain ⟨hb, hpb, hof⟩ := ProcessCall.forall_of _ hc it hit
    obtain ⟨j, -, hj⟩ := List.mem_map.mp hof.pass
    have hpass : it.pass.Feeds it.resampler it.frames := by
      rw [hof.resampler, hof.frames, ← hj]
      exact hfed j
    have hp : it.pass.Lively it.numPreprocessors := by
      rw [hof.numPreprocessors, ← hj]
      exact hlive j
    have hhung := it.not_hung hb (hpb ▸ hper) hpass
    exact ⟨hhung, (it.progress_iff hb hof.framesWr hp hhung).mpr (hflow k it hit)⟩
  refine ⟨fun k it hit => (hof k it hit).2, ?_⟩
  -- one pass more than the call can use
  obtain ⟨k, hk⟩ : ∃ k, k = 4 * frames + 2 * bound + inp.capture.procFramesIn + 1 := ⟨_, rfl⟩
  obtain ⟨hret, hunlock⟩ := inReadData_process hi hn hf ((List.range k).map passes)
  have hsome : (inReadData i frames dst ⟨(List.range k).map passes, [], .ok⟩ s).1.isSome = true := by
    by_contra hcon
    have hnone : ((inp.processCall hn hf ((List.range k).map passes)).run inp.pcm inp.resampler
        inp.capture).ret = none := by
      rw [← Option.not_isSome_iff_eq_none, ← hret]
      exact hcon
    have hle := ProcessCall.passes_le _ hc (fun it hit => (hof k it hit).2) (hbuf k) hnone
      fun it hit => (hof k it hit).1
    simp only [OmapStreamIn.processCall, List.length_map, List.length_range] at hle
    omega
  exact ⟨k, hsome, hunlock hsome⟩

/-! ## An echo reference that stays silent -/

/-- The echo reference delivers nothing, and the preprocessors hand on only what they are offered. -/
structure ProcessPass.Starved (p : ProcessPass α) : Prop where
  echoRead : ∀ n, (p.echoRead n).2 = []
  process : ∀ k room, p.process k [] room = (0, [])

omit [Zero α] in
theorem processChain_starved {p : ProcessPass α} (hp : p.Starved) (buf : List α) (k : Nat) {n o : Nat}
    (h : n ≠ 0 ∨ o = 0) (out : List α) :
    (processChain p buf k n 0 o out).1 = 0 ∧ (processChain p buf k n 0 o out).2.1 = 0 := by
  induction n generalizing k o out with
  | zero => exact ⟨rfl, h.resolve_left (not_not.mpr rfl)⟩
  | succ n ih =>
    rw [processChain, List.take_zero, hp.process]
    exact ih (k + 1) (.inr rfl) _

/-- An iteration that finds no frame of the reference leaves everything as it loaded it. -/
theorem Iteration.starved_step {it : Iteration α} (h : it.before.Sound) (hp : it.pass.Starved)
    (hn : it.numPreprocessors ≠ 0) (he : it.echo = true) (href : it.before.refFramesIn = 0)
    (hl : it.loads = true) :
    it.ends = .next it.framesWr ∧ it.consumed = 0 ∧ it.produced = 0 ∧
      it.after.procFramesIn = it.loaded.procFramesIn ∧ it.after.refFramesIn = 0 := by
  obtain ⟨hs, -, hb, -⟩ := loaded_spec h
  simp only [Capture.bufs, Prod.mk.injEq] at hb
  have hecho : it.echoed = [] := by
    unfold echoed
    split
    · simp only [hp.echoRead, ite_self]
    · rfl
  have hu : it.updated.refFramesIn = 0 := by
    rw [refFramesIn_updated hs hl, hb.2.2, href, hecho]
    rfl
  have hpush : it.pushed.1 = 0 := by
    have hfst := congrArg Prod.fst (pushed_echo he)
    simp only [hu, Nat.zero_min] at hfst
    exact Nat.le_zero.mp (hfst ▸ reverseChain_le ..)
  obtain ⟨hc, hpr⟩ := processChain_starved hp it.pushed.2.procBuf 0 (o := it.frames - it.framesWr)
    (.inl hn) []
  have hcons : it.consumed = 0 := by rw [consumed_eq hl, chain, hpush, hc]
  have hprod : it.produced = 0 := by rw [produced_eq hl, chain, hpush, hpr]
  obtain ⟨hends, hafter⟩ := ends_of_loads hl
  obtain ⟨-, hpb, -, -, -⟩ := pushed_spec hs hl
  simp only [Capture.bufs, Prod.mk.injEq] at hpb
  refine ⟨by rw [hends, hprod, Nat.add_zero], hcons, hprod, ?_, ?_⟩
  · rw [hafter, hcons]
    exact hpb.2.2
  · have hsnd := congrArg (fun q => q.2.refFramesIn) (pushed_echo he)
    rw [hafter]
    show it.pushed.2.refFramesIn = 0
    rw [hsnd, hu, Nat.zero_sub]

/-- With `proc_buf` full and no frame of the reference, the call goes on for ever: every iteration is
stalled. -/
theorem spins (call : ProcessCall α) (pcm : Option Nat) (resampler : Bool) (he : call.echo = true)
    (passes : List (ProcessPass α)) (hp : ∀ p ∈ passes, p.Starved) {framesWr : Nat} (hw : framesWr < call.frames) (dst : List α)
    (hc : c.Sound) (hfull : call.frames ≤ c.procFramesIn) (href : c.refFramesIn = 0) :
    (processFrames pcm resampler call.echo call.numPreprocessors call.frames passes framesWr dst
      c).ret = none ∧
      ∀ it ∈ call.iterationsFrom pcm resampler passes framesWr c, it.Stalled ∧
        it.ends = .next framesWr ∧ it.consumed = 0 ∧ it.produced = 0 := by
  induction passes generalizing dst c with
  | nil => exact ⟨if_neg (not_le.mpr hw), fun it hit => (by cases hit)⟩
  | cons p passes ih =>
    obtain ⟨it, hit⟩ : ∃ it : Iteration α, it =
      ⟨pcm, resampler, call.echo, call.numPreprocessors, call.frames, framesWr, p, c⟩ := ⟨_, rfl⟩
    have hstarved : it.pass.Starved := by
      rw [hit]
      exact hp p (List.mem_cons_self ..)
    have hn : it.numPreprocessors ≠ 0 := by
      rw [hit]
      exact call.preprocessed
    have hb : it.before.Sound := by
      rw [hit]
      exact hc
    obtain ⟨hecho, hf, hr, hlt, hfr⟩ : it.echo = true ∧ it.frames ≤ it.before.procFramesIn ∧
        it.before.refFramesIn = 0 ∧ it.framesWr < it.frames ∧ it.framesWr = framesWr := by
      rw [hit]
      exact ⟨he, hfull, href, hw, rfl⟩
    obtain ⟨hl, -, hld⟩ := it.not_read hf
    obtain ⟨hends, hcons, hprod, hpin, hrin⟩ := it.starved_step hb hstarved hn hecho hr hl
    have hstalled : it.Stalled := ⟨hecho, hf, hr, .inr (hstarved.echoRead _),
      (processChain_starved hstarved _ 0 (.inl hn) []).2⟩
    obtain ⟨out, hrun⟩ := it.processFrames_next hends hlt passes dst
    have hfull' : call.frames ≤ it.after.procFramesIn := by
      rw [hpin, hld, hit]
      exact hfull
    obtain ⟨hret, hall⟩ := ih (fun q hq => hp q (List.mem_cons_of_mem _ hq)) out
      (it.step_spec hb).1 hfull' hrin
    rw [hfr] at hends
    constructor
    · rw [hfr] at hrun
      rw [hit] at hrun hret
      rw [hrun]
      exact hret
    · intro jt hjt
      rw [ProcessCall.iterationsFrom, if_neg (not_le.mpr hw)] at hjt
      simp only [← hit, hends] at hjt
      rcases List.mem_cons.mp hjt with rfl | hjt
      · exact ⟨hstalled, hends, hcons, hprod⟩
      · exact hall jt hjt

end

/-- `ProcessPass.limited` with what it takes to read three frames. -/
def ProcessPass.limitedFed (ref eat make : Nat) : ProcessPass Nat :=
  { ProcessPass.limited ref eat make with reads := List.replicate 3 ⟨.ok, [(1, 1, .ok)], id⟩ }

theorem lively_limitedFed (ref : Nat) {eat : Nat} (make : Nat) (h : 0 < eat) :
    (ProcessPass.limitedFed ref eat make).Lively 1 where
  reverse k f hf xs hx := by
    cases hf
    exact List.length_pos_iff_ne_nil.mpr hx
  process buf inCount room h0 hle _ := by
    refine .inl ?_
    show 0 < min (buf.take inCount).length eat
    rw [List.length_take]
    omega

theorem feeds_limitedFed (resampler : Bool) (ref eat make : Nat) :
    (ProcessPass.limitedFed ref eat make).Feeds resampler 3 where
  enough := Nat.le_refl 3
  makes _ r hr := by
    obtain rfl := List.eq_of_mem_replicate hr
    exact makes_of_pull rfl Nat.one_pos Nat.one_pos fun _ h => h

/-- The first iteration of a call for three frames. -/
def firstIteration (inp : OmapStreamIn Nat) (p : ProcessPass Nat) : Iteration Nat :=
  ⟨inp.pcm, inp.resampler, inp.echoReference.isSome, inp.numPreprocessors, 3, 0, p, inp.capture⟩

theorem threeFrames : 3 ≤ ([0, 0, 0] : List Nat).length := Nat.le_refl 3

set_option maxRecDepth 8000 in
/-- All three frames are consumed, and the call returns. -/
theorem process_frames_returns_playAndListen : ∃ s : Hal Nat, ∃ inp,
    exec step playAndListen (openDevice fun _ => none) = some s ∧ s.ins 0 = some inp ∧
    inp.numPreprocessors ≠ 0 ∧ ∃ k,
      (inReadData 0 3 [0, 0, 0] ⟨(List.range k).map fun _ => .limitedFed 3 3 3, [], .ok⟩
        s).1.isSome = true ∧
      Op.unlock (.inp 0) ∈ (inReadData 0 3 [0, 0, 0]
        ⟨(List.range k).map fun _ => .limitedFed 3 3 3, [], .ok⟩ s).2.2.trace := by
  have hs : (exec step playAndListen (openDevice fun _ => none)).map (fun s =>
      (s.ins 0).map fun inp => (inp.numPreprocessors, inp.capture.procFramesIn,
        (firstIteration inp (.limitedFed 3 3 3)).ends,
        (firstIteration inp (.limitedFed 3 3 3)).consumed,
        (firstIteration inp (.limitedFed 3 3 3)).produced)) =
      some (some (1, 0, .next 3, 3, 3)) := rfl
  obtain ⟨s, hs, hp⟩ := Option.map_eq_some_iff.mp hs
  obtain ⟨inp, hi, hx⟩ := Option.map_eq_some_iff.mp hp
  simp only [Prod.mk.injEq] at hx
  obtain ⟨hnum, hin, hends, hcons, hprod⟩ := hx
  have hn : inp.numPreprocessors ≠ 0 := by omega
  have hits : ∀ k, inp.iterations hn threeFrames ((List.range k).map fun _ => .limitedFed 3 3 3) =
      if k = 0 then [] else [firstIteration inp (.limitedFed 3 3 3)] := by
    intro k
    rw [List.map_const', List.length_range]
    cases k with
    | zero => rfl
    | succ k =>
      have hfirst := ProcessCall.iterationsFrom_next
        (inp.processCall hn threeFrames (List.replicate (k + 1) (.limitedFed 3 3 3)))
        (m := 3) (show 0 < 3 by decide) hends (List.replicate k (.limitedFed 3 3 3))
      rw [if_neg (Nat.succ_ne_zero k)]
      exact hfirst.trans
        (congrArg (List.cons _) (ProcessCall.iterationsFrom_done _ (Nat.le_refl 3) _ _))
  refine ⟨s, inp, hs, hi, hn, (process_frames_returns (adevOpen_some _) (Reach.of_exec hs) hi hn
    threeFrames (fun _ => .limitedFed 3 3 3) 0 (fun _ => feeds_limitedFed inp.resampler 3 3 3)
    (fun _ => ?_) (fun k => ?_) fun k it hit hst => ?_).2⟩
  · rw [hnum]
    exact lively_limitedFed 3 3 (by decide)
  · rw [hits]
    split
    · exact Nat.le_refl _
    · simp only [List.map_cons, List.map_nil, hcons, hprod]
      exact Nat.le_refl _
  · rw [hits] at hit
    split at hit
    · cases hit
    · obtain rfl := List.mem_singleton.mp hit
      have hfull : 3 ≤ inp.capture.procFramesIn := hst.full
      omega

theorem starved_limitedFed (eat make : Nat) : (ProcessPass.limitedFed 0 eat make).Starved where
  echoRead n := by
    show List.replicate (min 0 n) 0 = []
    rw [Nat.zero_min]
    rfl
  process k room := by
    show (min 0 eat, ([] : List Nat).take _) = _
    rw [Nat.zero_min, List.take_nil]

set_option maxRecDepth 8000 in
/-- The three frames are read, the echo reference has none to deliver: `in_read` does not return,
whatever the number of passes, though their reads suffice. -/
theorem process_frames_spins : ∃ s : Hal Nat, ∃ inp, ∃ hn : inp.numPreprocessors ≠ 0,
    Reach step (openDevice fun _ => none) s ∧ s.ins 0 = some inp ∧ Call.inRead 0 3 ∈ s.calls ∧
    (ProcessPass.limitedFed 0 3 3).Feeds inp.resampler 3 ∧
    (ProcessPass.limitedFed 0 3 3).Lively inp.numPreprocessors ∧
    (∀ k, ∀ it ∈ inp.iterations hn threeFrames (List.replicate k (.limitedFed 0 3 3)),
      it.ends = .next 0 ∧ it.consumed = 0 ∧ it.produced = 0) ∧
    ∀ k, (inReadData 0 3 [0, 0, 0] ⟨List.replicate k (.limitedFed 0 3 3), [], .ok⟩ s).1 = none := by
  have hs : (exec step playAndListen (openDevice fun _ => none)).map (fun s =>
      (s.calls, (s.ins 0).map fun inp => (inp.numPreprocessors, inp.echoReference.isSome,
        inp.capture.refFramesIn, (firstIteration inp (.limitedFed 0 3 3)).loads,
        (firstIteration inp (.limitedFed 0 3 3)).loaded.procFramesIn))) =
      some ([.inRead 0 3], some (1, true, 0, true, 3)) := rfl
  obtain ⟨s, hs, hp⟩ := Option.map_eq_some_iff.mp hs
  obtain ⟨hcalls, hp⟩ := Prod.mk.inj hp
  obtain ⟨inp, hi, hx⟩ := Option.map_eq_some_iff.mp hp
  simp only [Prod.mk.injEq] at hx
  obtain ⟨hnum, hecho, href, hl, hin⟩ := hx
  have hn : inp.numPreprocessors ≠ 0 := by omega
  have hreach : Reach step (openDevice fun _ => none) s := Reach.of_exec hs
  have hb : inp.capture.Sound := capture_sound (adevOpen_some _) hreach hi
  obtain ⟨hends, hcons, hprod, hpin, hrin⟩ :=
    (firstIteration inp (.limitedFed 0 3 3)).starved_step hb (starved_limitedFed 3 3) hn hecho href
      hl
  have hfull : 3 ≤ (firstIteration inp (.limitedFed 0 3 3)).after.procFramesIn := by omega
  have hbef := ((firstIteration inp (.limitedFed 0 3 3)).step_spec hb).1
  have hrest : ∀ call : ProcessCall Nat, call.echo = true → call.frames = 3 → ∀ k dst, _ :=
    fun call he hf k dst => spins call inp.pcm inp.resampler he
      (List.replicate k (.limitedFed 0 3 3)) (fun p hp => List.eq_of_mem_replicate hp ▸ starved_limitedFed 3 3)
      (show 0 < call.frames by omega) dst hbef (hf ▸ hfull) hrin
  refine ⟨s, inp, hn, hreach, hi, ?_, feeds_limitedFed inp.resampler 0 3 3, ?_, fun k => ?_,
    fun k => ?_⟩
  · rw [hcalls]
    exact List.mem_cons_self ..
  · rw [hnum]
    exact lively_limitedFed 0 3 (by decide)
  · cases k with
    | zero => exact fun it hit => (by cases hit)
    | succ k =>
      intro it hit
      have hfirst := ProcessCall.iterationsFrom_next
        (inp.processCall hn threeFrames (List.replicate (k + 1) (.limitedFed 0 3 3)))
        (show 0 < 3 by decide) hends (List.replicate k (.limitedFed 0 3 3))
      rw [show inp.iterations hn threeFrames (List.replicate (k + 1) (.limitedFed 0 3 3)) = _ from
        hfirst] at hit
      rcases List.mem_cons.mp hit with rfl | hit
      · exact ⟨hends, hcons, hprod⟩
      · exact ((hrest _ hecho rfl k []).2 it hit).2
  · obtain ⟨hret, -⟩ := inReadData_process hi hn threeFrames (List.replicate k (.limitedFed 0 3 3))
    rw [← Option.not_isSome_iff_eq_none, hret, Option.not_isSome_iff_eq_none]
    cases k with
    | zero => rfl
    | succ k =>
      obtain ⟨out, hrun⟩ := (firstIteration inp (.limitedFed 0 3 3)).processFrames_next hends
        (show 0 < 3 by decide) (List.replicate k (.limitedFed 0 3 3)) [0, 0, 0]
      exact (congrArg Result.ret hrun).trans
        (hrest (inp.processCall hn threeFrames []) hecho rfl k out).1

end P970.Audio
