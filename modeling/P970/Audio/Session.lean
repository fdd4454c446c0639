import P970.Lib.Feed
import P970.Audio.Readers

/-!
# Capture sessions

Without a resampler, the read side of an input stream is a feed from the
microphone: what `read_frames` and `process_frames` copy, keep and let the
preprocessors consume are steps of `Passes` (`Capture.Sends`). Over a whole run
the frames handed out are in order and from the present session when no
`process_frames` finds frames left over from before a start or a direct read
(`freshLeftovers`, `frames_fresh`).
-/

namespace P970.Audio

section
variable {α : Type}

/-- The frames of `in->buffer` that count. -/
def Capture.buffered (c : Capture α) : List α := c.buffer.drop (c.periodSize - c.framesIn)

/-- The captured frames that `process_frames` will offer next. -/
def Capture.leftover (c : Capture α) : List α := c.procBuf.take c.procFramesIn ++ c.buffered

def Capture.feed (c : Capture α) : Feed α := ⟨c.leftover, c.captured⟩

structure Capture.Shape (c : Capture α) : Prop where
  buffered : c.buffered.length = c.framesIn
  framesIn : c.framesIn ≤ c.periodSize
  proc : c.procFramesIn ≤ c.procBuf.length
  status : c.readStatus ≤ 0

/-- `c'` comes from `c` by code that reads `xs` out of `in->buffer`, refilling it as needed. -/
structure Capture.Reads (c : Capture α) (xs : List α) (c' : Capture α) : Prop where
  passes : Passes c.mic ⟨c.buffered, c.captured⟩ xs ⟨c'.buffered, c'.captured⟩
  shape : c'.Shape
  proc : (c'.procBuf, c'.procFramesIn) = (c.procBuf, c.procFramesIn)
  mic : c'.mic = c.mic
  track : (c'.track.handed, c'.track.session, c'.track.resumed) =
    (c.track.handed, c.track.session, c.track.resumed)

variable {c c' c'' : Capture α} {xs ys : List α}

theorem Capture.Reads.refl (h : c.Shape) : c.Reads [] c := ⟨.refl _ _, h, rfl, rfl, rfl⟩

theorem Capture.Reads.trans (h : c.Reads xs c') (h' : c'.Reads ys c'') : c.Reads (xs ++ ys) c'' where
  passes := h.passes.trans (h.mic ▸ h'.passes)
  shape := h'.shape
  proc := h'.proc.trans h.proc
  mic := h'.mic.trans h.mic
  track := h'.track.trans h.track

theorem length_fresh (c : Capture α) (n : Nat) : (c.fresh n).length = n := by
  simp [Capture.fresh]

theorem fresh_eq (c : Capture α) (n : Nat) :
    c.fresh n = delivered c.mic c.captured (c.captured + n) := by
  rw [Capture.fresh, delivered, Nat.add_sub_cancel_left, List.range'_eq_map_range, List.map_map]
  rfl

theorem pcmRead_eq (c : Capture α) (frames : Nat) (status : Status) :
    pcmRead frames status c = (c.fresh (if status.1 = 0 then frames else 0),
      { c.usePcm with captured := c.captured + if status.1 = 0 then frames else 0 }) := by
  unfold pcmRead
  split <;> rfl

/-- What `get_next_buffer` does: it fails, or offers some of the frames that count. -/
theorem reads_getNextBuffer (h : c.Shape) (pcm : Option Nat) (status : Status)
    (b : ResamplerBuffer α) :
    c.Reads [] (getNextBuffer pcm status b c).2.2 ∧
    (((getNextBuffer pcm status b c).2.1 = ⟨none, 0⟩ ∧
        (getNextBuffer pcm status b c).2.2.readStatus ≠ 0) ∨
      ∃ n, n ≤ (getNextBuffer pcm status b c).2.2.framesIn ∧
        (getNextBuffer pcm status b c).2.1 =
          ⟨some (getNextBuffer pcm status b c).2.2.buffered, n⟩) := by
  have hprov : ∀ c : Capture α, ∃ n, n ≤ c.framesIn ∧ (provide b c).2.1 = ⟨some c.buffered, n⟩ := by
    intro c
    refine ⟨if b.frameCount > c.framesIn then c.framesIn else b.frameCount, ?_, rfl⟩
    split <;> omega
  cases pcm with
  | none =>
    have hst : (-enodev : Int) < 0 := by decide
    exact ⟨⟨.refl _ _, ⟨h.buffered, h.framesIn, h.proc, hst.le⟩, rfl, rfl, rfl⟩, .inl ⟨rfl, hst.ne⟩⟩
  | some _ =>
    unfold getNextBuffer
    by_cases hf : c.framesIn = 0
    · simp only [if_pos hf, pcmRead]
      by_cases hst : status.1 = 0
      · have hb : c.buffered = [] := List.length_eq_zero_iff.mp (h.buffered.trans hf)
        have hb' : List.drop (c.periodSize - c.periodSize) (c.fresh c.periodSize) =
            [] ++ delivered c.mic c.captured (c.captured + c.periodSize) := by
          rw [Nat.sub_self, List.drop_zero, List.nil_append]
          exact fresh_eq c c.periodSize
        simp only [hst, ne_eq, not_true_eq_false, if_false, if_true]
        refine ⟨⟨?_, ⟨?_, Nat.le_refl _, h.proc, ?_⟩, rfl, rfl, rfl⟩, .inr (hprov _)⟩
        · rw [hb]
          refine Eq.mpr ?_ (Passes.of_delivered c.mic [] (Nat.le_add_right c.captured c.periodSize))
          rw [← hb']
          rfl
        · show (List.drop (c.periodSize - c.periodSize) (c.fresh c.periodSize)).length = c.periodSize
          rw [Nat.sub_self, List.drop_zero]
          exact length_fresh c c.periodSize
        · exact Int.le_refl 0
      · simp only [hst, ne_eq, not_false_eq_true, if_true, if_false]
        exact ⟨⟨.refl _ _, ⟨h.buffered, h.framesIn, h.proc, status.2⟩, rfl, rfl, rfl⟩,
          .inl ⟨trivial, trivial⟩⟩
    · rw [if_neg hf]
      exact ⟨.refl h, .inr (hprov c)⟩

theorem reads_releaseBuffer (h : c.Shape) {n : Nat} (hn : n ≤ c.framesIn)
    (raw : Option (List α)) : c.Reads (c.buffered.take n) (releaseBuffer ⟨raw, n⟩ c) := by
  have hb : (releaseBuffer ⟨raw, n⟩ c).buffered = c.buffered.drop n := by
    have hp := h.framesIn
    show c.buffer.drop (c.periodSize - (c.framesIn - n)) = _
    rw [Capture.buffered, List.drop_drop,
      show c.periodSize - c.framesIn + n = c.periodSize - (c.framesIn - n) by omega]
  refine ⟨?_, ⟨?_, ?_, h.proc, h.status⟩, rfl, rfl, rfl⟩
  · rw [hb]
    exact .of_sublist (by rw [List.take_append_drop])
  · rw [hb, List.length_drop, h.buffered]
    rfl
  · exact (Nat.sub_le ..).trans h.framesIn

/-- One pass of `read_frames`: the frames it copied, and that it counts them. -/
theorem reads_readPass (h : c.Shape) (pcm : Option Nat) (n : Nat) (p : ReadPass α) :
    c.Reads (readPass pcm false n p c).1 (readPass pcm false n p c).2.2 ∧
    ((readPass pcm false n p c).2.2.readStatus = 0 →
      (readPass pcm false n p c).2.1 = (readPass pcm false n p c).1.length) := by
  obtain ⟨hr, ho⟩ := reads_getNextBuffer h pcm p.status ⟨none, n⟩
  unfold readPass
  simp only [Bool.false_eq_true, if_false]
  generalize getNextBuffer pcm p.status ⟨none, n⟩ c = g at hr ho ⊢
  obtain ⟨st, b, c'⟩ := g
  rcases ho with ⟨hb, hst⟩ | ⟨k, hk, hb⟩
  · simp only at hb
    subst hb
    exact ⟨hr.trans (reads_releaseBuffer hr.shape (Nat.zero_le _) none), fun h => absurd h hst⟩
  · simp only at hb hk
    subst hb
    refine ⟨?_, fun _ => ?_⟩
    · exact hr.trans (reads_releaseBuffer hr.shape hk _)
    · show k = (List.take k c'.buffered).length
      have hk : k ≤ c'.framesIn := hk
      have hl : c'.buffered.length = c'.framesIn := hr.shape.buffered
      rw [List.length_take, hl]
      omega

/-- `read_frames` appends the frames it reads to what it wrote, and returns their number or an
error. -/
theorem reads_readFrames (h : c.Shape) (pcm : Option Nat) (frames : Nat)
    (passes : List (ReadPass α)) (out : List α) :
    ∃ xs, (readFrames pcm false frames passes out.length out c).out = out ++ xs ∧
      c.Reads xs (readFrames pcm false frames passes out.length out c).capture ∧
      ∀ r, (readFrames pcm false frames passes out.length out c).ret = some r → 0 ≤ r →
        r = (out ++ xs).length := by
  induction passes generalizing c out with
  | nil =>
    refine ⟨[], (List.append_nil out).symm, .refl h, fun r hr _ => ?_⟩
    simp only [readFrames] at hr
    split at hr
    · cases hr
      rw [List.append_nil]
    · cases hr
  | cons p passes ih =>
    obtain ⟨hr, hn⟩ := reads_readPass h pcm (frames - out.length) p
    simp only [readFrames]
    split
    · refine ⟨[], (List.append_nil out).symm, .refl h, fun r hr _ => ?_⟩
      cases hr
      rw [List.append_nil]
    · generalize readPass pcm false (frames - out.length) p c = q at hr hn ⊢
      obtain ⟨xs, k, c'⟩ := q
      simp only at hr hn ⊢
      split
      · next hst =>
        refine ⟨xs, rfl, hr, fun r hret h0 => ?_⟩
        cases hret
        exact absurd (Int.le_antisymm hr.shape.status h0) hst
      · next hst =>
        have hk : out.length + k = (out ++ xs).length := by
          rw [hn (not_not.mp hst), List.length_append]
        obtain ⟨ys, ho, hrest, hret⟩ := ih hr.shape (out ++ xs)
        rw [hk]
        refine ⟨xs ++ ys, ?_, hr.trans hrest, ?_⟩
        · rw [ho, List.append_assoc]
        · rw [← List.append_assoc]
          exact hret

/-! ## The preprocessors -/

/-- `c'` comes from `c` by code that hands `xs` out of the frames left over and the microphone. -/
structure Capture.Sends (c : Capture α) (xs : List α) (c' : Capture α) : Prop where
  passes : Passes c.mic c.feed xs c'.feed
  shape : c'.Shape
  mic : c'.mic = c.mic
  handed : c'.track.handed = c.track.handed ++ xs.map fun x => (c.track.session, x)
  session : c'.track.session = c.track.session
  resumed : c'.track.resumed = c.track.resumed

theorem Capture.Sends.refl (h : c.Shape) : c.Sends [] c :=
  ⟨.refl _ _, h, rfl, by simp, rfl, rfl⟩

theorem Capture.Sends.trans (h : c.Sends xs c') (h' : c'.Sends ys c'') : c.Sends (xs ++ ys) c'' where
  passes := h.passes.trans (h.mic ▸ h'.passes)
  shape := h'.shape
  mic := h'.mic.trans h.mic
  handed := by rw [h'.handed, h.handed, h.session, List.map_append, List.append_assoc]
  session := h'.session.trans h.session
  resumed := h'.resumed.trans h.resumed

/-- The first frames of `proc_buf` after frames were written behind them. -/
theorem take_writeAt {buf : List α} {off : Nat} (xs : List α) (h : off ≤ buf.length) :
    (writeAt buf off xs).take (off + xs.length) = buf.take off ++ xs := by
  have hl : (buf.take off ++ xs).length = off + xs.length := by
    rw [List.length_append, List.length_take_of_le h]
  rw [writeAt, ← hl, List.take_left]

theorem length_writeAt {buf : List α} {off : Nat} (xs : List α) (h : off ≤ buf.length) :
    off + xs.length ≤ (writeAt buf off xs).length := by
  rw [writeAt, List.length_append, List.length_append, List.length_take_of_le h]
  omega

theorem take_writeAt_self {buf : List α} {off : Nat} (xs : List α) (h : off ≤ buf.length) :
    (writeAt buf off xs).take off = buf.take off := by
  have ht := congrArg (List.take off) (take_writeAt xs h)
  rw [List.take_take, Nat.min_eq_left (Nat.le_add_right ..)] at ht
  rw [ht, List.take_append_of_le_length (by rw [List.length_take_of_le h]), List.take_take,
    Nat.min_self]

/-- Frames read behind those of `proc_buf`; `kept` says whether they are counted. -/
theorem Capture.Reads.sends (h : c.Reads xs c') (hc : c.Shape) (kept : Bool) :
    c.Sends [] { c' with
      procBuf := writeAt c'.procBuf c'.procFramesIn xs
      procFramesIn := if kept then c'.procFramesIn + xs.length else c'.procFramesIn } := by
  obtain ⟨hb, hp⟩ := Prod.mk.inj h.proc
  obtain ⟨ht, hs, hr⟩ := (by simpa only [Prod.mk.injEq] using h.track :
    c'.track.handed = c.track.handed ∧ c'.track.session = c.track.session ∧
      c'.track.resumed = c.track.resumed)
  have hle : c'.procFramesIn ≤ c'.procBuf.length := by
    rw [hb, hp]
    exact hc.proc
  have hfeed := h.passes.behind (c.procBuf.take c.procFramesIn)
  rw [← hb, ← hp] at hfeed
  have hw := length_writeAt xs hle
  have hproc : (if kept then c'.procFramesIn + xs.length else c'.procFramesIn) ≤
      (writeAt c'.procBuf c'.procFramesIn xs).length := by
    split
    · exact hw
    · omega
  refine ⟨?_, ⟨h.shape.buffered, h.shape.framesIn, hproc, h.shape.status⟩, h.mic, by simp [ht], hs, hr⟩
  show Passes c.mic ⟨c.procBuf.take c.procFramesIn ++ c.buffered, c.captured⟩ []
    ⟨(writeAt c'.procBuf c'.procFramesIn xs).take _ ++ c'.buffered, c'.captured⟩
  rw [← hb, ← hp]
  cases kept with
  | true =>
    rw [if_pos rfl, take_writeAt xs hle]
    exact hfeed
  | false =>
    rw [if_neg Bool.false_ne_true, take_writeAt_self xs hle]
    refine hfeed.trans (.of_sublist ?_)
    rw [List.nil_append, List.append_assoc]
    exact (List.Sublist.refl _).append (List.sublist_append_right ..)

/-- Code that leaves the microphone frames alone. -/
theorem Capture.Sends.of_same (hc : c.Shape)
    (h : (c'.buffered, c'.framesIn, c'.periodSize, c'.captured, c'.mic, c'.readStatus) =
      (c.buffered, c.framesIn, c.periodSize, c.captured, c.mic, c.readStatus))
    (hp : c'.procFramesIn = c.procFramesIn) (hl : c.procBuf.length ≤ c'.procBuf.length)
    (hb : c'.procBuf.take c.procFramesIn = c.procBuf.take c.procFramesIn)
    (ht : (c'.track.handed, c'.track.session, c'.track.resumed) =
      (c.track.handed, c.track.session, c.track.resumed)) : c.Sends [] c' := by
  simp only [Prod.mk.injEq] at h ht
  obtain ⟨h1, h2, h3, h4, h5, h6⟩ := h
  refine ⟨?_, ⟨by rw [h1, h2]; exact hc.buffered, by rw [h2, h3]; exact hc.framesIn, ?_, ?_⟩, h5,
    by simp [ht.1], ht.2.1, ht.2.2⟩
  · rw [show c'.feed = c.feed by simp only [Capture.feed, Capture.leftover, h1, h4, hp, hb]]
    exact .refl _ _
  · rw [hp]
    exact hc.proc.trans hl
  · rw [h6]
    exact hc.status

/-- The preprocessors take at most the reference frames they are offered. -/
theorem reverseChain_le (p : ProcessPass α) (buf : List α) (k n count : Nat) :
    reverseChain p buf k n count ≤ count := by
  induction n generalizing k count with
  | zero => exact Nat.le_refl _
  | succ n ih =>
    refine (ih _ _).trans ?_
    split
    · exact Nat.le_refl _
    · next f hf => exact (p.reverse_le k f hf _).trans (List.length_take_le ..)

theorem processChain_le (p : ProcessPass α) (buf : List α) (k n inCount outCount : Nat)
    (out : List α) : (processChain p buf k n inCount outCount out).1 ≤ inCount := by
  induction n generalizing k inCount outCount out with
  | zero => exact Nat.le_refl _
  | succ n ih =>
    exact (ih _ _ _ _).trans ((p.consumed_le ..).trans (List.length_take_le ..))

/-- The frames consumed are handed out. -/
theorem sends_consume (h : c.Shape) {count : Nat} (hc : count ≤ c.procFramesIn) :
    c.Sends (c.procBuf.take count) (consume count c) := by
  have hp := h.proc
  have hlen : ((c.procBuf.drop count).take (c.procFramesIn - count)).length =
      c.procFramesIn - count := by
    rw [List.length_take_of_le]
    rw [List.length_drop]
    omega
  have hw := length_writeAt ((c.procBuf.drop count).take (c.procFramesIn - count))
    (Nat.zero_le c.procBuf.length)
  have ht := take_writeAt ((c.procBuf.drop count).take (c.procFramesIn - count))
    (Nat.zero_le c.procBuf.length)
  rw [hlen, Nat.zero_add] at hw ht
  have hrest : (consume count c).procBuf.take (c.procFramesIn - count) =
      (c.procBuf.drop count).take (c.procFramesIn - count) ∧
      c.procFramesIn - count ≤ (consume count c).procBuf.length := by
    unfold consume
    simp only
    split
    · next h0 => exact ⟨by rw [h0, List.take_zero, List.take_zero], by omega⟩
    · exact ⟨by rw [ht, List.take_zero, List.nil_append], hw⟩
  have hsplit : c.procBuf.take count ++ (c.procBuf.drop count).take (c.procFramesIn - count) =
      c.procBuf.take c.procFramesIn := by
    rw [← List.take_add, Nat.add_sub_cancel' hc]
  refine ⟨?_, ⟨h.buffered, h.framesIn, hrest.2, h.status⟩, rfl, rfl, rfl, rfl⟩
  show Passes c.mic ⟨c.procBuf.take c.procFramesIn ++ c.buffered, c.captured⟩ (c.procBuf.take count)
    ⟨(consume count c).procBuf.take (c.procFramesIn - count) ++ c.buffered, c.captured⟩
  rw [hrest.1, ← hsplit, List.append_assoc]
  exact .of_sublist (List.Sublist.refl _)

section
variable [Zero α]

/-- The reload of `proc_buf` hands nothing out. -/
theorem sends_reload (h : c.Shape) (pcm : Option Nat) (frames : Nat) (p : ProcessPass α) :
    c.Sends [] (reload pcm false frames p c).2 := by
  unfold reload
  split
  · -- `proc_buf` is grown, then written behind the frames it has
    have hg : c.Sends [] (if c.procBufSize < frames then
        { c with procBufSize := frames, procBuf := grow c.procBuf frames } else c) := by
      split
      · refine .of_same h rfl rfl ?_ (List.take_append_of_le_length h.proc) rfl
        simp [grow]
      · exact .refl h
    generalize (if c.procBufSize < frames then
        { c with procBufSize := frames, procBuf := grow c.procBuf frames } else c) = d at hg ⊢
    obtain ⟨xs, ho, hr, hret⟩ := reads_readFrames hg.shape pcm (frames - d.procFramesIn) p.reads []
    simp only [List.length_nil, List.nil_append] at ho hr hret ⊢
    generalize readFrames pcm false (frames - d.procFramesIn) p.reads 0 [] d = r at ho hr hret ⊢
    obtain ⟨ret, out, c'⟩ := r
    simp only at ho hr hret ⊢
    subst ho
    have hp : c'.procFramesIn = d.procFramesIn := (Prod.mk.inj hr.proc).2
    rw [← hp]
    have hlost := hg.trans (hr.sends hg.shape false)
    cases ret with
    | none => exact hlost
    | some n =>
      simp only
      split
      · exact hlost
      · next hn =>
        have hlen := hret n rfl (not_lt.mp hn)
        have hcount := hg.trans (hr.sends hg.shape true)
        rw [if_pos rfl, ← Int.toNat_natCast out.length, ← hlen] at hcount
        exact hcount
  · exact .refl h

theorem sends_pushEchoReference (h : c.Shape) (n frames : Nat) (p : ProcessPass α) :
    (pushEchoReference n frames p c).1 ≤ frames ∧
    c.Sends [] (pushEchoReference n frames p c).2 ∧
    (pushEchoReference n frames p c).2.procFramesIn = c.procFramesIn := by
  have hu : ∀ c : Capture α, c.Shape → c.Sends [] (updateEchoReference frames p c) ∧
      (updateEchoReference frames p c).procFramesIn = c.procFramesIn := by
    intro c h
    unfold updateEchoReference
    split
    · simp only
      split <;> split <;> exact ⟨.of_same h rfl rfl (Nat.le_refl _) rfl rfl, rfl⟩
    · exact ⟨.refl h, rfl⟩
  obtain ⟨hs, hp⟩ := hu c h
  unfold pushEchoReference
  simp only
  refine ⟨(reverseChain_le ..).trans ?_, ?_, hp⟩
  · split <;> omega
  · exact hs.trans (.of_same hs.shape rfl rfl (Nat.le_refl _) rfl rfl)

/-- One pass of `process_frames`. -/
theorem sends_processPass (h : c.Shape) (pcm : Option Nat) (echo : Bool) (n frames framesWr : Nat)
    (p : ProcessPass α) (dst : List α) :
    ∃ xs, c.Sends xs (processPass pcm false echo n frames framesWr p dst c).2.2 := by
  have hr := sends_reload h pcm frames p
  unfold processPass
  split
  · next heq =>
    rw [heq] at hr
    exact ⟨_, hr⟩
  · next c' heq =>
    rw [heq] at hr
    split
    · exact ⟨_, hr⟩
    · have hq : ∀ q, q = (if echo then pushEchoReference n c'.procFramesIn p c'
          else (c'.procFramesIn, c')) → q.1 ≤ q.2.procFramesIn ∧ c'.Sends [] q.2 := by
        rintro _ rfl
        split
        · obtain ⟨hle, hs, hp⟩ := sends_pushEchoReference hr.shape n c'.procFramesIn p
          exact ⟨hle.trans hp.ge, hs⟩
        · exact ⟨Nat.le_refl _, .refl hr.shape⟩
      obtain ⟨hle, hs⟩ := hq _ rfl
      exact ⟨_, (hr.trans hs).trans (sends_consume hs.shape ((processChain_le ..).trans hle))⟩

theorem sends_processFrames (h : c.Shape) (pcm : Option Nat) (echo : Bool) (n frames : Nat)
    (passes : List (ProcessPass α)) (framesWr : Nat) (dst : List α) :
    ∃ xs, c.Sends xs (processFrames pcm false echo n frames passes framesWr dst c).capture := by
  induction passes generalizing c framesWr dst with
  | nil => exact ⟨[], .refl h⟩
  | cons p passes ih =>
    obtain ⟨xs, hp⟩ := sends_processPass h pcm echo n frames framesWr p dst
    simp only [processFrames]
    split
    · exact ⟨[], .refl h⟩
    · split
      · next heq =>
        rw [heq] at hp
        exact ⟨xs, hp⟩
      · next heq =>
        rw [heq] at hp
        exact ⟨xs, hp⟩
      · next heq =>
        rw [heq] at hp
        obtain ⟨ys, hs⟩ := ih hp.shape _ _
        exact ⟨xs ++ ys, hp.trans hs⟩

end

end

/-! ## Runs

Microphone frames stand for their numbers here: `mic` is the identity. -/

/-- The frames handed out are in order, each from the session it was handed out in. The frames left
over are the next of them unless a start or a direct read has passed them over. -/
structure Capture.Fresh (c : Capture Nat) : Prop where
  order : InOrder id (c.track.handed.map Prod.snd) ⟨[], c.captured⟩
  handed : ∀ x ∈ c.track.handed, x.1 ≤ x.2
  session : c.track.session ≤ c.captured
  leftover : c.track.resumed = false →
    InOrder id (c.track.handed.map Prod.snd) c.feed ∧ ∀ n ∈ c.leftover, c.track.session ≤ n

section
variable {c c' : Capture Nat} {xs : List Nat}

/-- Nothing is left over. -/
theorem Capture.Fresh.of_empty (h : c.Fresh) (hl : c.leftover = []) :
    InOrder id (c.track.handed.map Prod.snd) c.feed ∧ ∀ n ∈ c.leftover, c.track.session ≤ n := by
  refine ⟨?_, fun n hn => ?_⟩
  · rw [Capture.feed, hl]
    exact h.order
  · rw [hl] at hn
    cases hn

theorem leftover_eq_nil (hc : c.Shape) (hf : c.framesIn = 0) (hp : c.procFramesIn = 0) :
    c.leftover = [] := by
  have hb : c.buffered = [] := List.length_eq_zero_iff.mp (hc.buffered.trans hf)
  rw [Capture.leftover, hb, hp, List.take_zero, List.nil_append]

theorem map_snd_tag (n : Nat) (xs : List Nat) :
    (xs.map fun x => (n, x)).map Prod.snd = xs := by
  rw [List.map_map]
  exact List.map_id xs

/-- Frames passed on from a feed that is in order with those handed out before. -/
theorem Capture.Fresh.sends (h : c.Fresh) (hm : c.mic = id)
    (hl : InOrder id (c.track.handed.map Prod.snd) c.feed ∧ ∀ n ∈ c.leftover, c.track.session ≤ n)
    (hs : c.Sends xs c') (resumed : Bool) :
    Capture.Fresh { c' with track := { c'.track with resumed := resumed } } := by
  have hp : Passes id c.feed xs c'.feed := hm ▸ hs.passes
  have hmap : c'.track.handed.map Prod.snd = c.track.handed.map Prod.snd ++ xs := by
    rw [hs.handed, List.map_append, map_snd_tag]
  have ho : InOrder id (c'.track.handed.map Prod.snd) c'.feed := hmap ▸ hl.1.passes hp
  have hge : ∀ n ∈ xs ++ c'.leftover, c.track.session ≤ n :=
    hp.forall_mem hl.2 fun k hk => h.session.trans hk
  refine ⟨ho.of_nil, fun x hx => ?_, ?_, fun _ => ⟨ho, fun n hn => ?_⟩⟩
  · have hx : x ∈ c'.track.handed := hx
    rw [hs.handed] at hx
    rcases List.mem_append.mp hx with hx | hx
    · exact h.handed x hx
    · obtain ⟨n, hn, rfl⟩ := List.mem_map.mp hx
      exact hge n (List.mem_append_left _ hn)
  · show c'.track.session ≤ c'.captured
    rw [hs.session]
    exact h.session.trans hp.pos
  · show c'.track.session ≤ n
    rw [hs.session]
    exact hge n (List.mem_append_right _ hn)

theorem Capture.Fresh.restart (h : c.Fresh) (resampler : Bool) : (c.restart resampler).Fresh :=
  ⟨h.order, h.handed, Nat.le_refl _, fun hr => by cases hr⟩

theorem fresh_newInput (devices : Devices) (config : AudioConfig) :
    (newInput devices config id).capture.Fresh :=
  ⟨List.Sublist.refl _, nofun, Nat.le_refl _, nofun⟩

/-- A `pcm_read` straight to the client: the `n` frames that it returns pass over those left. -/
theorem Capture.Fresh.direct (h : c.Fresh) (hm : c.mic = id) {n : Nat} {resumed : Bool}
    (hr : resumed = false → c.track.resumed = false ∧ n = 0) :
    Capture.Fresh { c with
      captured := c.captured + n
      track := { c.track with
        handed := c.track.handed ++ (c.fresh n).map fun x => (c.track.session, x)
        pcmUses := c.track.pcmUses + 1
        resumed := resumed } } := by
  have hd : c.fresh n = delivered id c.captured (c.captured + n) := hm ▸ fresh_eq c n
  have hp : Passes id ⟨[], c.captured⟩ (c.fresh n) ⟨[], c.captured + n⟩ := by
    refine ((Passes.of_delivered id [] (Nat.le_add_right ..)).trans (.of_sublist ?_) :
      Passes id _ ([] ++ c.fresh n) _)
    rw [List.append_nil, List.nil_append, hd]
  refine ⟨?_, fun x hx => ?_, h.session.trans (Nat.le_add_right ..), fun h0 => ?_⟩
  · show InOrder id ((c.track.handed ++ (c.fresh n).map fun x => (c.track.session, x)).map Prod.snd) _
    rw [List.map_append, map_snd_tag]
    exact h.order.passes hp
  · rcases List.mem_append.mp hx with hx | hx
    · exact h.handed x hx
    · obtain ⟨k, hk, rfl⟩ := List.mem_map.mp hx
      rw [hd] at hk
      obtain ⟨j, hj, rfl⟩ := mem_delivered hk
      exact h.session.trans hj
  · obtain ⟨hc, rfl⟩ := hr h0
    obtain ⟨ho, hl⟩ := h.leftover hc
    refine ⟨?_, hl⟩
    show InOrder id ((c.track.handed ++ []).map Prod.snd) _
    rw [List.append_nil]
    exact ho

end

/-- The frames of `in->buffer` and `proc_buf` are counted right, and those handed out are fresh. -/
def Capture.Clean (c : Capture Nat) : Prop := c.Shape ∧ (c.mic = id → c.Fresh)

section
variable {inp : OmapStreamIn Nat}

/-- `process_frames` that must return no frames does nothing. -/
theorem processFrames_zero (pcm : Option Nat) (resampler echo : Bool) (n : Nat)
    (passes : List (ProcessPass Nat)) (dst : List Nat) (c : Capture Nat) :
    (processFrames pcm resampler echo n 0 passes 0 dst c).capture = c := by
  cases passes <;> rfl

theorem readPaths_process (hn : inp.numPreprocessors ≠ 0) (mute : Bool) (frames : Nat)
    (script : ReadScript Nat) (dst : List Nat) :
    ∃ c, c = (processFrames inp.pcm inp.resampler inp.echoReference.isSome inp.numPreprocessors
        frames script.process 0 dst inp.capture).capture ∧
      (readPaths inp mute frames script dst).capture =
        { c with track := { c.track with
          resumed := inp.capture.track.resumed && decide (frames = 0) } } := by
  refine ⟨_, rfl, ?_⟩
  simp only [readPaths, if_pos hn]

theorem readPaths_direct (hn : inp.numPreprocessors = 0) (hr : inp.resampler = false)
    (hx : inp.remixAtDriver = none) (mute : Bool) (frames : Nat) (script : ReadScript Nat)
    (dst : List Nat) :
    ∃ n, n = (if script.direct.1 = 0 then frames else 0) ∧
      (readPaths inp mute frames script dst).capture = { inp.capture with
        captured := inp.capture.captured + n
        track := { inp.capture.track with
          handed := inp.capture.track.handed ++
            (inp.capture.fresh n).map fun x => (inp.capture.track.session, x)
          pcmUses := inp.capture.track.pcmUses + 1
          resumed := inp.capture.track.resumed || decide (n ≠ 0) } } := by
  refine ⟨_, rfl, ?_⟩
  have hd : decide (script.direct.1 = 0 ∧ frames ≠ 0) =
      decide ((if script.direct.1 = 0 then frames else 0) ≠ 0) := by
    rw [decide_eq_decide]
    split
    · next h => exact and_iff_right h
    · next h => exact iff_of_false (fun hc => h hc.1) (fun hc => hc rfl)
  rw [← hd]
  simp only [readPaths, hn, hr, hx, pcmRead_eq, ne_eq, not_true_eq_false, if_false,
    Option.isSome_none, Bool.or_self, Bool.false_eq_true]
  rfl

/-- A read keeps the read side clean, unless it gives the preprocessors frames passed over. -/
theorem clean_readPaths (hr : inp.resampler = false) (hx : inp.remixAtDriver = none)
    (h : inp.capture.Clean) (mute : Bool) {frames : Nat} (script : ReadScript Nat) (dst : List Nat)
    (hl : frames ≠ 0 → inp.numPreprocessors ≠ 0 → inp.capture.track.resumed = true →
      inp.capture.framesIn = 0 ∧ inp.capture.procFramesIn = 0) :
    (readPaths inp mute frames script dst).capture.Clean := by
  obtain ⟨hc, hf⟩ := h
  by_cases hn : inp.numPreprocessors = 0
  · obtain ⟨n, -, heq⟩ := readPaths_direct hn hr hx mute frames script dst
    rw [heq]
    refine ⟨⟨hc.buffered, hc.framesIn, hc.proc, hc.status⟩, fun hm => (hf hm).direct hm fun h0 => ?_⟩
    obtain ⟨h1, h2⟩ := Bool.or_eq_false_iff.mp h0
    exact ⟨h1, not_not.mp (of_decide_eq_false h2)⟩
  · obtain ⟨c, hcap, heq⟩ := readPaths_process hn mute frames script dst
    rw [heq]
    rw [hr] at hcap
    obtain ⟨xs, hs⟩ := sends_processFrames hc inp.pcm inp.echoReference.isSome
      inp.numPreprocessors frames script.process 0 dst
    rw [← hcap] at hs
    refine ⟨⟨hs.shape.buffered, hs.shape.framesIn, hs.shape.proc, hs.shape.status⟩, fun hm => ?_⟩
    have hm : inp.capture.mic = id := hs.mic.symm.trans hm
    by_cases h0 : frames = 0
    · subst h0
      rw [processFrames_zero] at hcap
      subst hcap
      rw [decide_eq_true rfl, Bool.and_true]
      exact hf hm
    · refine (hf hm).sends hm ?_ hs _
      cases hres : inp.capture.track.resumed with
      | false => exact (hf hm).leftover hres
      | true =>
        obtain ⟨h1, h2⟩ := hl h0 hn hres
        exact (hf hm).of_empty (leftover_eq_nil hc h1 h2)

end

/-- A stream without a resampler is clean; only a stream with one was not opened at 48 kHz. -/
structure Reader.Clean (r : Reader Nat) : Prop where
  rate : r.requestedRate = mmFullPowerSamplingRate → r.resampler = false
  remix : r.remixAtDriver = none
  capture : r.resampler = false → r.capture.Clean

theorem Reader.Clean.restart {r : Reader Nat} (h : r.Clean) : r.restart.Clean := by
  refine ⟨h.rate, h.remix, fun hr => ?_⟩
  obtain ⟨hc, hf⟩ := h.capture hr
  refine ⟨?_, fun hm => (hf hm).restart _⟩
  show Capture.Shape (r.capture.restart r.resampler)
  rw [show r.resampler = false from hr]
  exact ⟨hc.buffered, hc.framesIn, hc.proc, hc.status⟩

theorem clean_newInput (devices : Devices) (config : AudioConfig) (mic : Nat → Nat) :
    (newInput devices config mic).reader.Clean := by
  refine ⟨fun h => decide_eq_false (not_not.mpr h), rfl, fun _ => ⟨?_, fun hm => ?_⟩⟩
  · exact ⟨rfl, Nat.zero_le _, Nat.le_refl _, Int.le_refl _⟩
  · have hm : mic = id := hm
    subst hm
    exact fresh_newInput devices config

/-- The frames an event reads from stream `i`. -/
def Event.framesRead (i : InId) : Event α → Option Nat
  | .inReadData i' frames _ _ => if i' = i then some frames else none
  | _ => none

/-- `process_frames` of stream `i` finds no frames left over from before the last start or direct
read. -/
def freshLeftovers (i : InId) (s : Hal α) (e : Event α) : Prop :=
  ∀ frames ∈ e.framesRead i, frames ≠ 0 → ∀ inp ∈ s.ins i, inp.resampler = false →
    inp.numPreprocessors ≠ 0 → inp.capture.track.resumed = true →
      inp.capture.framesIn = 0 ∧ inp.capture.procFramesIn = 0

instance (i : InId) (s : Hal α) (e : Event α) : Decidable (freshLeftovers i s e) :=
  inferInstanceAs (Decidable (∀ _ ∈ _, _))

/-- The read side of stream `i` is clean, and nothing is remixed. -/
def Readers.CleanAt (i : InId) (v : Readers Nat) : Prop :=
  v.stereo = false ∧ ∀ r, v.input i = some r → r.Clean

section
variable {v : Readers Nat} {i : InId}

theorem Readers.CleanAt.setInput (h : v.CleanAt i) (i' : InId) {r' : Option (Reader Nat)}
    (hr : i' = i → ∀ r, r' = some r → r.Clean) : (v.setInput i' r').CleanAt i := by
  refine ⟨h.1, fun r (hin : Function.update v.input i' r' i = some r) => ?_⟩
  by_cases hi : i' = i
  · subst hi
    rw [Function.update_self] at hin
    exact hr rfl r hin
  · rw [Function.update_of_ne (Ne.symm hi)] at hin
    exact h.2 r hin

theorem Readers.CleanAt.step {s t : Hal Nat} {e : Event Nat} (h : s.readers.CleanAt i)
    (he : freshLeftovers i s e) (ht : P970.Audio.step s e = some t) : t.readers.CleanAt i := by
  cases readers_step s h.1 ht with
  | same hv => exact hv ▸ h
  | closed i' hv => exact hv ▸ h.setInput i' nofun
  | opened i' devices config mic hv =>
    refine hv ▸ h.setInput i' fun _ r hr => ?_
    cases hr
    exact clean_newInput devices config mic
  | started i' r hr hv =>
    refine hv ▸ h.setInput i' fun hi r' hr' => ?_
    cases hr'
    exact (h.2 r (hi ▸ hr)).restart
  | read i' frames dst script inp hev hi' hv =>
    refine hv ▸ h.setInput i' fun hi r' hr' => ?_
    cases hr'
    subst hi hev
    have hc : inp.reader.Clean := by
      refine h.2 _ ?_
      show (s.ins i').map _ = _
      rw [hi']
      rfl
    refine ⟨hc.rate, hc.remix, fun hr => ?_⟩
    exact clean_readPaths hr hc.remix (hc.capture hr) s.micMute script dst fun h0 hn hres =>
      he frames (if_pos rfl) h0 inp hi' hr hn hres

end

section
variable {name : String} {alloc : Bool} {mixer : Option Mixer} {s₀ s : Hal Nat}

/-- The frames handed out of a stream opened at 48 kHz are numbered in order, and each was captured
in the session it was handed out in. -/
theorem frames_fresh (h0 : adevOpen name alloc mixer = .ok s₀) {i : InId} {inp : OmapStreamIn Nat}
    (h : Run step (freshLeftovers i) s₀ s) (hi : s.ins i = some inp)
    (hr : inp.requestedRate = mmFullPowerSamplingRate) (hm : inp.capture.mic = id) :
    (inp.capture.track.handed.map Prod.snd).Pairwise (· < ·) ∧
    ∀ x ∈ inp.capture.track.handed, x.1 ≤ x.2 := by
  have hclean : s.readers.CleanAt i := by
    refine h.invariant (I := fun s => s.readers.CleanAt i) ?_ fun _ _ _ hv he ht => hv.step he ht
    obtain ⟨m, -, rfl⟩ := adevOpen_ok h0
    have ho := readers_openDevice (α := Nat) m
    refine ⟨rfl, fun r hr => ?_⟩
    rw [ho] at hr
    cases hr
  have hc : inp.reader.Clean := by
    refine hclean.2 _ ?_
    show (s.ins i).map _ = _
    rw [hi]
    rfl
  have hf := (hc.capture (hc.rate hr)).2 hm
  refine ⟨?_, hf.handed⟩
  have ho := hf.order
  rw [InOrder, List.append_nil, List.map_id] at ho
  exact List.pairwise_lt_range.sublist ho

end

/-- A stream is read through an effect, and after a standby without it. -/
def captureTwice : List (Event Nat) :=
  [.openInputStream 0 audioDeviceInBuiltinMic ⟨48000, 1, 1⟩ ⟨true, true, true, id⟩,
    .inAddAudioEffect 0 ⟨0, false⟩ 0,
    .inRead 0 2 true true, .inReadData 0 2 [0, 0] ⟨[.copy], [], .ok⟩,
    .inStandby 0, .inRemoveAudioEffect 0 ⟨0, false⟩ 0,
    .inRead 0 2 true true, .inReadData 0 2 [0, 0] ⟨[], [], .ok⟩]

set_option maxRecDepth 8000 in
theorem frames_fresh_captureTwice : ∃ s : Hal Nat, ∃ inp,
    exec step captureTwice (openDevice fun _ => none) = some s ∧ s.ins 0 = some inp ∧
    (inp.capture.track.handed.map Prod.snd).Pairwise (· < ·) ∧
    ∀ x ∈ inp.capture.track.handed, x.1 ≤ x.2 := by
  have hs : (exec step captureTwice (openDevice fun _ => none)).map (fun s =>
      (s.ins 0).map fun inp => (inp.requestedRate, inp.capture.mic)) = some (some (48000, id)) := rfl
  have ha : OkAlong step (freshLeftovers 0) captureTwice (openDevice fun _ => none) := by
    decide +kernel
  obtain ⟨s, hs, hp⟩ := Option.map_eq_some_iff.mp hs
  obtain ⟨inp, hi, hx⟩ := Option.map_eq_some_iff.mp hp
  obtain ⟨hr, hm⟩ := Prod.mk.inj hx
  exact ⟨s, inp, hs, hi, frames_fresh (adevOpen_some _) (Run.of_exec hs ha) hi hr hm⟩

/-- The effect comes back: it is given the frames left over from before the standby. -/
def captureThrice : List (Event Nat) :=
  captureTwice ++ [.inAddAudioEffect 0 ⟨0, false⟩ 0,
    .inRead 0 2 true true, .inReadData 0 2 [0, 0] ⟨[.copy], [], .ok⟩]

set_option maxRecDepth 8000 in
theorem frames_stale : ∃ s : Hal Nat, ∃ inp,
    Reach step (openDevice fun _ => none) s ∧ s.ins 0 = some inp ∧
    inp.requestedRate = mmFullPowerSamplingRate ∧ inp.capture.mic = id ∧
    ¬ (inp.capture.track.handed.map Prod.snd).Pairwise (· < ·) ∧
    ¬ ∀ x ∈ inp.capture.track.handed, x.1 ≤ x.2 := by
  have hs : (exec step captureThrice (openDevice fun _ => none)).map (fun s =>
      (s.ins 0).map fun inp => (inp.requestedRate, inp.capture.mic, inp.capture.track.handed)) =
      some (some (48000, id, [(0, 0), (0, 1), (1920, 1920), (1920, 1921), (1920, 2), (1920, 3)])) :=
    rfl
  obtain ⟨s, hs, hp⟩ := Option.map_eq_some_iff.mp hs
  obtain ⟨inp, hi, hx⟩ := Option.map_eq_some_iff.mp hp
  simp only [Prod.mk.injEq] at hx
  obtain ⟨hr, hm, hh⟩ := hx
  refine ⟨s, inp, Reach.of_exec hs, hi, hr, hm, ?_⟩
  rw [hh]
  decide

end P970.Audio
