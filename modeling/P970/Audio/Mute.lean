import Mathlib.Data.List.Forall2
import P970.Audio.Session

/-!
# Muting the microphone

Two executions of an `in_read` that differ only in the samples of the microphone
(`Capture.Alike`, and `ReadScript.Alike` for what resampler and preprocessors
make of them) take the same path through the read loops. With the microphone
muted they leave the same frames in the client's buffer, unless a read fails
after a frame has been put there (`failsAfterWriting`): the mute comes only after
a read that succeeds (`mute_iff`).
-/

namespace P970.Audio

section
variable {α : Type}

/-- The same but for the samples of the microphone, those buffered and those to come. -/
structure Capture.Alike (c c' : Capture α) : Prop where
  periodSize : c'.periodSize = c.periodSize
  buffer : c'.buffer.length = c.buffer.length
  framesIn : c'.framesIn = c.framesIn
  readStatus : c'.readStatus = c.readStatus
  procBuf : c'.procBuf.length = c.procBuf.length
  procBufSize : c'.procBufSize = c.procBufSize
  procFramesIn : c'.procFramesIn = c.procFramesIn
  refBuf : c'.refBuf = c.refBuf
  refBufSize : c'.refBufSize = c.refBufSize
  refFramesIn : c'.refFramesIn = c.refFramesIn

/-- The resampler makes as many frames of as many. -/
structure ReadPass.Alike (p p' : ReadPass α) : Prop where
  status : p'.status = p.status
  provider : p'.provider = p.provider
  resample : ∀ xs ys : List α, xs.length = ys.length →
    (p'.resample ys).length = (p.resample xs).length

/-- The preprocessors consume and produce as many frames of as many. -/
structure ProcessPass.Alike (p p' : ProcessPass α) : Prop where
  reads : List.Forall₂ ReadPass.Alike p.reads p'.reads
  echoRead : p'.echoRead = p.echoRead
  reverse : p'.reverse = p.reverse
  process : ∀ k (xs ys : List α) room, xs.length = ys.length →
    (p'.process k ys room).1 = (p.process k xs room).1 ∧
      (p'.process k ys room).2.length = (p.process k xs room).2.length

structure ReadScript.Alike (s s' : ReadScript α) : Prop where
  process : List.Forall₂ ProcessPass.Alike s.process s'.process
  read : List.Forall₂ ReadPass.Alike s.read s'.read
  direct : s'.direct = s.direct

variable {c c' : Capture α}

/-! ## The same path -/

theorem Capture.Alike.pcmRead (h : c.Alike c') (frames : Nat) (status : Status) :
    (pcmRead frames status c').1.length = (pcmRead frames status c).1.length ∧
      (pcmRead frames status c).2.Alike (pcmRead frames status c').2 := by
  simp only [Audio.pcmRead]
  split
  · exact ⟨by rw [length_fresh, length_fresh], { h with }⟩
  · exact ⟨rfl, { h with }⟩

theorem Capture.Alike.getNextBuffer (h : c.Alike c') (pcm : Option Nat) (status : Status)
    (b : ResamplerBuffer α) :
    (getNextBuffer pcm status b c').2.1.frameCount = (getNextBuffer pcm status b c).2.1.frameCount ∧
      (getNextBuffer pcm status b c').2.1.raw.map List.length =
        (getNextBuffer pcm status b c).2.1.raw.map List.length ∧
      (getNextBuffer pcm status b c).2.2.Alike (getNextBuffer pcm status b c').2.2 := by
  have hp : ∀ {c c' : Capture α}, c.Alike c' →
      (provide b c').2.1.frameCount = (provide b c).2.1.frameCount ∧
      (provide b c').2.1.raw.map List.length = (provide b c).2.1.raw.map List.length ∧
      (provide b c).2.2.Alike (provide b c').2.2 := by
    intro c c' h
    simp only [provide, Option.map_some, List.length_drop, h.framesIn, h.periodSize, h.buffer]
    exact ⟨trivial, trivial, h⟩
  cases pcm with
  | none => exact ⟨rfl, rfl, { h with readStatus := rfl }⟩
  | some n =>
    simp only [Audio.getNextBuffer, h.framesIn, h.periodSize]
    split
    · obtain ⟨hl, hr⟩ := h.pcmRead c.periodSize status
      split
      · exact ⟨rfl, rfl, { hr with readStatus := rfl }⟩
      · exact hp { hr with readStatus := rfl, buffer := hl, framesIn := hr.periodSize }
    · exact hp h

theorem Capture.Alike.releaseBuffer (h : c.Alike c') {b b' : ResamplerBuffer α}
    (hb : b'.frameCount = b.frameCount) : (releaseBuffer b c).Alike (releaseBuffer b' c') :=
  { h with framesIn := by simp only [Audio.releaseBuffer, hb, h.framesIn] }

theorem Capture.Alike.pullFrames (h : c.Alike c') (pcm : Option Nat)
    (calls : List (Nat × Nat × Status)) :
    (pullFrames pcm calls c').1.length = (pullFrames pcm calls c).1.length ∧
      (pullFrames pcm calls c).2.Alike (pullFrames pcm calls c').2 := by
  induction calls generalizing c c' with
  | nil => exact ⟨rfl, h⟩
  | cons x calls ih =>
    obtain ⟨ask, use, status⟩ := x
    obtain ⟨hn, hr, hc⟩ := h.getNextBuffer pcm status ⟨none, ask⟩
    simp only [Audio.pullFrames]
    generalize Audio.getNextBuffer pcm status ⟨none, ask⟩ c = r at hn hr hc
    generalize Audio.getNextBuffer pcm status ⟨none, ask⟩ c' = r' at hn hr hc
    cases hx : r.2.1.raw with
    | none =>
      rw [hx, Option.map_none, Option.map_eq_none_iff] at hr
      rw [hr]
      exact ⟨rfl, hc⟩
    | some xs =>
      rw [hx, Option.map_some, Option.map_eq_some_iff] at hr
      obtain ⟨ys, hy, hlen⟩ := hr
      rw [hy]
      simp only [hn]
      have hcount : (ResamplerBuffer.mk (some ys) (min use r.2.1.frameCount)).frameCount =
          (ResamplerBuffer.mk (some xs) (min use r.2.1.frameCount)).frameCount := rfl
      obtain ⟨hl, hc'⟩ := ih (hc.releaseBuffer hcount)
      exact ⟨by simp only [List.length_append, List.length_take, hlen, hl], hc'⟩

theorem Capture.Alike.readPass (h : c.Alike c') {p p' : ReadPass α} (hp : p.Alike p')
    (pcm : Option Nat) (resampler : Bool) (framesRd : Nat) :
    (readPass pcm resampler framesRd p' c').1.length =
        (readPass pcm resampler framesRd p c).1.length ∧
      (readPass pcm resampler framesRd p' c').2.1 = (readPass pcm resampler framesRd p c).2.1 ∧
      (readPass pcm resampler framesRd p c).2.2.Alike
        (readPass pcm resampler framesRd p' c').2.2 := by
  cases resampler with
  | true =>
    obtain ⟨hl, hc⟩ := h.pullFrames pcm p.provider
    simp only [Audio.readPass, if_true, hp.provider]
    have hlen := hp.resample _ _ hl.symm
    have htake : ((p'.resample (Audio.pullFrames pcm p.provider c').1).take framesRd).length =
        ((p.resample (Audio.pullFrames pcm p.provider c).1).take framesRd).length := by
      simp only [List.length_take, hlen]
    exact ⟨htake, htake, hc⟩
  | false =>
    obtain ⟨hn, hr, hc⟩ := h.getNextBuffer pcm p.status ⟨none, framesRd⟩
    simp only [Audio.readPass, Bool.false_eq_true, if_false, hp.status]
    generalize Audio.getNextBuffer pcm p.status ⟨none, framesRd⟩ c = r at hn hr hc
    generalize Audio.getNextBuffer pcm p.status ⟨none, framesRd⟩ c' = r' at hn hr hc
    cases hx : r.2.1.raw with
    | none =>
      rw [hx, Option.map_none, Option.map_eq_none_iff] at hr
      rw [hr]
      exact ⟨rfl, rfl, hc.releaseBuffer hn⟩
    | some xs =>
      rw [hx, Option.map_some, Option.map_eq_some_iff] at hr
      obtain ⟨ys, hy, hlen⟩ := hr
      rw [hy]
      exact ⟨by simp only [List.length_take, hn, hlen], hn, hc.releaseBuffer hn⟩

/-- What two executions of `read_frames` share, having written `n` frames each. -/
theorem Capture.Alike.readFrames {passes passes' : List (ReadPass α)}
    (hp : List.Forall₂ ReadPass.Alike passes passes') (h : c.Alike c') (pcm : Option Nat)
    (resampler : Bool) (frames framesWr : Nat) {out out' : List α}
    (ho : out'.length = out.length) :
    (readFrames pcm resampler frames passes' framesWr out' c').ret =
        (readFrames pcm resampler frames passes framesWr out c).ret ∧
      (readFrames pcm resampler frames passes' framesWr out' c').out.length =
        (readFrames pcm resampler frames passes framesWr out c).out.length ∧
      (readFrames pcm resampler frames passes framesWr out c).capture.Alike
        (readFrames pcm resampler frames passes' framesWr out' c').capture := by
  induction hp generalizing c c' framesWr out out' with
  | nil => exact ⟨rfl, ho, h⟩
  | @cons p p' passes passes' hp _ ih =>
    simp only [Audio.readFrames]
    split
    · exact ⟨rfl, ho, h⟩
    · obtain ⟨hl, hn, hc⟩ := h.readPass hp pcm resampler (frames - framesWr)
      have hlen : (out' ++ (Audio.readPass pcm resampler (frames - framesWr) p' c').1).length =
          (out ++ (Audio.readPass pcm resampler (frames - framesWr) p c).1).length := by
        simp only [List.length_append, ho, hl]
      rw [hc.readStatus, hn]
      split
      · exact ⟨rfl, hlen, hc⟩
      · exact ih hc _ hlen

theorem length_writeAt_congr {buf buf' xs xs' : List α} (off : Nat)
    (hb : buf'.length = buf.length) (hx : xs'.length = xs.length) :
    (writeAt buf' off xs').length = (writeAt buf off xs).length := by
  simp only [writeAt, List.length_append, List.length_take, List.length_drop, hb, hx]

variable [Zero α]

theorem length_grow_congr {buf buf' : List α} (size : Nat) (hb : buf'.length = buf.length) :
    (grow buf' size).length = (grow buf size).length := by
  simp only [grow, List.length_append, List.length_replicate, hb]

theorem Capture.Alike.reload (h : c.Alike c') {p p' : ProcessPass α} (hp : p.Alike p')
    (pcm : Option Nat) (resampler : Bool) (frames : Nat) :
    (reload pcm resampler frames p' c').1 = (reload pcm resampler frames p c).1 ∧
      (reload pcm resampler frames p c).2.Alike (reload pcm resampler frames p' c').2 := by
  have hg : Capture.Alike
      (if c.procBufSize < frames then
        { c with procBufSize := frames, procBuf := grow c.procBuf frames } else c)
      (if c'.procBufSize < frames then
        { c' with procBufSize := frames, procBuf := grow c'.procBuf frames } else c') := by
    rw [h.procBufSize]
    split
    · exact { h with procBufSize := rfl, procBuf := length_grow_congr frames h.procBuf }
    · exact h
  unfold Audio.reload
  by_cases hf : c.procFramesIn < frames
  · rw [if_pos hf, if_pos (by rwa [h.procFramesIn])]
    simp only
    generalize (if c.procBufSize < frames then _ else c) = d at hg ⊢
    generalize (if c'.procBufSize < frames then _ else c') = d' at hg ⊢
    have hnil : ([] : List α).length = ([] : List α).length := rfl
    obtain ⟨hret, hout, hc⟩ := hg.readFrames hp.reads pcm resampler (frames - d.procFramesIn) 0 hnil
    rw [hg.procFramesIn, hret]
    generalize Audio.readFrames pcm resampler (frames - d.procFramesIn) p.reads 0 [] d = r
      at hret hout hc ⊢
    generalize Audio.readFrames pcm resampler (frames - d.procFramesIn) p'.reads 0 [] d' = r'
      at hret hout hc ⊢
    have hw : Capture.Alike
        { r.capture with procBuf := writeAt r.capture.procBuf d.procFramesIn r.out }
        { r'.capture with procBuf := writeAt r'.capture.procBuf d.procFramesIn r'.out } :=
      { hc with procBuf := length_writeAt_congr _ hc.procBuf hout }
    cases r.ret with
    | none => exact ⟨rfl, hw⟩
    | some n =>
      refine ⟨rfl, ?_⟩
      simp only
      split
      · exact hw
      · exact { hw with procFramesIn := by rw [hc.procFramesIn] }
  · rw [if_neg hf, if_neg (by rwa [h.procFramesIn])]
    exact ⟨rfl, h⟩

theorem Capture.Alike.updateEchoReference (h : c.Alike c') {p p' : ProcessPass α} (hp : p.Alike p')
    (frames : Nat) : (updateEchoReference frames p c).Alike (updateEchoReference frames p' c') := by
  have hg : Capture.Alike
      (if c.refBufSize < frames then
        { c with refBufSize := frames, refBuf := grow c.refBuf frames } else c)
      (if c'.refBufSize < frames then
        { c' with refBufSize := frames, refBuf := grow c'.refBuf frames } else c') := by
    rw [h.refBufSize]
    split
    · exact { h with refBufSize := rfl, refBuf := by rw [h.refBuf] }
    · exact h
  have hu : ∀ {d d' : Capture α}, d.Alike d' → Capture.Alike
      { d.usePcm with track := { d.usePcm.track with echoUses := d.usePcm.track.echoUses + 1 } }
      { d'.usePcm with track := { d'.usePcm.track with echoUses := d'.usePcm.track.echoUses + 1 } } :=
    fun h => { h with }
  have hr : ∀ {d d' : Capture α}, d.Alike d' → Capture.Alike
      (let r := p.echoRead (frames - d.refFramesIn)
       if r.1.1 = 0 then
        { d with
          refBuf := writeAt d.refBuf d.refFramesIn r.2
          refFramesIn := d.refFramesIn + r.2.length }
       else d)
      (let r := p'.echoRead (frames - d'.refFramesIn)
       if r.1.1 = 0 then
        { d' with
          refBuf := writeAt d'.refBuf d'.refFramesIn r.2
          refFramesIn := d'.refFramesIn + r.2.length }
       else d') := by
    intro d d' h
    simp only
    rw [h.refFramesIn, hp.echoRead]
    split
    · exact { h with refBuf := by rw [h.refBuf], refFramesIn := rfl }
    · exact h
  unfold Audio.updateEchoReference
  by_cases hf : c.refFramesIn < frames
  · have hf' : c'.refFramesIn < frames := by rwa [h.refFramesIn]
    rw [if_pos hf, if_pos hf']
    exact hr (hu hg)
  · have hf' : ¬ c'.refFramesIn < frames := by rwa [h.refFramesIn]
    rw [if_neg hf, if_neg hf']
    exact h

theorem Capture.Alike.pushEchoReference (h : c.Alike c') {p p' : ProcessPass α} (hp : p.Alike p')
    (n frames : Nat) :
    (pushEchoReference n frames p' c').1 = (pushEchoReference n frames p c).1 ∧
      (pushEchoReference n frames p c).2.Alike (pushEchoReference n frames p' c').2 := by
  have hu := h.updateEchoReference hp frames
  have hr : ∀ buf k m count, reverseChain p' buf k m count = reverseChain p buf k m count := by
    intro buf k m count
    induction m generalizing k count with
    | zero => rfl
    | succ m ih => simp only [reverseChain, hp.reverse, ih]
  simp only [Audio.pushEchoReference, hu.refFramesIn, hu.refBuf, hr]
  exact ⟨trivial, { hu with refFramesIn := rfl, refBuf := rfl }⟩

omit [Zero α] in
/-- What two executions of the preprocessors share, over as many frames. -/
theorem processChain_alike {p p' : ProcessPass α} (hp : p.Alike p') {buf buf' : List α}
    (hb : buf'.length = buf.length) (k n i o : Nat) {out out' : List α}
    (ho : out'.length = out.length) :
    (processChain p' buf' k n i o out').1 = (processChain p buf k n i o out).1 ∧
      (processChain p' buf' k n i o out').2.1 = (processChain p buf k n i o out).2.1 ∧
      (processChain p' buf' k n i o out').2.2.length =
        (processChain p buf k n i o out).2.2.length := by
  induction n generalizing k i o out out' with
  | zero => exact ⟨rfl, rfl, ho⟩
  | succ n ih =>
    obtain ⟨hi, hx⟩ := hp.process k (buf.take i) (buf'.take i) o
      (by simp only [List.length_take, hb])
    simp only [processChain, hi, hx]
    exact ih _ _ _ (length_writeAt_congr 0 ho hx)

omit [Zero α] in
theorem Capture.Alike.consume (h : c.Alike c') (count : Nat) :
    (consume count c).Alike (consume count c') := by
  refine { h with procFramesIn := by simp only [Audio.consume, h.procFramesIn], procBuf := ?_ }
  simp only [Audio.consume, h.procFramesIn]
  split
  · exact h.procBuf
  · refine length_writeAt_congr 0 h.procBuf ?_
    simp only [List.length_take, List.length_drop, h.procBuf]

theorem Capture.Alike.processPass (h : c.Alike c') {p p' : ProcessPass α} (hp : p.Alike p')
    (pcm : Option Nat) (resampler echo : Bool) (n frames framesWr : Nat) {dst dst' : List α}
    (hd : dst'.length = dst.length) :
    (processPass pcm resampler echo n frames framesWr p' dst' c').1 =
        (processPass pcm resampler echo n frames framesWr p dst c).1 ∧
      (processPass pcm resampler echo n frames framesWr p' dst' c').2.1.length =
        (processPass pcm resampler echo n frames framesWr p dst c).2.1.length ∧
      (processPass pcm resampler echo n frames framesWr p dst c).2.2.Alike
        (processPass pcm resampler echo n frames framesWr p' dst' c').2.2 := by
  obtain ⟨hret, hc⟩ := h.reload hp pcm resampler frames
  unfold Audio.processPass
  generalize Audio.reload pcm resampler frames p c = r at hret hc
  generalize Audio.reload pcm resampler frames p' c' = r' at hret hc
  obtain ⟨ret, d⟩ := r
  obtain ⟨ret', d'⟩ := r'
  obtain rfl : ret' = ret := hret
  cases ret' with
  | none => exact ⟨rfl, hd, hc⟩
  | some n' =>
    simp only
    split
    · exact ⟨rfl, hd, hc⟩
    · have hq : (if echo then Audio.pushEchoReference n d'.procFramesIn p' d'
            else (d'.procFramesIn, d')).1 =
          (if echo then Audio.pushEchoReference n d.procFramesIn p d
            else (d.procFramesIn, d)).1 ∧
          Capture.Alike (if echo then Audio.pushEchoReference n d.procFramesIn p d
            else (d.procFramesIn, d)).2
          (if echo then Audio.pushEchoReference n d'.procFramesIn p' d'
            else (d'.procFramesIn, d')).2 := by
        rw [hc.procFramesIn]
        split
        · exact hc.pushEchoReference hp n d.procFramesIn
        · exact ⟨rfl, hc⟩
      generalize (if echo then Audio.pushEchoReference n d.procFramesIn p d
        else (d.procFramesIn, d)) = q at hq ⊢
      generalize (if echo then Audio.pushEchoReference n d'.procFramesIn p' d'
        else (d'.procFramesIn, d')) = q' at hq ⊢
      obtain ⟨hq, hqc⟩ := hq
      have hdrop : (dst'.drop framesWr).length = (dst.drop framesWr).length := by
        simp only [List.length_drop, hd]
      obtain ⟨hi, ho, hl⟩ := processChain_alike hp hqc.procBuf 0 n q.1 (frames - framesWr) hdrop
      rw [hq, hi, ho]
      refine ⟨rfl, ?_, hqc.consume _⟩
      simp only [List.length_append, List.length_take, hd, hl]

/-- What two executions of `process_frames` share. -/
theorem Capture.Alike.processFrames {passes passes' : List (ProcessPass α)}
    (hp : List.Forall₂ ProcessPass.Alike passes passes') (h : c.Alike c') (pcm : Option Nat)
    (resampler echo : Bool) (n frames framesWr : Nat) {dst dst' : List α}
    (hd : dst'.length = dst.length) :
    (processFrames pcm resampler echo n frames passes' framesWr dst' c').ret =
        (processFrames pcm resampler echo n frames passes framesWr dst c).ret ∧
      (processFrames pcm resampler echo n frames passes' framesWr dst' c').out.length =
        (processFrames pcm resampler echo n frames passes framesWr dst c).out.length := by
  induction hp generalizing c c' framesWr dst dst' with
  | nil => exact ⟨rfl, hd⟩
  | @cons p p' passes passes' hp _ ih =>
    simp only [Audio.processFrames]
    split
    · exact ⟨rfl, hd⟩
    · obtain ⟨he, hl, hc⟩ := h.processPass hp pcm resampler echo n frames framesWr hd
      generalize Audio.processPass pcm resampler echo n frames framesWr p dst c = r at he hl hc ⊢
      generalize Audio.processPass pcm resampler echo n frames framesWr p' dst' c' = r'
        at he hl hc ⊢
      obtain ⟨e, out, d⟩ := r
      obtain ⟨e', out', d'⟩ := r'
      obtain rfl : e' = e := he
      cases e' with
      | hung => exact ⟨rfl, hl⟩
      | failed ret => exact ⟨rfl, hl⟩
      | next framesWr => exact ih hc framesWr hl

end

/-! ## A failure after frames were written -/

section
variable {α : Type} {c c' : Capture α}

/-- `read_frames` takes its error exit when it, or `wrote`, has put a frame into its destination. -/
def readFails (pcm : Option Nat) (resampler : Bool) (frames : Nat) :
    List (ReadPass α) → Nat → Bool → Capture α → Bool
  | [], _, _, _ => false
  | p :: passes, framesWr, wrote, c =>
    if frames ≤ framesWr then false
    else
      let r := readPass pcm resampler (frames - framesWr) p c
      let wrote := wrote || !r.1.isEmpty
      if r.2.2.readStatus ≠ 0 then wrote && decide (r.2.2.readStatus < 0)
      else readFails pcm resampler frames passes (framesWr + r.2.1) wrote r.2.2

theorem isEmpty_congr {xs ys : List α} (h : ys.length = xs.length) : ys.isEmpty = xs.isEmpty := by
  cases xs <;> cases ys <;> simp_all

theorem readFails_alike {passes passes' : List (ReadPass α)}
    (hp : List.Forall₂ ReadPass.Alike passes passes') (h : c.Alike c') (pcm : Option Nat)
    (resampler : Bool) (frames framesWr : Nat) (wrote : Bool) :
    readFails pcm resampler frames passes' framesWr wrote c' =
      readFails pcm resampler frames passes framesWr wrote c := by
  induction hp generalizing c c' framesWr wrote with
  | nil => rfl
  | @cons p p' passes passes' hp _ ih =>
    obtain ⟨hl, hn, hc⟩ := h.readPass hp pcm resampler (frames - framesWr)
    simp only [readFails, hc.readStatus, hn, isEmpty_congr hl, ih hc]

/-- `read_frames` fails with frames in its destination exactly when `readFails`. -/
theorem readFails_iff {passes : List (ReadPass α)} (pcm : Option Nat) (resampler : Bool)
    (frames framesWr : Nat) (out : List α) :
    readFails pcm resampler frames passes framesWr (!out.isEmpty) c = true ↔
      (∃ n, (readFrames pcm resampler frames passes framesWr out c).ret = some n ∧ n < 0) ∧
        (readFrames pcm resampler frames passes framesWr out c).out ≠ [] := by
  induction passes generalizing c framesWr out with
  | nil =>
    simp only [readFails, readFrames, Bool.false_eq_true, false_iff, not_and]
    rintro ⟨n, hn, hneg⟩
    split at hn
    · cases hn
      omega
    · cases hn
  | cons p passes ih =>
    simp only [readFails, readFrames]
    split
    · simp only [Bool.false_eq_true, false_iff, not_and]
      rintro ⟨n, hn, hneg⟩
      cases hn
      omega
    · have hw : (!out.isEmpty || !(readPass pcm resampler (frames - framesWr) p c).1.isEmpty) =
          !(out ++ (readPass pcm resampler (frames - framesWr) p c).1).isEmpty := by
        cases out <;> simp
      rw [hw]
      split
      · simp only [Bool.and_eq_true, Bool.not_eq_true', List.isEmpty_eq_false_iff, decide_eq_true_eq,
          Option.some.injEq, exists_eq_left']
        exact and_comm
      · exact ih _ _

variable [Zero α]

/-- `process_frames` takes its error exit when it, or `wrote`, has put a frame into the client's
buffer. What a pass writes there does not depend on what the buffer holds. -/
def processFails (pcm : Option Nat) (resampler echo : Bool) (n frames : Nat) :
    List (ProcessPass α) → Nat → Bool → Capture α → Bool
  | [], _, _, _ => false
  | p :: passes, framesWr, wrote, c =>
    if frames ≤ framesWr then false
    else
      match processPass pcm resampler echo n frames framesWr p [] c with
      | (.hung, _, _) => false
      | (.failed _, _, _) => wrote
      | (.next framesWr, out, c) =>
        processFails pcm resampler echo n frames passes framesWr (wrote || !out.isEmpty) c

theorem processFails_alike {passes passes' : List (ProcessPass α)}
    (hp : List.Forall₂ ProcessPass.Alike passes passes') (h : c.Alike c') (pcm : Option Nat)
    (resampler echo : Bool) (n frames framesWr : Nat) (wrote : Bool) :
    processFails pcm resampler echo n frames passes' framesWr wrote c' =
      processFails pcm resampler echo n frames passes framesWr wrote c := by
  induction hp generalizing c c' framesWr wrote with
  | nil => rfl
  | @cons p p' passes passes' hp _ ih =>
    simp only [processFails]
    split
    · rfl
    · have hnil : ([] : List α).length = ([] : List α).length := rfl
      obtain ⟨he, hl, hc⟩ := h.processPass hp pcm resampler echo n frames framesWr hnil
      generalize processPass pcm resampler echo n frames framesWr p [] c = r at he hl hc ⊢
      generalize processPass pcm resampler echo n frames framesWr p' [] c' = r' at he hl hc ⊢
      obtain ⟨e, out, d⟩ := r
      obtain ⟨e', out', d'⟩ := r'
      obtain rfl : e' = e := he
      cases e' with
      | hung => rfl
      | failed ret => rfl
      | next framesWr =>
        simp only at hl ⊢
        rw [isEmpty_congr hl]
        exact ih hc framesWr _

omit [Zero α] in
/-- What a chain of preprocessors writes, and where. -/
theorem processChain_out (p : ProcessPass α) (buf : List α) (k n i o : Nat) (out : List α) :
    (processChain p buf k n i o out).1 = (processChain p buf k n i o []).1 ∧
      (processChain p buf k n i o out).2.1 = (processChain p buf k n i o []).2.1 ∧
      (processChain p buf k n i o out).2.2 = (processChain p buf k n i o []).2.2 ++
        out.drop (processChain p buf k n i o []).2.2.length := by
  induction n generalizing k i o out with
  | zero => exact ⟨rfl, rfl, rfl⟩
  | succ n ih =>
    simp only [processChain]
    generalize p.process k (buf.take i) o = r
    obtain ⟨h1, h2, h3⟩ := ih (k + 1) r.1 r.2.length (writeAt out 0 r.2)
    obtain ⟨h1', h2', h3'⟩ := ih (k + 1) r.1 r.2.length (writeAt [] 0 r.2)
    refine ⟨h1.trans h1'.symm, h2.trans h2'.symm, ?_⟩
    rw [h3, h3']
    generalize (processChain p buf (k + 1) n r.1 r.2.length []).2.2 = w
    simp only [writeAt, List.take_zero, List.nil_append, Nat.zero_add, List.drop_nil,
      List.append_nil, List.drop_append, List.drop_drop, List.length_append, List.length_drop,
      List.append_assoc]
    congr 3
    omega

/-- What a pass writes into the client's buffer, and where. -/
theorem processPass_out (pcm : Option Nat) (resampler echo : Bool) (n frames framesWr : Nat)
    (p : ProcessPass α) (dst : List α) (c : Capture α) :
    (processPass pcm resampler echo n frames framesWr p dst c).1 =
        (processPass pcm resampler echo n frames framesWr p [] c).1 ∧
      (processPass pcm resampler echo n frames framesWr p dst c).2.2 =
        (processPass pcm resampler echo n frames framesWr p [] c).2.2 ∧
      (processPass pcm resampler echo n frames framesWr p dst c).2.1 =
        dst.take framesWr ++ ((processPass pcm resampler echo n frames framesWr p [] c).2.1 ++
          (dst.drop framesWr).drop
            (processPass pcm resampler echo n frames framesWr p [] c).2.1.length) := by
  unfold processPass
  split
  · simp
  · split
    · simp
    · next d _ _ =>
      simp only [List.take_nil, List.drop_nil, List.nil_append]
      generalize (if echo then pushEchoReference n d.procFramesIn p d else (d.procFramesIn, d)) = q
      obtain ⟨h1, h2, h3⟩ := processChain_out p q.2.procBuf 0 n q.1 (frames - framesWr)
        (dst.drop framesWr)
      rw [h1, h2, h3]
      exact ⟨rfl, rfl, rfl⟩

theorem processPass_failed {pcm : Option Nat} {resampler echo : Bool} {n frames framesWr : Nat}
    {p : ProcessPass α} {dst : List α} {m : Int}
    (h : (processPass pcm resampler echo n frames framesWr p dst c).1 = .failed m) :
    m < 0 ∧ (processPass pcm resampler echo n frames framesWr p dst c).2.1 = dst := by
  unfold processPass at h ⊢
  split at h
  · cases h
  · split at h
    · next hneg =>
      cases h
      rw [if_pos hneg]
      exact ⟨hneg, rfl⟩
    · cases h

theorem processFails_ret {passes : List (ProcessPass α)} (pcm : Option Nat) (resampler echo : Bool)
    (n frames framesWr : Nat) (wrote : Bool) (dst : List α)
    (hf : processFails pcm resampler echo n frames passes framesWr wrote c = true) :
    ∃ m, (processFrames pcm resampler echo n frames passes framesWr dst c).ret = some m ∧
      m < 0 := by
  induction passes generalizing c framesWr wrote dst with
  | nil => cases hf
  | cons p passes ih =>
    obtain ⟨he, hc, -⟩ := processPass_out pcm resampler echo n frames framesWr p dst c
    have hneg : ∀ m, (processPass pcm resampler echo n frames framesWr p dst c).1 = .failed m →
        m < 0 := fun m h => (processPass_failed h).1
    simp only [processFails, processFrames] at hf ⊢
    split at hf
    · cases hf
    · next hlt =>
      rw [if_neg hlt]
      generalize processPass pcm resampler echo n frames framesWr p dst c = r at he hc hneg ⊢
      generalize processPass pcm resampler echo n frames framesWr p [] c = r' at he hc hf
      obtain ⟨e, out, d⟩ := r
      obtain ⟨e', out', d'⟩ := r'
      obtain rfl : e = e' := he
      obtain rfl : d = d' := hc
      cases e with
      | hung => cases hf
      | failed m => exact ⟨m, rfl, hneg m rfl⟩
      | next framesWr => exact ih framesWr _ out hf

/-- Without `processFails`, `process_frames` that fails leaves the client's buffer alone. -/
theorem processFails_out {passes : List (ProcessPass α)} (pcm : Option Nat) (resampler echo : Bool)
    (n frames framesWr : Nat) (wrote : Bool) (dst : List α)
    (hf : processFails pcm resampler echo n frames passes framesWr wrote c = false) {m : Int}
    (hr : (processFrames pcm resampler echo n frames passes framesWr dst c).ret = some m)
    (hm : m < 0) : wrote = false ∧
      (processFrames pcm resampler echo n frames passes framesWr dst c).out = dst := by
  induction passes generalizing c framesWr wrote dst with
  | nil =>
    simp only [processFrames] at hr
    split at hr
    · cases hr
      omega
    · cases hr
  | cons p passes ih =>
    obtain ⟨he, hc, ho⟩ := processPass_out pcm resampler echo n frames framesWr p dst c
    have hfail : ∀ m, (processPass pcm resampler echo n frames framesWr p dst c).1 = .failed m →
        (processPass pcm resampler echo n frames framesWr p dst c).2.1 = dst :=
      fun m h => (processPass_failed h).2
    simp only [processFails, processFrames] at hf hr ⊢
    split at hf
    · next hle =>
      rw [if_pos hle] at hr
      cases hr
      omega
    · next hlt =>
      rw [if_neg hlt] at hr ⊢
      generalize processPass pcm resampler echo n frames framesWr p dst c = r at he hc ho hfail hr ⊢
      generalize processPass pcm resampler echo n frames framesWr p [] c = r' at he hc ho hf
      obtain ⟨e, out, d⟩ := r
      obtain ⟨e', out', d'⟩ := r'
      obtain rfl : e = e' := he
      obtain rfl : d = d' := hc
      cases e with
      | hung => cases hr
      | failed m => exact ⟨hf, hfail m rfl⟩
      | next framesWr' =>
        obtain ⟨hw, hout⟩ := ih framesWr' _ out hf hr
        rw [Bool.or_eq_false_iff, Bool.not_eq_false', List.isEmpty_iff] at hw
        simp only at ho hw
        refine ⟨hw.1, hout.trans ?_⟩
        rw [ho, hw.2]
        simp

end

/-! ## Executions with one sample -/

section
variable {α : Type} {a : α} {c : Capture α}

/-- Every sample of the microphone is `a`. -/
def Capture.paint (a : α) (c : Capture α) : Capture α :=
  { c with
    buffer := List.replicate c.buffer.length a
    procBuf := List.replicate c.procBuf.length a
    mic := fun _ => a }

/-- The resampler makes frames `a`. -/
def ReadPass.paint (a : α) (p : ReadPass α) : ReadPass α :=
  { p with resample := fun xs => List.replicate (p.resample xs).length a }

/-- The preprocessors make frames `a`. -/
def ProcessPass.paint (a : α) (p : ProcessPass α) : ProcessPass α :=
  { p with
    reads := p.reads.map (ReadPass.paint a)
    process := fun k xs room =>
      ((p.process k xs room).1, List.replicate (p.process k xs room).2.length a)
    consumed_le := p.consumed_le
    produced_le := fun k xs room => by
      simp only [List.length_replicate]
      exact p.produced_le k xs room }

def ReadScript.paint (a : α) (s : ReadScript α) : ReadScript α :=
  ⟨s.process.map (ProcessPass.paint a), s.read.map (ReadPass.paint a), s.direct⟩

theorem alike_paint (a : α) (c : Capture α) : c.Alike (c.paint a) :=
  ⟨rfl, List.length_replicate, rfl, rfl, List.length_replicate, rfl, rfl, rfl, rfl, rfl⟩

theorem ReadPass.Alike.paint {p : ReadPass α} (h : p.Alike p) (a : α) : p.Alike (p.paint a) :=
  ⟨rfl, rfl, fun xs ys hl => List.length_replicate.trans (h.resample xs ys hl)⟩

theorem ProcessPass.Alike.paint {p : ProcessPass α} (h : p.Alike p) (a : α) :
    p.Alike (p.paint a) where
  reads := List.forall₂_map_right_iff.mpr
    (List.forall₂_same.mpr fun q hq => (List.forall₂_same.mp h.reads q hq).paint a)
  echoRead := rfl
  reverse := rfl
  process k xs ys room hl :=
    ⟨(h.process k xs ys room hl).1, List.length_replicate.trans (h.process k xs ys room hl).2⟩

theorem ReadScript.Alike.paint {s : ReadScript α} (h : s.Alike s) (a : α) : s.Alike (s.paint a) where
  process := List.forall₂_map_right_iff.mpr
    (List.forall₂_same.mpr fun p hp => (List.forall₂_same.mp h.process p hp).paint a)
  read := List.forall₂_map_right_iff.mpr
    (List.forall₂_same.mpr fun p hp => (List.forall₂_same.mp h.read p hp).paint a)
  direct := rfl

/-- What the read loops can reach of the microphone is `a`. -/
structure Capture.Painted (a : α) (c : Capture α) : Prop where
  buffer : ∀ x ∈ c.buffer, x = a
  mic : ∀ n, c.mic n = a

theorem painted_paint (a : α) (c : Capture α) : (c.paint a).Painted a :=
  ⟨fun _ hx => List.eq_of_mem_replicate hx, fun _ => rfl⟩

theorem Capture.Painted.pcmRead (h : c.Painted a) (frames : Nat) (status : Status) :
    (∀ x ∈ (pcmRead frames status c).1, x = a) ∧ (pcmRead frames status c).2.Painted a := by
  simp only [Audio.pcmRead]
  split
  · refine ⟨fun x hx => ?_, ⟨h.buffer, h.mic⟩⟩
    obtain ⟨j, -, rfl⟩ := List.mem_map.mp hx
    exact h.mic _
  · exact ⟨fun x hx => (by cases hx), ⟨h.buffer, h.mic⟩⟩

theorem Capture.Painted.getNextBuffer (h : c.Painted a) (pcm : Option Nat) (status : Status)
    (b : ResamplerBuffer α) :
    (∀ xs, (getNextBuffer pcm status b c).2.1.raw = some xs → ∀ x ∈ xs, x = a) ∧
      (getNextBuffer pcm status b c).2.2.Painted a := by
  have hp : ∀ {d : Capture α}, d.Painted a →
      (∀ xs, (provide b d).2.1.raw = some xs → ∀ x ∈ xs, x = a) ∧
        (provide b d).2.2.Painted a := by
    intro d h
    refine ⟨fun xs hxs x hx => ?_, h⟩
    cases hxs
    exact h.buffer x (List.mem_of_mem_drop hx)
  cases pcm with
  | none => exact ⟨fun xs hxs => (by cases hxs), ⟨h.buffer, h.mic⟩⟩
  | some n =>
    simp only [Audio.getNextBuffer]
    split
    · obtain ⟨hx, hr⟩ := h.pcmRead c.periodSize status
      split
      · exact ⟨fun xs hxs => (by cases hxs), ⟨hr.buffer, hr.mic⟩⟩
      · exact hp ⟨hx, hr.mic⟩
    · exact hp h

theorem Capture.Painted.pullFrames (h : c.Painted a) (pcm : Option Nat)
    (calls : List (Nat × Nat × Status)) : (pullFrames pcm calls c).2.Painted a := by
  induction calls generalizing c with
  | nil => exact h
  | cons x calls ih =>
    obtain ⟨ask, use, status⟩ := x
    obtain ⟨-, hc⟩ := h.getNextBuffer pcm status ⟨none, ask⟩
    simp only [Audio.pullFrames]
    split
    · exact hc
    · exact ih ⟨hc.buffer, hc.mic⟩

theorem Capture.Painted.readPass (h : c.Painted a) (p : ReadPass α) (pcm : Option Nat)
    (resampler : Bool) (framesRd : Nat) :
    (∀ x ∈ (readPass pcm resampler framesRd (p.paint a) c).1, x = a) ∧
      (readPass pcm resampler framesRd (p.paint a) c).2.2.Painted a := by
  cases resampler with
  | true =>
    refine ⟨fun x hx => ?_, h.pullFrames pcm p.provider⟩
    exact List.eq_of_mem_replicate (List.mem_of_mem_take hx)
  | false =>
    obtain ⟨hx, hc⟩ := h.getNextBuffer pcm p.status ⟨none, framesRd⟩
    simp only [Audio.readPass, Bool.false_eq_true, if_false, ReadPass.paint]
    split
    · next xs hxs => exact ⟨fun x hm => hx xs hxs x (List.mem_of_mem_take hm), ⟨hc.buffer, hc.mic⟩⟩
    · exact ⟨fun x hm => (by cases hm), ⟨hc.buffer, hc.mic⟩⟩

/-- All `read_frames` writes is `a`. -/
theorem Capture.Painted.readFrames (h : c.Painted a) (passes : List (ReadPass α))
    (pcm : Option Nat) (resampler : Bool) (frames framesWr : Nat) {out : List α}
    (ho : ∀ x ∈ out, x = a) : ∀ x ∈ (readFrames pcm resampler frames
      (passes.map (ReadPass.paint a)) framesWr out c).out, x = a := by
  induction passes generalizing c framesWr out with
  | nil => exact ho
  | cons p passes ih =>
    obtain ⟨hx, hc⟩ := h.readPass p pcm resampler (frames - framesWr)
    have hout : ∀ x ∈ out ++ (Audio.readPass pcm resampler (frames - framesWr) (p.paint a) c).1,
        x = a := by
      intro x hm
      exact (List.mem_append.mp hm).elim (ho x) (hx x)
    simp only [List.map_cons, Audio.readFrames]
    split
    · exact ho
    · split
      · exact hout
      · exact ih hc _ hout

theorem processChain_paint (p : ProcessPass α) (buf : List α) (k n i o : Nat) {out : List α}
    (ho : ∀ x ∈ out, x = a) : ∀ x ∈ (processChain (p.paint a) buf k n i o out).2.2, x = a := by
  induction n generalizing k i o out with
  | zero => exact ho
  | succ n ih =>
    refine ih _ _ _ fun x hx => ?_
    simp only [writeAt, List.take_zero, List.nil_append, ProcessPass.paint] at hx
    rcases List.mem_append.mp hx with hx | hx
    · exact List.eq_of_mem_replicate hx
    · exact ho x (List.mem_of_mem_drop hx)

/-- A chain of preprocessors has written the frames it says it has produced. -/
theorem processChain_written (p : ProcessPass α) (buf : List α) (k n i o : Nat) (out : List α)
    (hn : n ≠ 0) : (processChain p buf k n i o out).2.1 ≤
      (processChain p buf k n i o out).2.2.length := by
  induction n generalizing k i o out with
  | zero => exact absurd rfl hn
  | succ n ih =>
    cases n with
    | zero =>
      simp only [processChain, writeAt, List.length_append]
      omega
    | succ n => exact ih _ _ _ _ (Nat.succ_ne_zero n)

variable [Zero α]

theorem processPass_paint (pcm : Option Nat) (resampler echo : Bool) (n frames framesWr : Nat)
    (p : ProcessPass α) (c : Capture α) (hn : n ≠ 0) :
    (∀ x ∈ (processPass pcm resampler echo n frames framesWr (p.paint a) [] c).2.1, x = a) ∧
      ∀ m, (processPass pcm resampler echo n frames framesWr (p.paint a) [] c).1 = .next m →
        m ≤ framesWr + (processPass pcm resampler echo n frames framesWr (p.paint a) [] c).2.1.length := by
  unfold processPass
  split
  · exact ⟨fun x hx => (by cases hx), fun m hm => (by cases hm)⟩
  · split
    · exact ⟨fun x hx => (by cases hx), fun m hm => (by cases hm)⟩
    · simp only [List.take_nil, List.drop_nil, List.nil_append]
      refine ⟨processChain_paint p _ _ _ _ _ fun x hx => (by cases hx), fun m hm => ?_⟩
      cases hm
      exact Nat.add_le_add_left (processChain_written _ _ _ _ _ _ _ hn) _

/-- With `processFails` the first frame of the client's buffer is `a`. -/
theorem processFrames_paint (passes : List (ProcessPass α)) (pcm : Option Nat)
    (resampler echo : Bool) (n frames framesWr : Nat) (wrote : Bool) (dst : List α) (c : Capture α)
    (hn : n ≠ 0) (hw : wrote = true → dst.head? = some a) (hfw : 0 < framesWr → wrote = true)
    (hf : processFails pcm resampler echo n frames (passes.map (ProcessPass.paint a)) framesWr wrote c =
      true) : (processFrames pcm resampler echo n frames (passes.map (ProcessPass.paint a)) framesWr
        dst c).out.head? = some a := by
  induction passes generalizing c framesWr wrote dst with
  | nil => cases hf
  | cons p passes ih =>
    obtain ⟨he, hc, ho⟩ := processPass_out pcm resampler echo n frames framesWr (p.paint a) dst c
    have hfail : ∀ m, (processPass pcm resampler echo n frames framesWr (p.paint a) dst c).1 =
        .failed m → (processPass pcm resampler echo n frames framesWr (p.paint a) dst c).2.1 = dst :=
      fun m h => (processPass_failed h).2
    obtain ⟨hx, hm⟩ := processPass_paint (a := a) pcm resampler echo n frames framesWr p c hn
    simp only [List.map_cons, processFails, processFrames] at hf ⊢
    split at hf
    · cases hf
    · next hlt =>
      rw [if_neg hlt]
      generalize processPass pcm resampler echo n frames framesWr (p.paint a) dst c = r
        at he hc ho hfail ⊢
      generalize processPass pcm resampler echo n frames framesWr (p.paint a) [] c = r'
        at he hc ho hf hx hm
      obtain ⟨e, out, d⟩ := r
      obtain ⟨e', w, d'⟩ := r'
      obtain rfl : e = e' := he
      obtain rfl : d = d' := hc
      cases e with
      | hung => cases hf
      | failed m =>
        have hd : out = dst := hfail m rfl
        rw [hd]
        exact hw hf
      | next framesWr' =>
        simp only at ho hx hm hf ⊢
        have hm := hm framesWr' rfl
        refine ih framesWr' _ out d (fun hwr => ?_) (fun hpos => ?_) hf
        · rw [ho]
          cases w with
          | nil =>
            rw [List.isEmpty_nil, Bool.not_true, Bool.or_false] at hwr
            rw [List.nil_append, List.length_nil, List.drop_zero, List.take_append_drop]
            exact hw hwr
          | cons x w =>
            cases framesWr with
            | zero => simp [hx x (List.mem_cons_self ..)]
            | succ k =>
              obtain ⟨tl, rfl⟩ := List.head?_eq_some_iff.mp (hw (hfw (Nat.succ_pos k)))
              simp
        · cases w with
          | nil =>
            rw [hfw (by simpa using Nat.lt_of_lt_of_le hpos hm), Bool.true_or]
          | cons x w => simp

end

/-! ## `in_read` -/

section
variable {α : Type} [Zero α] {inp : OmapStreamIn α} {c' : Capture α} {script script' : ReadScript α}

/-- A read fails after a frame was put into the client's buffer. -/
def failsAfterWriting (inp : OmapStreamIn α) (frames : Nat) (script : ReadScript α) : Bool :=
  if inp.numPreprocessors ≠ 0 then
    processFails inp.pcm inp.resampler inp.echoReference.isSome inp.numPreprocessors frames
      script.process 0 false inp.capture
  else if inp.resampler || inp.remixAtDriver.isSome then
    readFails inp.pcm inp.resampler frames script.read 0 false inp.capture
  else false

theorem failsAfterWriting_alike (hc : inp.capture.Alike c') (hs : script.Alike script')
    (frames : Nat) : failsAfterWriting { inp with capture := c' } frames script' =
      failsAfterWriting inp frames script := by
  simp only [failsAfterWriting, processFails_alike hs.process hc, readFails_alike hs.read hc]

/-- What a read path returned, wrote and left, before the mute. -/
def readPath (inp : OmapStreamIn α) (frames : Nat) (script : ReadScript α) (dst : List α) :
    Option Int × List α :=
  if inp.numPreprocessors ≠ 0 then
    let r := processFrames inp.pcm inp.resampler inp.echoReference.isSome inp.numPreprocessors
      frames script.process 0 dst inp.capture
    (r.ret, r.out)
  else if inp.resampler || inp.remixAtDriver.isSome then
    let r := readFrames inp.pcm inp.resampler frames script.read 0 [] inp.capture
    (r.ret, writeAt dst 0 r.out)
  else (some script.direct.1, writeAt dst 0 (pcmRead frames script.direct inp.capture).1)

/-- The mute comes after a read that succeeded. -/
theorem readPaths_muted (inp : OmapStreamIn α) (script : ReadScript α) (frames : Nat)
    (dst : List α) :
    (readPaths inp true frames script dst).ret =
        (readPath inp frames script dst).1.map (fun n => if 0 < n then 0 else n) ∧
      (readPaths inp true frames script dst).out =
        if (readPaths inp true frames script dst).ret = some 0 then
          List.replicate (readPath inp frames script dst).2.length 0
        else (readPath inp frames script dst).2 := by
  unfold readPaths readPath
  simp only [and_true]
  split
  · exact ⟨rfl, rfl⟩
  · split
    · exact ⟨rfl, rfl⟩
    · exact ⟨rfl, rfl⟩

theorem readPath_alike (hc : inp.capture.Alike c') (hs : script.Alike script') (frames : Nat)
    (dst : List α) :
    (readPath { inp with capture := c' } frames script' dst).1 = (readPath inp frames script dst).1 ∧
      (readPath { inp with capture := c' } frames script' dst).2.length =
        (readPath inp frames script dst).2.length := by
  unfold readPath
  split
  · exact hc.processFrames hs.process _ _ _ _ _ _ rfl
  · split
    · have hnil : ([] : List α).length = ([] : List α).length := rfl
      obtain ⟨hr, hl, -⟩ := hc.readFrames hs.read inp.pcm inp.resampler frames 0 hnil
      exact ⟨hr, length_writeAt_congr 0 rfl hl⟩
    · rw [hs.direct]
      exact ⟨rfl, length_writeAt_congr 0 rfl (hc.pcmRead frames script.direct).1⟩

theorem readPath_fails (frames : Nat) (dst : List α)
    (hf : failsAfterWriting inp frames script = true) :
    ∃ n, (readPath inp frames script dst).1 = some n ∧ n < 0 := by
  unfold failsAfterWriting at hf
  unfold readPath
  split at hf
  · next hn =>
    rw [if_pos hn]
    exact processFails_ret _ _ _ _ _ _ _ dst hf
  · next hn =>
    rw [if_neg hn]
    split at hf
    · next hr =>
      rw [if_pos hr]
      exact ((readFails_iff _ _ _ _ []).mp hf).1
    · cases hf

theorem readPath_out (frames : Nat) (dst : List α)
    (hf : failsAfterWriting inp frames script = false) {n : Int}
    (hr : (readPath inp frames script dst).1 = some n) (hn : n < 0) :
    (readPath inp frames script dst).2 = dst := by
  unfold failsAfterWriting at hf
  unfold readPath at hr ⊢
  split at hf
  · next hp =>
    rw [if_pos hp] at hr ⊢
    exact (processFails_out _ _ _ _ _ _ _ dst hf hr hn).2
  · next hp =>
    rw [if_neg hp] at hr ⊢
    split at hf
    · next hx =>
      rw [if_pos hx] at hr ⊢
      have hout : (readFrames inp.pcm inp.resampler frames script.read 0 [] inp.capture).out = [] := by
        by_contra hne
        have ht := (readFails_iff inp.pcm inp.resampler frames 0 []).mpr ⟨⟨n, hr, hn⟩, hne⟩
        rw [List.isEmpty_nil, Bool.not_true, hf] at ht
        cases ht
      simp only [hout, writeAt, List.take_zero, List.nil_append, List.length_nil, Nat.add_zero,
        List.drop_zero]
    · next hx =>
      rw [if_neg hx] at hr ⊢
      have hd : script.direct.1 ≠ 0 := by
        rintro h0
        rw [h0] at hr
        cases hr
        omega
      simp only [pcmRead, if_neg hd, writeAt, List.take_zero, List.nil_append, List.length_nil,
        Nat.add_zero, List.drop_zero]

theorem readPath_paint (frames : Nat) (dst : List α) (hs : script.Alike script)
    (hf : failsAfterWriting inp frames script = true) (a : α) :
    (readPath { inp with capture := inp.capture.paint a } frames (script.paint a) dst).2.head? =
      some a := by
  have hf' := (failsAfterWriting_alike (alike_paint a inp.capture) (hs.paint a) frames).trans hf
  unfold failsAfterWriting at hf'
  unfold readPath
  split at hf'
  · next hn =>
    rw [if_pos hn]
    exact processFrames_paint _ _ _ _ _ _ _ false dst _ hn (fun h => by cases h)
      (fun h => absurd h (Nat.lt_irrefl 0)) hf'
  · next hn =>
    rw [if_neg hn]
    split at hf'
    · next hr =>
      rw [if_pos hr]
      obtain ⟨-, hne⟩ := (readFails_iff _ _ _ _ []).mp hf'
      have hnil : ∀ x ∈ ([] : List α), x = a := fun x hx => (by cases hx)
      have hall := (painted_paint a inp.capture).readFrames script.read inp.pcm inp.resampler frames 0
        hnil
      simp only [writeAt, List.take_zero, List.nil_append]
      obtain ⟨x, xs, hx⟩ := List.exists_cons_of_ne_nil hne
      have hxa : x = a := hall x (hx ▸ List.mem_cons_self ..)
      rw [hx, hxa]
      rfl
    · cases hf'

theorem inReadData_muted {s : Hal α} {i : InId} (hi : s.ins i = some inp) (hm : s.micMute = true)
    (frames : Nat) (script : ReadScript α) (dst : List α) :
    (inReadData i frames dst script s).1 = (readPaths inp true frames script dst).ret ∧
      (inReadData i frames dst script s).2.1 = (readPaths inp true frames script dst).out := by
  unfold inReadData
  rw [hi, hm]
  exact ⟨rfl, rfl⟩

/-- With the microphone muted throughout, the client's buffer is the same whatever the samples of
the microphone are, in every execution of the same course that returns, exactly when no read fails
after a frame was put into it. -/
theorem mute_iff [Nontrivial α] {s : Hal α} {i : InId} (hi : s.ins i = some inp)
    (hm : s.micMute = true) (hs : script.Alike script) (frames : Nat) (dst : List α) :
    (∀ c' script', inp.capture.Alike c' → script.Alike script' →
      (inReadData i frames dst script s).1.isSome →
      (inReadData i frames dst script' (s.modIn i fun inp => { inp with capture := c' })).2.1 =
        (inReadData i frames dst script s).2.1) ↔
    failsAfterWriting inp frames script = false := by
  have hi' : ∀ c', (s.modIn i fun inp => { inp with capture := c' }).ins i =
      some { inp with capture := c' } := by
    intro c'
    simp [Hal.modIn, hi]
  obtain ⟨hret, hout⟩ := inReadData_muted hi hm frames script dst
  have hout' : ∀ c' script', (inReadData i frames dst script' (s.modIn i fun inp =>
      { inp with capture := c' })).2.1 =
        (readPaths { inp with capture := c' } true frames script' dst).out :=
    fun c' script' => (inReadData_muted (hi' c') hm frames script' dst).2
  simp only [hret, hout, hout']
  constructor
  · intro h
    by_contra hf
    rw [Bool.not_eq_false] at hf
    -- an execution in which all samples are `a` leaves an `a` in the client's buffer
    have hhead : ∀ a, (readPaths inp true frames script dst).out.head? = some a := by
      intro a
      have hf' := (failsAfterWriting_alike (alike_paint a inp.capture) (hs.paint a) frames).trans hf
      obtain ⟨n, hn, hneg⟩ := readPath_fails frames dst hf
      obtain ⟨hr, -⟩ := readPaths_muted inp script frames dst
      obtain ⟨n', hn', hneg'⟩ := readPath_fails frames dst hf'
      obtain ⟨hr', ho'⟩ := readPaths_muted { inp with capture := inp.capture.paint a }
        (script.paint a) frames dst
      rw [hn] at hr
      rw [hn', Option.map_some, if_neg (by omega)] at hr'
      rw [hr', if_neg (by simp; omega)] at ho'
      rw [← h _ _ (alike_paint a inp.capture) (hs.paint a) (by rw [hr]; rfl), ho']
      exact readPath_paint frames dst hs hf a
    obtain ⟨a, b, hab⟩ := exists_pair_ne α
    exact hab (Option.some.inj ((hhead a).symm.trans (hhead b)))
  · intro hf c' script' hc hs' hsome
    obtain ⟨hr, ho⟩ := readPaths_muted inp script frames dst
    obtain ⟨hr', ho'⟩ := readPaths_muted { inp with capture := c' } script'
      frames dst
    obtain ⟨hra, hla⟩ := readPath_alike hc hs' frames dst
    have hret' := hr'.trans ((congrArg _ hra).trans hr.symm)
    rw [ho, ho', hret', hla]
    split
    · rfl
    · next hne =>
      rw [hr] at hsome hne
      obtain ⟨n, hn⟩ := Option.isSome_iff_exists.mp (Option.isSome_map ▸ hsome)
      -- the read failed
      have hneg : n < 0 := by
        rw [hn, Option.map_some] at hne
        by_contra hge
        refine hne (congrArg some ?_)
        split <;> omega
      rw [readPath_out frames dst hf hn hneg]
      exact readPath_out frames dst ((failsAfterWriting_alike hc hs' frames).trans hf)
        (hra.trans hn) hneg

end

section
variable {α : Type} [Zero α]

theorem copy_alike : ProcessPass.Alike (.copy : ProcessPass α) .copy where
  reads := .cons ⟨rfl, rfl, fun _ _ h => h.symm⟩ .nil
  echoRead := rfl
  reverse := rfl
  process _ xs ys room h := by
    simp only [ProcessPass.copy, List.length_take, h]
    exact ⟨trivial, trivial⟩

end

/-- A stream at a rate is opened, muted and read. -/
def openMuted (rate : BitVec 32) : List (Event Nat) :=
  [.openInputStream 0 audioDeviceInBuiltinMic ⟨rate, 1, 1⟩ ⟨true, true, true, id⟩,
    .inAddAudioEffect 0 ⟨0, false⟩ 0, .setMicMute true, .inRead 0 2 true true]

set_option maxRecDepth 8000 in
theorem mute_openMuted : ∃ (s : Hal Nat) (inp : OmapStreamIn Nat),
    exec step (openMuted 48000) (openDevice fun _ => none) = some s ∧ s.ins 0 = some inp ∧
    ∀ c', inp.capture.Alike c' →
      (inReadData 0 2 [5, 5] ⟨[.copy], [], .ok⟩ (s.modIn 0 fun inp =>
        { inp with capture := c' })).2.1 = (inReadData 0 2 [5, 5] ⟨[.copy], [], .ok⟩ s).2.1 := by
  have hr : (exec step (openMuted 48000) (openDevice fun _ => none)).map (fun s => (s.micMute,
      (inReadData 0 2 [5, 5] ⟨[.copy], [], .ok⟩ s).1.isSome,
      (s.ins 0).map fun inp => failsAfterWriting inp 2 ⟨[.copy], [], .ok⟩)) =
      some (true, true, some false) := rfl
  obtain ⟨s, hs, hp⟩ := Option.map_eq_some_iff.mp hr
  simp only [Prod.mk.injEq] at hp
  obtain ⟨hm, hret, hf⟩ := hp
  obtain ⟨inp, hi, hf⟩ := Option.map_eq_some_iff.mp hf
  have ha : ReadScript.Alike (⟨[.copy], [], .ok⟩ : ReadScript Nat) ⟨[.copy], [], .ok⟩ :=
    ⟨.cons copy_alike .nil, .nil, rfl⟩
  exact ⟨s, inp, hs, hi, fun c' hc => (mute_iff hi hm ha 2 [5, 5]).mpr hf c' _ hc ha hret⟩

/-- A period is read and resampled, and the next read fails. -/
def secondReadFails : ReadScript Nat :=
  ⟨[], [⟨.ok, [(1920, 1920, .ok)], id⟩, ⟨.ok, [(1, 1, ⟨-5, by decide⟩)], id⟩], .ok⟩

set_option maxRecDepth 8000 in
/-- `in_read` reports all its bytes, and the period is in the client's buffer. -/
theorem mute_leaks : ∃ (s : Hal Nat) (inp : OmapStreamIn Nat) (c' : Capture Nat),
    exec step [.openInputStream 0 audioDeviceInBuiltinMic ⟨8000, 1, 1⟩ ⟨true, true, true, id⟩,
      .setMicMute true, .inRead 0 1921 true true] (openDevice fun _ => none) = some s ∧
    s.ins 0 = some inp ∧ s.micMute = true ∧ inp.capture.Alike c' ∧
    secondReadFails.Alike secondReadFails ∧
    (inReadData 0 1921 [] secondReadFails s).1 = some (-5) ∧
    (inReadData 0 1921 [] secondReadFails (s.modIn 0 fun inp =>
      { inp with capture := c' })).2.1 ≠ (inReadData 0 1921 [] secondReadFails s).2.1 := by
  have hr : (exec step [.openInputStream 0 audioDeviceInBuiltinMic ⟨8000, 1, 1⟩
      ⟨true, true, true, id⟩, .setMicMute true, .inRead 0 1921 true true]
      (openDevice fun _ => none)).map (fun s => (s.micMute, (s.ins 0).isSome,
        (inReadData 0 1921 [] secondReadFails s).1,
        (inReadData 0 1921 [] secondReadFails s).2.1.head?,
        (s.ins 0).map fun inp => (inReadData 0 1921 [] secondReadFails (s.modIn 0 fun _ =>
          { inp with capture := inp.capture.paint 7 })).2.1.head?)) =
      some (true, true, some (-5), some 0, some (some 7)) := rfl
  obtain ⟨s, hs, hp⟩ := Option.map_eq_some_iff.mp hr
  simp only [Prod.mk.injEq] at hp
  obtain ⟨hm, hi, hret, h0, h7⟩ := hp
  obtain ⟨inp, hi⟩ := Option.isSome_iff_exists.mp hi
  rw [hi, Option.map_some, Option.some.injEq] at h7
  refine ⟨s, inp, inp.capture.paint 7, hs, hi, hm, alike_paint 7 inp.capture, ⟨.nil, ?_, rfl⟩, hret,
    fun heq => ?_⟩
  · exact .cons ⟨rfl, rfl, fun _ _ h => h.symm⟩ (.cons ⟨rfl, rfl, fun _ _ h => h.symm⟩ .nil)
  · have hmod : (s.modIn 0 fun inp' => { inp' with capture := inp.capture.paint 7 }) =
        s.modIn 0 fun _ => { inp with capture := inp.capture.paint 7 } := by
      simp only [Hal.modIn, hi, Option.map_some]
    rw [hmod] at heq
    rw [heq, h0] at h7
    cases h7

end P970.Audio
