import P970.Lib.Run
import P970.Audio.Streams

/-!
# The life of a stream

Every entry point moves a pool that is in order to one that is, uses no pcm it
may not use, and stops no stream whose lock it has not taken (`Safe`); the streams
of the calls in progress therefore go on running (`Streams.Ok`). What follows for
every run is `active_running_pcm`.
-/

namespace P970.Audio

open P970.LockOrder (Op)

section
variable {α : Type} {s : Hal α}

/-! ## What every entry point keeps -/

/-- `s'` comes from `s` by code that keeps the streams in order, makes no pcm fault and stops no
stream whose lock it has not taken. -/
structure Safe (s s' : Hal α) : Prop where
  moves : s.streams.toPool.Moves StreamKey.dir (fun k => .lock k.mutex ∈ s'.trace) s'.streams.toPool
  faults : s'.streams.faults = s.streams.faults
  calls : s'.streams.calls = s.streams.calls
  trace : ∀ op ∈ s.trace, op ∈ s'.trace

variable {s' s'' : Hal α}

theorem Safe.of_eq (h : s'.streams = s.streams) (ht : s'.trace = s.trace) : Safe s s' :=
  ⟨by rw [h]; exact .refl, by rw [h], by rw [h], by simp [ht]⟩

theorem Safe.trans (h : Safe s s') (h' : Safe s' s'') : Safe s s'' where
  moves := (h.moves.mono fun _ => h'.trace _).trans h'.moves
  faults := h'.faults.trans h.faults
  calls := h'.calls.trans h.calls
  trace op ho := h'.trace op (h.trace op ho)

theorem Safe.inOrder (h : Safe s s') (hs : s.streams.InOrder) : s'.streams.InOrder := h.moves.ok hs

theorem safe_lock (m : Mutex) : Safe s (s.pthreadMutexLock m) :=
  ⟨.refl, rfl, rfl, fun _ h => List.mem_append_left _ h⟩

theorem safe_unlock (m : Mutex) : Safe s (s.pthreadMutexUnlock m) :=
  ⟨.refl, rfl, rfl, fun _ h => List.mem_append_left _ h⟩

theorem Locks.mem {n : Nat} (h : Locks n s s') : ∀ op ∈ s.trace, op ∈ s'.trace := by
  obtain ⟨t, ht, -⟩ := h
  rw [ht]
  exact fun op ho => List.mem_append_left _ ho

/-- Code that puts at most the stream `k` into standby, under its lock. -/
theorem Safe.of_standby {n : Nat} {k : StreamKey} (h : s'.streams = s.streams.standby k)
    (hl : .lock k.mutex ∈ s.trace) (ht : Locks n s s') : Safe s s' where
  moves := by
    rw [h]
    exact .stop .refl (ht.mem _ hl)
  faults := by rw [h]; rfl
  calls := by rw [h]; rfl
  trace := ht.mem

theorem Safe.both {m : Mutex} (h : Safe (s.lockBoth m) s') : Safe s (s'.unlockBoth m) :=
  ((safe_lock _).trans (safe_lock _)).trans (h.trans ((safe_unlock _).trans (safe_unlock _)))

theorem mem_lockBoth (m : Mutex) : .lock m ∈ (s.lockBoth m).trace :=
  List.mem_append_right _ (List.mem_singleton.mpr rfl)

theorem safe_doOutputStandby (h : s.streams.InOrder) {o : OutId} (ho : (s.outs o).isSome)
    (hl : .lock (.out o) ∈ s.trace) : Safe s (doOutputStandby o s) := by
  obtain ⟨out, ho⟩ := Option.isSome_iff_exists.mp ho
  exact .of_standby (n := 0) (streams_doOutputStandby h ho) hl (.of_eq (trace_doOutputStandby o))

theorem safe_doInputStandby (h : s.streams.InOrder) {i : InId} (hi : (s.ins i).isSome)
    (hl : .lock (.inp i) ∈ s.trace) : Safe s (doInputStandby i s) := by
  obtain ⟨inp, hi⟩ := Option.isSome_iff_exists.mp hi
  exact .of_standby (streams_doInputStandby h hi) hl (locks_doInputStandby i)

theorem safe_outStandby (h : s.streams.InOrder) {o : OutId} (ho : (s.outs o).isSome) :
    Safe s (outStandby o s) :=
  .both (safe_doOutputStandby (s := s.lockBoth (.out o)) h ho (mem_lockBoth _))

theorem safe_inStandby (h : s.streams.InOrder) {i : InId} (hi : (s.ins i).isSome) :
    Safe s (inStandby i s) :=
  .both (safe_doInputStandby (s := s.lockBoth (.inp i)) h hi (mem_lockBoth _))

theorem safe_forceOutput (h : s.streams.InOrder) : Safe s (forceOutput s) := by
  unfold forceOutput
  split
  · next o ho =>
    obtain ⟨out, hout⟩ := h.outputOpen.outs ho
    exact (safe_lock _).trans ((safe_doOutputStandby (s := s.pthreadMutexLock (.out o)) h
      (Option.isSome_of_eq_some hout) (by simp)).trans (safe_unlock _))
  · exact .of_eq rfl rfl

theorem safe_forceInput (h : s.streams.InOrder) : Safe s (forceInput s) := by
  unfold forceInput
  split
  · next i hi =>
    obtain ⟨inp, hinp⟩ := h.ins hi
    exact (safe_lock _).trans ((safe_doInputStandby (s := s.pthreadMutexLock (.inp i)) h
      (Option.isSome_of_eq_some hinp) (by simp)).trans (safe_unlock _))
  · exact .of_eq rfl rfl

theorem safe_forceAllStandby (h : s.streams.InOrder) : Safe s (forceAllStandby s) :=
  have ho := safe_forceOutput h
  ho.trans (safe_forceInput (ho.inOrder h))

theorem safe_selectMode (h : s.streams.InOrder) : Safe s (selectMode s) := by
  unfold selectMode
  split
  · split
    · exact .of_eq rfl rfl
    · refine (safe_forceAllStandby h).trans (.of_eq ?_ ?_)
      · simp only [applyVoiceVolume, streams_setInCall, streams_adevSetVoiceVolume,
          streams_selectOutputDevice, streams_callDevices]
      · simp only [applyVoiceVolume, trace_setInCall, trace_adevSetVoiceVolume,
          trace_selectOutputDevice, trace_callDevices]
  · split
    · have h0 : Safe s (s.setInCall false) := .of_eq rfl rfl
      refine h0.trans ((safe_forceAllStandby (s := s.setInCall false) h).trans (.of_eq ?_ ?_))
      · rw [streams_selectInputDevice, streams_selectOutputDevice]
      · rw [trace_selectInputDevice, trace_selectOutputDevice]
    · exact .of_eq rfl rfl

theorem safe_adevSetMode (h : s.streams.InOrder) (mode : Int) : Safe s (adevSetMode mode s) := by
  refine (safe_lock .device).trans (Safe.trans ?_ (safe_unlock .device))
  unfold changeMode
  split
  · have h0 : Safe (s.pthreadMutexLock .device) ((s.pthreadMutexLock .device).setMode mode) :=
      .of_eq rfl rfl
    exact h0.trans (safe_selectMode h)
  · exact .of_eq rfl rfl

theorem safe_rerouteOutput (h : s.streams.InOrder) {o : OutId} (ho : (s.outs o).isSome)
    (hl : .lock (.out o) ∈ s.trace) (val : Devices) : Safe s (rerouteOutput o val s).2 := by
  unfold rerouteOutput
  split
  · refine (safe_doOutputStandby h ho hl).trans (.of_eq ?_ ?_)
    · rw [streams_selectOutputDevice, streams_setOutDevice]
    · rw [trace_selectOutputDevice, trace_setOutDevice]
  · refine .of_eq ?_ ?_
    · rw [streams_selectOutputDevice, streams_setOutDevice]
    · rw [trace_selectOutputDevice, trace_setOutDevice]

theorem safe_outSetParameters (h : s.streams.InOrder) {o : OutId} (ho : (s.outs o).isSome)
    (kvpairs : KvPairs) : Safe s (outSetParameters o kvpairs s).2 := by
  unfold outSetParameters
  split
  · exact .of_eq rfl rfl
  · next ret value _ =>
    have hr : Safe (s.lockBoth (.out o))
        (setOutputRouting o (atoi value) (s.lockBoth (.out o))).2 := by
      unfold setOutputRouting
      split
      · exact safe_rerouteOutput (s := s.lockBoth (.out o)) h ho (mem_lockBoth _) _
      · exact .of_eq rfl rfl
    have hu := ((safe_lock .device).trans (safe_lock (.out o))).trans (hr.trans (safe_unlock (.out o)))
    refine hu.trans (Safe.trans ?_ (safe_unlock .device))
    split
    · exact safe_forceInput (hu.inOrder h)
    · exact .of_eq rfl rfl

theorem inputParameters_slot (kvpairs : KvPairs) (inp : OmapStreamIn α) :
    (inputParameters kvpairs inp).1.slot = inp.slot :=
  inputParameters_frame _ (fun _ _ => rfl) (fun _ _ => rfl) kvpairs inp

theorem safe_inSetParameters (h : s.streams.InOrder) {i : InId} (hi : (s.ins i).isSome)
    (kvpairs : KvPairs) : Safe s (inSetParameters i kvpairs s).2 := by
  obtain ⟨inp, hinp⟩ := Option.isSome_iff_exists.mp hi
  refine .both ?_
  have hl : (s.lockBoth (.inp i)).ins i = some inp := hinp
  rw [setInputParameters, hl]
  have hm : Safe (s.lockBoth (.inp i))
      ((s.lockBoth (.inp i)).modIn i fun _ => (inputParameters kvpairs inp).1) := by
    refine .of_eq (streams_modIn _ i fun inp' hi' => ?_) rfl
    rw [hl, Option.some.injEq] at hi'
    rw [← hi', inputParameters_slot]
  simp only
  split
  · exact hm.trans (safe_doInputStandby (hm.inOrder h) (by simp [Hal.modIn, hl]) (mem_lockBoth _))
  · exact hm

theorem safe_modIn (i : InId) {f : OmapStreamIn α → OmapStreamIn α}
    (hf : ∀ inp, (f inp).slot = inp.slot) : Safe s (s.modIn i f) :=
  .of_eq (streams_modIn s i fun inp _ => hf inp) rfl

theorem isSome_modIn (i : InId) (f : OmapStreamIn α → OmapStreamIn α) :
    ((s.modIn i f).ins i).isSome = (s.ins i).isSome := by
  simp [Hal.modIn]

theorem safe_effectChanged (h : s.streams.InOrder) {i : InId} (hi : (s.ins i).isSome)
    (hl : .lock (.inp i) ∈ s.trace) (effect : Effect) (need : Bool) :
    Safe s (effectChanged i effect need s) := by
  unfold effectChanged
  split
  · have hm : Safe s (s.modIn i fun inp => { inp with needEchoReference := need }) :=
      safe_modIn i fun _ => rfl
    exact hm.trans (safe_doInputStandby (hm.inOrder h) (by rwa [isSome_modIn]) hl)
  · exact .of_eq rfl rfl

theorem safe_addEffect (h : s.streams.InOrder) {i : InId} (hl : .lock (.inp i) ∈ s.trace)
    (hi : (s.ins i).isSome) (effect : Effect) (desc : Int) :
    Safe s (addEffect i effect desc s).2 := by
  obtain ⟨inp, hinp⟩ := Option.isSome_iff_exists.mp hi
  rw [addEffect, hinp]
  simp only
  split
  · exact .of_eq rfl rfl
  · split
    · exact .of_eq rfl rfl
    · have ha : Safe s (appendEffect i effect s) := safe_modIn i fun _ => rfl
      exact ha.trans (safe_effectChanged (ha.inOrder h) (by rwa [appendEffect, isSome_modIn]) hl _ _)

theorem safe_dropEffect (h : s.streams.InOrder) {i : InId} (hl : .lock (.inp i) ∈ s.trace)
    (hi : (s.ins i).isSome) (effect : Effect) (desc : Int) :
    Safe s (dropEffect i effect desc s).2 := by
  obtain ⟨inp, hinp⟩ := Option.isSome_iff_exists.mp hi
  rw [dropEffect, hinp]
  simp only
  split
  · exact .of_eq rfl rfl
  · split
    · exact .of_eq rfl rfl
    · have ha : ∀ slots, Safe s (storeEffects i slots s) := fun _ => safe_modIn i fun _ => rfl
      split
      · exact ha _
      · exact (ha _).trans
          (safe_effectChanged ((ha _).inOrder h) (by rwa [storeEffects, isSome_modIn]) hl _ _)

theorem streams_changeTtyMode (t : TtyMode) : (changeTtyMode t s).streams = s.streams := by
  unfold changeTtyMode
  split
  · split
    · rw [streams_selectOutputDevice, streams_setTtyMode]
    · rfl
  · rfl

theorem safe_adevSetParameters (kvpairs : KvPairs) : Safe s (adevSetParameters kvpairs s).2 := by
  have h : ∀ t, setTtyParameter kvpairs s = some t → Safe s t := by
    intro t ht
    unfold setTtyParameter at ht
    split at ht
    · cases ht
      exact .of_eq rfl rfl
    · obtain ⟨m, -, rfl⟩ := Option.map_eq_some_iff.mp ht
      exact (safe_lock .device).trans
        (Safe.trans (.of_eq (streams_changeTtyMode m) (trace_changeTtyMode m)) (safe_unlock .device))
  unfold adevSetParameters
  split
  · exact .of_eq rfl rfl
  · next t ht =>
    refine (h t ht).trans (.of_eq ?_ ?_)
    · split <;> rfl
    · split <;> rfl

theorem safe_freeOutput {o : OutId} {x : Option Nat} (h : s.streams.slot (.out o) = some ⟨true, x⟩) :
    Safe s (freeOutput o s) := by
  have hs : (freeOutput o s).slots = Function.update s.slots (.out o) none := by
    funext k
    cases k with
    | inp i => rfl
    | out o' =>
      by_cases ho : o' = o
      · subst ho; simp [freeOutput, Hal.slots]
      · simp [freeOutput, Hal.slots, Function.update_of_ne ho,
          Function.update_of_ne (show StreamKey.out o' ≠ .out o by simpa using ho)]
  have he : (freeOutput o s).streams = { s.streams with toPool := s.streams.remove (.out o) } := by
    simp only [Hal.streams, hs]
    rfl
  refine ⟨?_, by rw [he], by rw [he], fun _ => id⟩
  rw [he]
  exact .remove .refl h

theorem safe_freeInput {i : InId} {x : Option Nat} (h : s.streams.slot (.inp i) = some ⟨true, x⟩) :
    Safe s (freeInput i s) := by
  have hs : (freeInput i s).slots = Function.update s.slots (.inp i) none := by
    funext k
    cases k with
    | out o => rfl
    | inp i' =>
      by_cases hi : i' = i
      · subst hi; simp [freeInput, Hal.slots]
      · simp [freeInput, Hal.slots, Function.update_of_ne hi,
          Function.update_of_ne (show StreamKey.inp i' ≠ .inp i by simpa using hi)]
  have he : (freeInput i s).streams = { s.streams with toPool := s.streams.remove (.inp i) } := by
    simp only [Hal.streams, hs]
    rfl
  refine ⟨?_, by rw [he], by rw [he], fun _ => id⟩
  rw [he]
  exact .remove .refl h

/-- A stream put into standby is idle, whatever it was before. -/
theorem Streams.standby_idle {v : Streams} (h : v.InOrder) {k : StreamKey} (hk : v.slot k ≠ none) :
    ∃ x, (v.standby k).slot k = some ⟨true, x⟩ := by
  obtain ⟨⟨b, x⟩, hx⟩ := Option.ne_none_iff_exists'.mp hk
  cases b with
  | false => exact ⟨none, (h.stop_running hx).1⟩
  | true =>
    refine ⟨x, ?_⟩
    rw [Streams.standby, Pool.stop_idle (by simp [hx])]
    exact hx

theorem safe_adevCloseOutputStream (h : s.streams.InOrder) {o : OutId} (ho : (s.outs o).isSome) :
    Safe s (adevCloseOutputStream o s) := by
  obtain ⟨out, hout⟩ := Option.isSome_iff_exists.mp ho
  obtain ⟨x, hx⟩ := Streams.standby_idle h (k := .out o) (by rw [slot_out hout]; simp)
  refine (safe_outStandby h ho).trans (safe_freeOutput (x := x) ?_)
  rw [outStandby, streams_unlockBoth, streams_doOutputStandby (s := s.lockBoth (.out o)) h hout]
  exact hx

theorem safe_adevCloseInputStream (h : s.streams.InOrder) {i : InId} (hi : (s.ins i).isSome) :
    Safe s (adevCloseInputStream i s) := by
  obtain ⟨inp, hinp⟩ := Option.isSome_iff_exists.mp hi
  obtain ⟨x, hx⟩ := Streams.standby_idle h (k := .inp i) (by rw [slot_inp hinp]; simp)
  refine (safe_inStandby h hi).trans (safe_freeInput (x := x) ?_)
  rw [inStandby, streams_unlockBoth, streams_doInputStandby (s := s.lockBoth (.inp i)) h hinp]
  exact hx

/-! ## The calls that go on -/

theorem Safe.of_begin {n : Nat} {k : StreamKey} {ready : Bool}
    (h : s'.streams = s.streams.begin k ready) (ht : Locks n s s') : Safe s s' := by
  refine ⟨?_, ?_, ?_, ht.mem⟩
  · rw [h, Streams.begin]
    split
    · next hk =>
      obtain ⟨⟨b, x⟩, hx, rfl⟩ := (Option.any_eq_true ..).mp hk
      exact .start ready .refl hx
    · exact .refl
  · rw [h, Streams.begin]
    split <;> rfl
  · rw [h, Streams.begin]
    split <;> rfl

/-- The part of `out_write` under the device lock, and the stream it goes on with. -/
theorem safe_outWrite {o : OutId} (ho : (s.outs o).isSome) (ready : Bool) :
    Safe s (outWrite o ready s).2 ∧
    ((outWrite o ready s).1.isSome → (outWrite o ready s).2.streams.Running (.out o)) := by
  obtain ⟨out, hout⟩ := Option.isSome_iff_exists.mp ho
  obtain ⟨hb, hr⟩ := streams_beginWrite (s := s.lockBoth (.out o)) ready hout
  have hu : Safe s ((beginWrite o ready (s.lockBoth (.out o))).2.2.pthreadMutexUnlock .device) :=
    ((safe_lock .device).trans (safe_lock (.out o))).trans
      ((Safe.of_begin (n := 0) hb (.of_eq (trace_beginWrite o ready))).trans (safe_unlock .device))
  simp only [outWrite]
  split
  · exact ⟨hu.trans (safe_unlock _), fun hn => by cases hn⟩
  · next hz =>
    refine ⟨hu, fun _ => ?_⟩
    rw [streams_unlock, hb]
    exact hr (not_not.mp hz)

theorem safe_inRead (h : s.streams.InOrder) {i : InId} (hi : (s.ins i).isSome)
    (ready created : Bool) : Safe s (inRead i ready created s).2 ∧
    ((inRead i ready created s).1 → (inRead i ready created s).2.streams.Running (.inp i)) := by
  obtain ⟨inp, hinp⟩ := Option.isSome_iff_exists.mp hi
  obtain ⟨hb, hr⟩ := streams_beginRead (s := s.lockBoth (.inp i)) ready created h.outputOpen hinp
  have hu : Safe s ((beginRead i ready created (s.lockBoth (.inp i))).2.pthreadMutexUnlock .device) :=
    ((safe_lock .device).trans (safe_lock (.inp i))).trans
      ((Safe.of_begin hb (locks_beginRead i ready created)).trans (safe_unlock .device))
  simp only [inRead]
  split
  · exact ⟨hu.trans (safe_unlock _), fun hn => by cases hn⟩
  · next hz =>
    refine ⟨hu, fun _ => ?_⟩
    rw [streams_unlock, hb]
    exact hr hz

theorem streams_useOutput {out : OmapStreamOut} {h : Nat} (hp : out.pcm = some h)
    (hl : s.streams.ledger.live h = true) : (useOutput out s).streams = s.streams := by
  simp only [useOutput, hp]
  split
  · rw [pcmUse_live _ hl, pcmUse_live _ (by rwa [streams_echoUse]), streams_echoUse]
  · rw [pcmUse_live _ hl]

/-- `out_write` only uses the pcm of a stream that runs. -/
theorem streams_outWriteData (h : s.streams.InOrder) {o : OutId}
    (hr : s.streams.Running (.out o)) (ok : Bool) : (outWriteData o ok s).streams = s.streams := by
  obtain ⟨x, hx⟩ := hr
  obtain ⟨y, rfl, hl⟩ := h.running hx
  obtain ⟨out, hout, hs⟩ := Option.map_eq_some_iff.mp hx
  rw [OmapStreamOut.slot, Slot.mk.injEq] at hs
  rw [outWriteData, streams_unlock, writeData, hout]
  simp only
  split
  · split
    · have hm : (s.modOut o fun out => { out with resampler := true, buffer := true }).streams =
          s.streams := streams_modOut s o fun _ => rfl
      rw [streams_useOutput hs.2 (by rwa [hm]), hm]
    · rfl
  · exact streams_useOutput hs.2 hl

end

section
variable {α : Type} [Zero α] {s : Hal α}

theorem noDev_readPaths {inp : OmapStreamIn α} {h : Nat} (hp : inp.pcm = some h) (mute : Bool)
    (frames : Nat) (script : ReadScript α) (dst : List α) :
    (readPaths inp mute frames script dst).capture.track.noDev = inp.capture.track.noDev := by
  simp only [readPaths, hp]
  split
  · exact (noDev_kept h).processFrames ..
  · split
    · exact (noDev_kept h).reads.readFrames ..
    · exact noDev_pcmRead ..

/-- `in_read` only uses the pcm of a stream that runs, and finds one. -/
theorem streams_inReadData (h : s.streams.InOrder) {i : InId} (hr : s.streams.Running (.inp i))
    (frames : Nat) (dst : List α) (script : ReadScript α) :
    (inReadData i frames dst script s).2.2.streams = s.streams := by
  obtain ⟨x, hx⟩ := hr
  obtain ⟨y, rfl, hl⟩ := h.running hx
  obtain ⟨inp, hinp, hs⟩ := Option.map_eq_some_iff.mp hx
  rw [OmapStreamIn.slot, Slot.mk.injEq] at hs
  rw [inReadData, hinp]
  have hu : (useInput i inp inp.capture.track
      (readPaths inp s.micMute frames script dst).capture.track s).streams = s.streams := by
    simp only [useInput, noDev_readPaths hs.2, hs.2, pcmUse_live s hl, ite_self, ne_eq,
      not_true_eq_false, if_false]
    split
    · exact streams_echoUse? s _
    · rfl
  have hm : ∀ c, (Hal.modIn (useInput i inp inp.capture.track
      (readPaths inp s.micMute frames script dst).capture.track s) i fun inp =>
        { inp with capture := c }).streams = s.streams := by
    intro c
    refine (streams_modIn _ i ?_).trans hu
    exact fun _ _ => rfl
  simp only
  split
  · exact hm _
  · exact hm _

/-! ## Every step -/

/-- The pool is in order, no pcm fault was made, and the streams of the calls run. -/
structure Streams.Ok (v : Streams) : Prop where
  inOrder : v.InOrder
  faults : v.faults = []
  calls : ∀ c ∈ v.calls, ∀ k, c.stream = some k → v.Running k

omit [Zero α] in
theorem isFree_of_locksFree {s' : Hal α} (hf : s.locksFree s') {m : Mutex}
    (hm : .lock m ∈ s'.trace) {c : Call} (hc : c ∈ s.calls) : c.lock ≠ some m := by
  have h := List.all_eq_true.mp hf _ hm
  exact of_decide_eq_true (List.all_eq_true.mp h c hc)

theorem Call.lock_stream (c : Call) : c.lock = c.stream.map StreamKey.mutex := by
  cases c <;> rfl

/-- A step from `s` to `t` that opens no stream: it stops only streams whose lock is free, and the
calls it begins hold a running stream. -/
structure Moved (s t : Hal α) : Prop where
  moves : s.streams.toPool.Moves StreamKey.dir (fun k => s.isFree k.mutex) t.streams.toPool
  faults : t.streams.faults = s.streams.faults
  calls : ∀ c ∈ t.calls, c ∈ s.calls ∨ ∀ k, c.stream = some k → t.streams.Running k

omit [Zero α] in
/-- Code that is `Safe`, with the calls that are then in progress. -/
theorem Safe.moved {s' : Hal α} (h : Safe s.clearTrace s') (hf : s.locksFree s')
    (calls : List Call)
    (hc : ∀ c ∈ calls, c ∈ s.calls ∨ ∀ k, c.stream = some k → s'.streams.Running k) :
    Moved s ({ s' with calls := calls } : Hal α).clearTrace where
  moves := h.moves.mono fun _ hk => List.all_eq_true.mpr fun _ hc =>
    decide_eq_true (isFree_of_locksFree hf hk hc)
  faults := h.faults
  calls := hc

omit [Zero α] in
theorem Moved.of_eq {t : Hal α} (h : t.streams = s.streams) : Moved s t where
  moves := by rw [h]; exact .refl
  faults := by rw [h]
  calls c hc := by
    have he : t.calls = s.calls := congrArg Streams.calls h
    exact .inl (he ▸ hc)

omit [Zero α] in
/-- While a call holds its stream's lock, that stream goes on running. -/
theorem Moved.ok {t : Hal α} (h : Moved s t) (hI : s.streams.Ok) : t.streams.Ok where
  inOrder := h.moves.ok hI.inOrder
  faults := h.faults.trans hI.faults
  calls c hc k hk := by
    rcases h.calls c hc with hc | hr
    · obtain ⟨x, hx⟩ := hI.calls c hc k hk
      refine ⟨x, h.moves.kept hx fun hfree => ?_⟩
      have hn := of_decide_eq_true (List.all_eq_true.mp hfree c hc)
      rw [Call.lock_stream, hk] at hn
      exact hn rfl
    · exact hr k hk

omit [Zero α] in
theorem Safe.of_streams {s' : Hal α} (h : s'.streams = s.clearTrace.streams) :
    Safe s.clearTrace s' :=
  ⟨by rw [h]; exact .refl, by rw [h], by rw [h], fun _ hm => by cases hm⟩

/-- The entry points that are one event, but for the opening of streams. -/
theorem safe_act {e : Event α} (he : e.whole) (hg : guard s e) (h : s.streams.InOrder)
    (ho : ∀ o d a r, e ≠ .openOutputStream o d a r) (hi : ∀ i d c env, e ≠ .openInputStream i d c env) :
    Safe s (act e s) := by
  cases e with
  | openOutputStream o d a r => exact absurd rfl (ho o d a r)
  | closeOutputStream o => exact safe_adevCloseOutputStream h hg
  | openInputStream i d c env => exact absurd rfl (hi i d c env)
  | closeInputStream i => exact safe_adevCloseInputStream h hg
  | outWrite | outWriteData | outWriteForce | inRead | inReadData => cases he
  | outStandby o => exact safe_outStandby h hg
  | outSetParameters o kv => exact safe_outSetParameters h hg kv
  | inStandby i => exact safe_inStandby h hg
  | inSetParameters i kv => exact safe_inSetParameters h hg kv
  | inAddAudioEffect i e d =>
    exact .both (safe_addEffect (s := s.lockBoth (.inp i)) h (mem_lockBoth _) hg e d)
  | inRemoveAudioEffect i e d =>
    exact .both (safe_dropEffect (s := s.lockBoth (.inp i)) h (mem_lockBoth _) hg e d)
  | setParameters kv => exact safe_adevSetParameters kv
  | setMode mode => exact safe_adevSetMode h mode
  | setVoiceVolume v => exact .of_eq (streams_adevSetVoiceVolume s v) (trace_adevSetVoiceVolume v)
  | setMicMute b => exact .of_eq rfl rfl

omit [Zero α] in
theorem streams_adevOpenOutputStream (o : OutId) (d : Devices) (a r : Bool) :
    (adevOpenOutputStream o d a r s).2.streams = s.streams ∨
    (adevOpenOutputStream o d a r s).2.streams =
      { s.streams with toPool := s.streams.add (.out o) } := by
  rcases adevOpenOutputStream_cases o d a r s with ⟨-, h⟩ | h
  · exact .inl (by rw [h])
  right
  rw [h]
  simp only [Hal.streams, Pool.add, Streams.mk.injEq, Pool.mk.injEq, and_true]
  refine ⟨?_, rfl⟩
  funext k
  cases k with
  | inp i => rfl
  | out o' =>
    by_cases ho : o' = o
    · subst ho; simp [Hal.slots, OmapStreamOut.slot]
    · simp [Hal.slots, Function.update_of_ne ho,
        Function.update_of_ne (show StreamKey.out o' ≠ .out o by simpa using ho)]

omit [Zero α] in
theorem streams_adevOpenInputStream (i : InId) (d : Devices) (c : AudioConfig) (env : OpenEnv α) :
    (adevOpenInputStream i d c env s).2.streams = s.streams ∨
    (adevOpenInputStream i d c env s).2.streams =
      { s.streams with toPool := s.streams.add (.inp i) } := by
  rcases adevOpenInputStream_cases i d c env s with ⟨-, h⟩ | h
  · exact .inl (by rw [h])
  right
  rw [h]
  simp only [Hal.streams, Pool.add, Streams.mk.injEq, Pool.mk.injEq, and_true]
  refine ⟨?_, rfl⟩
  funext k
  cases k with
  | out o => rfl
  | inp i' =>
    by_cases hi : i' = i
    · subst hi; simp [Hal.slots, OmapStreamIn.slot, newInput]
    · simp [Hal.slots, Function.update_of_ne hi,
        Function.update_of_ne (show StreamKey.inp i' ≠ .inp i by simpa using hi)]

theorem Streams.Ok.add {v : Streams} (h : v.Ok) {k : StreamKey} (hk : v.slot k = none) :
    Streams.Ok { v with toPool := v.add k } where
  inOrder := Pool.Ok.add h.inOrder hk
  faults := h.faults
  calls c hc k' hk' := by
    obtain ⟨x, hx⟩ := h.calls c hc k' hk'
    refine ⟨x, (Pool.slot_add k').trans ?_⟩
    rw [if_neg, hx]
    rintro rfl
    rw [hk] at hx
    cases hx

omit [Zero α] in
theorem slot_out_none {o : OutId} (h : (s.outs o).isNone) : s.streams.slot (.out o) = none := by
  show (s.outs o).map _ = none
  rw [Option.isNone_iff_eq_none.mp h, Option.map_none]

omit [Zero α] in
theorem slot_inp_none {i : InId} (h : (s.ins i).isNone) : s.streams.slot (.inp i) = none := by
  show (s.ins i).map _ = none
  rw [Option.isNone_iff_eq_none.mp h, Option.map_none]

/-- What a step is: the event could happen, its locks were free, and it happened. -/
theorem step_some {e : Event α} {t : Hal α} (h : step s e = some t) :
    guard s e ∧ s.locksFree (act e s.clearTrace) ∧ t = (act e s.clearTrace).clearTrace := by
  unfold step at h
  split at h
  · next hc =>
    rw [Bool.and_eq_true] at hc
    exact ⟨hc.1, hc.2, (Option.some.inj h).symm⟩
  · cases h

/-- The stream an event opens when it succeeds. -/
def Event.opens : Event α → Option StreamKey
  | .openOutputStream o .. => some (.out o)
  | .openInputStream i .. => some (.inp i)
  | _ => none

/-- What a step does to the streams. -/
theorem step_streams {e : Event α} {t : Hal α} (hI : s.streams.Ok) (h : step s e = some t) :
    Moved s t ∨ ∃ k, e.opens = some k ∧ s.streams.slot k = none ∧
      t.streams = { s.streams with toPool := s.streams.add k } := by
  obtain ⟨hg, hf, rfl⟩ := step_some h
  have hO : s.clearTrace.streams.InOrder := hI.inOrder
  by_cases he : e.whole ∧ (∀ o d a r, e ≠ .openOutputStream o d a r) ∧
      ∀ i d c env, e ≠ .openInputStream i d c env
  · have hs := safe_act (s := s.clearTrace) he.1 hg hO he.2.1 he.2.2
    have hc : (act e s.clearTrace).calls = s.calls := hs.calls
    exact .inl (hs.moved hf _ fun c hm => .inl (hc ▸ hm))
  cases e with
  | openOutputStream o d a r =>
    rcases streams_adevOpenOutputStream (s := s.clearTrace) o d a r with hs | hs
    · exact .inl (.of_eq hs)
    · exact .inr ⟨_, rfl, slot_out_none hg, hs⟩
  | openInputStream i d c env =>
    rcases streams_adevOpenInputStream (s := s.clearTrace) i d c env with hs | hs
    · exact .inl (.of_eq hs)
    · exact .inr ⟨_, rfl, slot_inp_none hg, hs⟩
  | outWrite o ready =>
    obtain ⟨hs, hr⟩ := safe_outWrite (s := s.clearTrace) hg ready
    have hc : (outWrite o ready s.clearTrace).2.calls = s.calls := hs.calls
    cases hw : (outWrite o ready s.clearTrace).1 with
    | none =>
      simp only [act, hw] at hf ⊢
      exact .inl (hs.moved hf _ fun c hm => .inl (hc ▸ hm))
    | some force =>
      simp only [act, hw] at hf ⊢
      refine .inl (hs.moved hf _ fun c hm => ?_)
      rcases List.mem_cons.mp hm with rfl | hm
      · right
        rintro k ⟨⟩
        exact hr (by rw [hw]; rfl)
      · exact .inl (hc ▸ hm)
  | outWriteData o force ok =>
    have hm : Call.outWrite o force ∈ s.calls := List.contains_iff_mem.mp hg
    have hs := streams_outWriteData (s := s.clearTrace) hO (hI.calls _ hm _ rfl) ok
    have hc : (outWriteData o ok s.clearTrace).calls = s.calls := congrArg Streams.calls hs
    refine .inl ((Safe.of_streams hs).moved hf _ fun c hm => ?_)
    simp only [hc] at hm
    split at hm
    · rcases List.mem_cons.mp hm with rfl | hm
      · exact .inr fun k hk => by cases hk
      · exact .inl (List.mem_of_mem_erase hm)
    · exact .inl (List.mem_of_mem_erase hm)
  | outWriteForce =>
    have hs : Safe s.clearTrace (outWriteForce s.clearTrace) :=
      (safe_lock .device).trans ((safe_forceInput (s := s.clearTrace.pthreadMutexLock .device)
        hO).trans (safe_unlock .device))
    have hc : (outWriteForce s.clearTrace).calls = s.calls := hs.calls
    exact .inl (hs.moved hf _ fun c hm => .inl (hc ▸ List.mem_of_mem_erase hm))
  | inRead i frames ready created =>
    obtain ⟨hs, hr⟩ := safe_inRead (s := s.clearTrace) hO hg ready created
    have hc : (inRead i ready created s.clearTrace).2.calls = s.calls := hs.calls
    by_cases hw : (inRead i ready created s.clearTrace).1 = true
    · simp only [act, hw, if_true] at hf ⊢
      refine .inl (hs.moved hf _ fun c hm => ?_)
      rcases List.mem_cons.mp hm with rfl | hm
      · right
        rintro k ⟨⟩
        exact hr hw
      · exact .inl (hc ▸ hm)
    · simp only [act, hw] at hf ⊢
      exact .inl (hs.moved hf _ fun c hm => .inl (hc ▸ hm))
  | inReadData i frames dst script =>
    have hm : Call.inRead i frames ∈ s.calls := List.contains_iff_mem.mp hg
    have hr := hI.calls _ hm _ rfl
    have hs := streams_inReadData (s := s.clearTrace) hO hr frames dst script
    have hc : (inReadData i frames dst script s.clearTrace).2.2.calls = s.calls :=
      congrArg Streams.calls hs
    refine .inl ((Safe.of_streams hs).moved hf _ fun c hm => ?_)
    simp only [hc] at hm
    split at hm
    · exact .inl (List.mem_of_mem_erase hm)
    · rcases List.mem_cons.mp hm with rfl | hm
      · right
        rintro k ⟨⟩
        rw [hs]
        exact hr
      · exact .inl (List.mem_of_mem_erase hm)
  | closeOutputStream | closeInputStream | outStandby | outSetParameters | inStandby
  | inSetParameters | inAddAudioEffect | inRemoveAudioEffect | setParameters | setMode
  | setVoiceVolume | setMicMute => exact absurd ⟨rfl, by simp, by simp⟩ he

theorem Streams.Ok.step {e : Event α} {t : Hal α} (hI : s.streams.Ok) (h : step s e = some t) :
    t.streams.Ok := by
  rcases step_streams hI h with hm | ⟨k, -, hk, ht⟩
  · exact hm.ok hI
  · exact ht ▸ hI.add hk

/-- The calls in progress after an event. -/
def callsAfter (s : Hal α) : Event α → List Call
  | .outWrite o ready =>
    match (outWrite o ready s).1 with
    | some force => .outWrite o force :: s.calls
    | none => s.calls
  | .outWriteData o force _ =>
    let calls := s.calls.erase (.outWrite o force)
    if force then .outForce :: calls else calls
  | .outWriteForce => s.calls.erase .outForce
  | .inRead i frames ready created =>
    if (inRead i ready created s).1 then .inRead i frames :: s.calls else s.calls
  | .inReadData i frames dst script =>
    let calls := s.calls.erase (.inRead i frames)
    if (inReadData i frames dst script s).1.isSome then calls else .inLoop i :: calls
  | _ => s.calls

theorem calls_step {e : Event α} {t : Hal α} (hI : s.streams.Ok) (ht : step s e = some t) :
    t.calls = callsAfter s.clearTrace e := by
  obtain ⟨hg, -, rfl⟩ := step_some ht
  show (act e s.clearTrace).calls = _
  have hO : s.clearTrace.streams.InOrder := hI.inOrder
  by_cases hw : e.whole ∧ (∀ o d a r, e ≠ .openOutputStream o d a r) ∧
      ∀ i d c env, e ≠ .openInputStream i d c env
  · have hs : (act e s.clearTrace).calls = s.calls :=
      (safe_act (s := s.clearTrace) hw.1 hg hO hw.2.1 hw.2.2).calls
    cases e with
    | outWrite | outWriteData | outWriteForce | inRead | inReadData => cases hw.1
    | _ => exact hs
  cases e with
  | openOutputStream o d a r =>
    rcases streams_adevOpenOutputStream (s := s.clearTrace) o d a r with hs | hs
    · exact congrArg Streams.calls hs
    · exact congrArg Streams.calls hs
  | openInputStream i d x env =>
    rcases streams_adevOpenInputStream (s := s.clearTrace) i d x env with hs | hs
    · exact congrArg Streams.calls hs
    · exact congrArg Streams.calls hs
  | outWrite o ready =>
    have hs : (outWrite o ready s.clearTrace).2.calls = s.calls :=
      (safe_outWrite (s := s.clearTrace) hg ready).1.calls
    cases hr : (outWrite o ready s.clearTrace).1 with
    | none =>
      simp only [act, callsAfter, hr]
      exact hs
    | some force =>
      simp only [act, callsAfter, hr]
      exact congrArg (List.cons _) hs
  | outWriteData o force ok =>
    have hm : Call.outWrite o force ∈ s.calls := List.contains_iff_mem.mp hg
    have hs : (outWriteData o ok s.clearTrace).calls = s.calls := congrArg Streams.calls
      (streams_outWriteData (s := s.clearTrace) hO (hI.calls _ hm _ rfl) ok)
    simp only [act, callsAfter, hs]
    rfl
  | outWriteForce =>
    have hs : (outWriteForce s.clearTrace).calls = s.calls :=
      ((safe_lock .device).trans ((safe_forceInput (s := s.clearTrace.pthreadMutexLock .device)
        hO).trans (safe_unlock .device))).calls
    exact congrArg (List.erase · _) hs
  | inRead i frames ready created =>
    have hs : (inRead i ready created s.clearTrace).2.calls = s.calls :=
      (safe_inRead (s := s.clearTrace) hO hg ready created).1.calls
    simp only [act, callsAfter]
    split
    · exact congrArg (List.cons _) hs
    · exact hs
  | inReadData i frames dst script =>
    have hm : Call.inRead i frames ∈ s.calls := List.contains_iff_mem.mp hg
    have hs : (inReadData i frames dst script s.clearTrace).2.2.calls = s.calls :=
      congrArg Streams.calls (streams_inReadData (s := s.clearTrace) hO (hI.calls _ hm _ rfl) frames
        dst script)
    simp only [act, callsAfter, hs]
    rfl
  | closeOutputStream | closeInputStream | outStandby | outSetParameters | inStandby
  | inSetParameters | inAddAudioEffect | inRemoveAudioEffect | setParameters | setMode
  | setVoiceVolume | setMicMute => exact absurd ⟨rfl, by simp, by simp⟩ hw

omit [Zero α] in
theorem streams_openDevice (m : Mixer) : (openDevice m : Hal α).streams =
    ⟨⟨fun _ => none, fun _ => none, Ledger.empty⟩, [], []⟩ := by
  have h : (openDevice m : Hal α).streams =
      (callocDevice m : Hal α).streams := streams_selectOutputDevice _
  rw [h]
  simp only [Hal.streams, Streams.mk.injEq, Pool.mk.injEq]
  refine ⟨⟨?_, ?_, rfl⟩, rfl, rfl⟩
  · funext k
    cases k <;> rfl
  · funext d
    cases d <;> rfl

/-- In every state a run reaches. -/
theorem streams_ok {name : String} {alloc : Bool} {mixer : Option Mixer} {s₀ : Hal α}
    (h0 : adevOpen name alloc mixer = .ok s₀) (h : Reach step s₀ s) : s.streams.Ok := by
  obtain ⟨m, -, rfl⟩ := adevOpen_ok h0
  refine h.invariant (I := fun s => s.streams.Ok) ?_ fun s e t hI _ hs => hI.step hs
  rw [streams_openDevice]
  exact ⟨Pool.ok_empty, rfl, fun c hc => by cases hc⟩

/-! ## One stream of each direction -/

omit [Zero α] in
/-- An output is opened only when no output is open, an input only when no input is. -/
def oneStream (s : Hal α) : Event α → Prop
  | .openOutputStream .. => ∀ o, s.outs o = none
  | .openInputStream .. => ∀ i, s.ins i = none
  | _ => True

/-- Streams are opened one at a time, so every running stream is the active one. -/
structure Streams.One (v : Streams) : Prop where
  single : v.toPool.Single StreamKey.dir
  tight : v.toPool.Tight StreamKey.dir

omit [Zero α] in
theorem slot_eq_none {e : Event α} (h : oneStream s e) {k : StreamKey} (hk : e.opens = some k)
    {j : StreamKey} (hj : j.dir = k.dir) : s.streams.slot j = none := by
  cases e with
  | openOutputStream o d a r =>
    cases hk
    cases j with
    | out o' =>
      show (s.outs o').map _ = none
      rw [h o', Option.map_none]
    | inp i' => cases hj
  | openInputStream i d c env =>
    cases hk
    cases j with
    | inp i' =>
      show (s.ins i').map _ = none
      rw [h i', Option.map_none]
    | out o' => cases hj
  | _ => cases hk

theorem Streams.One.step {e : Event α} {t : Hal α} (h1 : s.streams.One) (hI : s.streams.Ok)
    (he : oneStream s e) (h : step s e = some t) : t.streams.One := by
  rcases step_streams hI h with hm | ⟨k, hk, -, ht⟩
  · exact ⟨h1.single.moves hm.moves, h1.tight.moves h1.single hI.inOrder hm.moves⟩
  · rw [ht]
    exact ⟨h1.single.add fun j hj => slot_eq_none he hk hj, h1.tight.add k⟩

theorem streams_one {name : String} {alloc : Bool} {mixer : Option Mixer} {s₀ : Hal α}
    (h0 : adevOpen name alloc mixer = .ok s₀) (h : Run step oneStream s₀ s) : s.streams.One := by
  refine h.invariant_of (I := fun s => s.streams.One) (J := fun s => s.streams.Ok)
    (fun u hu => streams_ok h0 hu.reach) ?_ fun u e t hI h1 he hs => h1.step hI he hs
  obtain ⟨m, -, rfl⟩ := adevOpen_ok h0
  rw [streams_openDevice]
  exact ⟨fun k k' hk => absurd rfl hk, fun k x hk => by cases hk⟩

/-! ## Active streams, running streams, open handles -/

/-- The active pointers name open running streams, a stream is out of standby exactly when its
pcm field holds an open handle, every open handle belongs to one running stream, and nothing
closed is ever closed again or used. -/
theorem active_running_pcm {name : String} {alloc : Bool} {mixer : Option Mixer} {s₀ : Hal α}
    (h0 : adevOpen name alloc mixer = .ok s₀) (h : Reach step s₀ s) :
    ((∀ o, s.activeOutput = some o → ∃ out, s.outs o = some out ∧ out.standby = false) ∧
      ∀ i, s.activeInput = some i → ∃ inp, s.ins i = some inp ∧ inp.standby = false) ∧
    ((∀ o out, s.outs o = some out →
        (out.standby = false ↔ ∃ n, out.pcm = some n ∧ s.pcms.live n = true)) ∧
      (∀ i inp, s.ins i = some inp →
        (inp.standby = false ↔ ∃ n, inp.pcm = some n ∧ s.pcms.live n = true)) ∧
      ∀ n, s.pcms.live n = true → ∃! k, s.slots k = some ⟨false, some n⟩) ∧
    ∀ f ∈ s.faults, f.pcm = false := by
  have hI := streams_ok h0 h
  refine ⟨⟨fun o ho => ?_, fun i hi => ?_⟩, ⟨fun o out ho => ?_, fun i inp hi => ?_, fun n hn => ?_⟩, ?_⟩
  · obtain ⟨-, x, hx⟩ := hI.inOrder.active (k := .out o) (by rw [active_out, ho, Option.map_some])
    obtain ⟨out, hout, hs⟩ := Option.map_eq_some_iff.mp hx
    exact ⟨out, hout, congrArg Slot.idle hs⟩
  · obtain ⟨-, x, hx⟩ := hI.inOrder.active (k := .inp i) (by rw [active_inp, hi, Option.map_some])
    obtain ⟨inp, hinp, hs⟩ := Option.map_eq_some_iff.mp hx
    exact ⟨inp, hinp, congrArg Slot.idle hs⟩
  · exact hI.inOrder.idle_eq_false_iff (slot_out ho)
  · exact hI.inOrder.idle_eq_false_iff (slot_inp hi)
  · obtain ⟨k, hk⟩ := hI.inOrder.owned hn
    exact ⟨k, hk, fun k' hk' => hI.inOrder.sole hk' hk⟩
  · intro f hf
    by_contra hp
    have hm : f ∈ s.streams.faults := List.mem_filter.mpr ⟨hf, by simpa using hp⟩
    rw [hI.faults] at hm
    cases hm

/-- A run: an output and an input stream are opened, written and read. -/
def playAndCapture : List (Event Nat) :=
  [.openOutputStream 0 audioDeviceOutSpeaker true true,
    .openInputStream 0 audioDeviceInBuiltinMic ⟨48000, 1, 1⟩ ⟨true, true, true, id⟩,
    .outWrite 0 true, .outWriteData 0 false true,
    .inRead 0 160 true true, .inReadData 0 160 [] ⟨[], [], .ok⟩]

theorem active_running_pcm_playAndCapture :
    ∃ s, exec step playAndCapture (openDevice fun _ => none) = some s ∧
      s.activeOutput = some 0 ∧ ∃ out, s.outs 0 = some out ∧ out.standby = false := by
  have hs : (exec step playAndCapture (openDevice fun _ => none)).map Hal.activeOutput =
      some (some 0) := rfl
  obtain ⟨s, hs, ha⟩ := Option.map_eq_some_iff.mp hs
  exact ⟨s, hs, ha, (active_running_pcm (adevOpen_some _) (Reach.of_exec hs)).1.1 0 ha⟩

end

end P970.Audio
