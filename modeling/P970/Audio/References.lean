import P970.Audio.Echo

/-!
# The entry points on the echo references

The operations on the echo references (`Echo.Op`), and the ones an event in a
state comes to (`echoOps`). An operation may drop the device's reference, or
replace it (`Echo.Op.drops`): the references stay in order when nobody but the
active output and the input at hand has it (`Echo.Alone`).
-/

namespace P970.Audio

namespace Echo

variable {v w : Echo}

/-! ## What keeps the references in order -/

/-- No stream but the active output and input `i` has a reference. -/
structure Alone (v : Echo) (i : InId) : Prop where
  output : ∀ o b e, v.output o = some (b, some e) → v.activeOutput = some o
  input : ∀ j x, v.input j = some x → x.reference ≠ none → j = i

/-- `w` is `v` with another reference, or none, for the device and the active output. -/
structure Renews (v w : Echo) : Prop where
  live : ∀ e, w.reference = some e → w.ledger.live e = true
  output : ∀ o, w.output o = if v.activeOutput = some o then some (true, w.reference) else v.output o
  input : w.input = v.input
  activeOutput : w.activeOutput = v.activeOutput
  faults : w.faults = v.faults

theorem output_setActiveReference (v : Echo) (r : Option Nat) (o : OutId) :
    (v.setActiveReference r).output o =
      if v.activeOutput = some o then some (true, r) else v.output o := by
  unfold setActiveReference
  cases v.activeOutput with
  | none => rfl
  | some o' =>
    by_cases h : o = o'
    · subst h
      simp [setOutput]
    · simp [setOutput, h, Ne.symm h]

theorem Ok.renews_clear (h : v.Ok) : Renews v v.clear where
  live e he := by
    rw [reference_clear] at he
    cases he
  output o := by
    by_cases ho : v.activeOutput = some o
    · rw [if_pos ho, h.output_clear ho, reference_clear]
    · rw [if_neg ho]
      unfold clear
      split
      · exact (output_setActiveReference v none o).trans (if_neg ho)
      · rfl
  input := v.input_clear
  activeOutput := v.activeOutput_clear
  faults := by
    unfold clear setActiveReference
    split
    · simp only
      split <;> rfl
    · rfl

theorem Ok.renews_renew (h : v.Ok) (created : Bool) : Renews v (v.renew created) := by
  have hc := h.renews_clear
  unfold renew
  cases ho : v.activeOutput with
  | none => exact hc
  | some o =>
    cases created with
    | false => exact hc
    | true =>
      simp only [if_true]
      refine ⟨fun e he => ?_, fun o' => ?_, ?_, ?_, ?_⟩
      · cases he
        rw [Ledger.live_alloc]
        exact if_pos rfl
      · refine (output_setActiveReference _ _ o').trans ?_
        rw [hc.activeOutput, hc.output]
        split <;> rfl
      · rw [← hc.input]
        simp only [setActiveReference]
        split <;> rfl
      · rw [← hc.activeOutput]
        simp only [setActiveReference]
        split <;> rfl
      · rw [← hc.faults]
        simp only [setActiveReference]
        split <;> rfl

/-- Where nobody else has the old reference, the new one may take its place. -/
theorem Renews.ok (hr : Renews v w) (h : v.Ok) {i : InId} (ha : v.Alone i) {x : InputEcho}
    (hx : x.reference = none ∨ x.reference = w.reference) : (w.setInput i (some x)).Ok where
  live := hr.live
  output o b r ho := by
    have ho : w.output o = some (b, r) := ho
    rw [hr.output] at ho
    split at ho
    · cases ho
      exact .inr ⟨rfl, rfl⟩
    · next hn =>
      cases r with
      | none => exact .inl rfl
      | some e => exact absurd (ha.output o b e ho) hn
  input j y hj := by
    have hj : Function.update w.input i (some x) j = some y := hj
    rw [Function.update_apply, hr.input] at hj
    split at hj
    · cases hj
      exact hx
    · next hn => exact .inl (of_not_not fun hy => hn (ha.input j y hj hy))
  active o ho := by
    have ho : w.activeOutput = some o := ho
    rw [hr.activeOutput] at ho
    exact ⟨w.reference, (hr.output o).trans (if_pos ho)⟩
  faults := hr.faults.trans h.faults

/-- Nobody has a reference when the device has none. -/
theorem Ok.alone (h : v.Ok) (hr : v.reference = none) (i : InId) : v.Alone i where
  output o b e ho := by
    rcases h.output o b _ ho with he | ⟨-, he⟩
    · cases he
    · rw [hr] at he
      cases he
  input j x hj hx := by
    rcases h.input j x hj with he | he
    · exact absurd he hx
    · exact absurd (he.trans hr) hx

theorem Ok.setInput (h : v.Ok) (i : InId) {x : Option InputEcho}
    (hx : ∀ y, x = some y → y.reference = none ∨ y.reference = v.reference) :
    (v.setInput i x).Ok where
  live := h.live
  output := h.output
  input j y hj := by
    have hj : Function.update v.input i x j = some y := hj
    rw [Function.update_apply] at hj
    split at hj
    · exact hx y hj
    · exact h.input j y hj
  active := h.active
  faults := h.faults

theorem Ok.setOutput (h : v.Ok) {o : OutId} {x : Option (Bool × Option Nat)}
    (ho : ∀ r, v.output o ≠ some (true, r)) (hx : ∀ b r, x = some (b, r) → r = none) :
    (v.setOutput o x).Ok where
  live := h.live
  output o' b r hr := by
    have hr : Function.update v.output o x o' = some (b, r) := hr
    rw [Function.update_apply] at hr
    split at hr
    · exact .inl (hx b r hr)
    · exact h.output o' b r hr
  input := h.input
  active o' ha := by
    obtain ⟨r, hr⟩ := h.active o' ha
    have hne : o' ≠ o := by
      rintro rfl
      exact ho r hr
    exact ⟨r, (Function.update_of_ne hne ..).trans hr⟩
  faults := h.faults

/-- The active input plays no part. -/
theorem Ok.setActiveInput (h : v.Ok) (i : Option InId) : Ok { v with activeInput := i } :=
  ⟨h.live, h.output, h.input, h.active, h.faults⟩

theorem Ok.stopOutput (h : v.Ok) (o : OutId) : (v.stopOutput o).Ok := by
  unfold Echo.stopOutput
  split
  · refine ⟨h.live, fun o' b r hr => ?_, h.input, (fun o' ho => by cases ho), h.faults⟩
    have hr : Function.update v.output o (some (false, none)) o' = some (b, r) := hr
    rw [Function.update_apply] at hr
    split at hr
    · cases hr
      exact .inl rfl
    · exact h.output o' b r hr
  · exact h

theorem Ok.startOutput (h : v.Ok) (o : OutId) (ready : Bool) : (v.startOutput o ready).Ok := by
  unfold Echo.startOutput
  split
  · refine ⟨h.live, fun o' b r hr => ?_, h.input, fun o' ho => ?_, h.faults⟩
    · have hr : Function.update v.output o
          (some (ready, if ready then v.reference else none)) o' = some (b, r) := hr
      rw [Function.update_apply] at hr
      split at hr
      · cases hr
        cases ready with
        | true => exact .inr ⟨rfl, rfl⟩
        | false => exact .inl rfl
      · exact h.output o' b r hr
    · have ho : (if ready then some o else none) = some o' := ho
      cases ready with
      | true =>
        cases ho
        exact ⟨_, Function.update_self ..⟩
      | false => cases ho
  · exact h

/-! ## The operations -/

inductive Op where
  | openOutput (o : OutId)
  | closeOutput (o : OutId)
  | openInput (i : InId)
  | closeInput (i : InId)
  | setNeed (i : InId) (need : Bool)
  | setSource (i : InId) (source : BitVec 32)
  | stopOutput (o : OutId)
  | stopInput (i : InId)
  | startOutput (o : OutId) (ready : Bool)
  | startInput (i : InId) (ready created : Bool)

def Op.run : Op → Echo → Echo
  | .openOutput o, v => v.setOutput o (some (false, none))
  | .closeOutput o, v => v.setOutput o none
  | .openInput i, v => v.setInput i (some ⟨false, none, false, 0⟩)
  | .closeInput i, v => v.setInput i none
  | .setNeed i need, v => v.setInput i ((v.input i).map fun x => { x with need := need })
  | .setSource i source, v => v.setInput i ((v.input i).map fun x => { x with source := source })
  | .stopOutput o, v => v.stopOutput o
  | .stopInput i, v => v.stopInput i
  | .startOutput o ready, v => v.startOutput o ready
  | .startInput i ready created, v => v.startInput i ready created

def runOps : List Op → Echo → Echo
  | [], v => v
  | op :: ops, v => runOps ops (op.run v)

/-- The operation takes the device's reference away or replaces it, input `i` being the one that
stops or starts. -/
def Op.drops (v : Echo) (i : InId) : Op → Prop
  | .stopInput j => j = i ∧ ∃ x, v.input i = some x ∧ x.running = true ∧ x.reference ≠ none
  | .startInput j _ _ => j = i ∧ v.reference ≠ none ∧
      ∃ x, v.input i = some x ∧ x.running = false ∧ x.need = true ∧ x.reference = none
  | _ => False

/-- Streams are opened under a free id, an output is closed when it does not run, and a reference
is dropped when nobody else has it. -/
structure Op.Fits (v : Echo) (op : Op) : Prop where
  opens : ∀ o, op = .openOutput o → v.output o = none
  closes : ∀ o, op = .closeOutput o → ∀ r, v.output o ≠ some (true, r)
  drops : ∀ i, op.drops v i → v.Alone i

/-- Every operation of the list fits the references it finds. -/
def FitsAlong : List Op → Echo → Prop
  | [], _ => True
  | op :: ops, v => op.Fits v ∧ FitsAlong ops (op.run v)

theorem Ok.stopInput (h : v.Ok) {i : InId} (ha : Op.drops v i (.stopInput i) → v.Alone i) :
    (v.stopInput i).Ok := by
  unfold Echo.stopInput
  cases hi : v.input i with
  | none => exact h
  | some x =>
    cases hr : x.running with
    | false => simpa only [hr, Bool.false_eq_true, if_false] using h
    | true =>
      simp only [hr, if_true, dropInput]
      by_cases hx : x.reference = none
      · rw [if_pos hx]
        exact (h.setActiveInput none).setInput i fun y hy => by cases hy; exact .inl rfl
      · rw [if_neg hx]
        have ha := ha ⟨rfl, x, hi, hr, hx⟩
        exact (h.setActiveInput none).renews_clear.ok (h.setActiveInput none)
          ⟨ha.output, ha.input⟩ (.inl rfl)

theorem Ok.startInput (h : v.Ok) {i : InId} (ready created : Bool)
    (ha : Op.drops v i (.startInput i ready created) → v.Alone i) :
    (v.startInput i ready created).Ok := by
  unfold Echo.startInput
  cases hi : v.input i with
  | none => exact h
  | some x =>
    cases hr : x.running with
    | true => simpa only [hr, if_true] using h
    | false =>
      have ht : (v.takeInput i created x).Ok := by
        unfold Echo.takeInput
        split
        · next hc =>
          rw [Bool.and_eq_true, decide_eq_true_eq] at hc
          have ha : v.Alone i := by
            by_cases hv : v.reference = none
            · exact h.alone hv i
            · exact ha ⟨rfl, hv, x, hi, hr, hc.1, hc.2⟩
          exact (h.renews_renew created).ok h ha (.inr rfl)
        · exact h
      simp only [hr, Bool.false_eq_true, if_false]
      refine Ok.setActiveInput (ht.setInput i fun y hy => ?_) _
      obtain ⟨z, hz, rfl⟩ := Option.map_eq_some_iff.mp hy
      exact ht.input i z hz

theorem Ok.run (h : v.Ok) {op : Op} (hf : op.Fits v) : (op.run v).Ok := by
  have hm : ∀ (i : InId) (f : InputEcho → InputEcho), (∀ x, (f x).reference = x.reference) →
      (v.setInput i ((v.input i).map f)).Ok := by
    intro i f hf
    refine h.setInput i fun y hy => ?_
    obtain ⟨x, hx, rfl⟩ := Option.map_eq_some_iff.mp hy
    rw [hf]
    exact h.input i x hx
  cases op with
  | openOutput o => exact h.setOutput (by simp [hf.opens o rfl]) fun b r hx => by cases hx; rfl
  | closeOutput o => exact h.setOutput (hf.closes o rfl) fun b r hx => by cases hx
  | openInput i => exact h.setInput i fun y hy => by cases hy; exact .inl rfl
  | closeInput i => exact h.setInput i fun y hy => by cases hy
  | setNeed i need => exact hm i _ fun _ => rfl
  | setSource i source => exact hm i _ fun _ => rfl
  | stopOutput o => exact h.stopOutput o
  | stopInput i => exact h.stopInput (hf.drops i)
  | startOutput o ready => exact h.startOutput o ready
  | startInput i ready created => exact h.startInput ready created (hf.drops i)

theorem Ok.runOps {ops : List Op} (h : v.Ok) (hf : FitsAlong ops v) : (v.runOps ops).Ok := by
  induction ops generalizing v with
  | nil => exact h
  | cons op ops ih => exact ih (h.run hf.1) hf.2

/-- Neither opens nor closes an output. -/
theorem Op.Fits.of_drops {op : Op} (ho : ∀ o, op ≠ .openOutput o) (hc : ∀ o, op ≠ .closeOutput o)
    (hd : ∀ i, op.drops v i → v.Alone i) : op.Fits v :=
  ⟨fun o h => absurd h (ho o), fun o h => absurd h (hc o), hd⟩

theorem fits_setNeed (i : InId) (need : Bool) : Op.Fits v (.setNeed i need) :=
  .of_drops (by simp) (by simp) fun _ hd => hd.elim

theorem fits_setSource (i : InId) (source : BitVec 32) : Op.Fits v (.setSource i source) :=
  .of_drops (by simp) (by simp) fun _ hd => hd.elim

/-- Fields of input `i` other than these two were changed. -/
theorem fits_stopInput_modified {i : InId} {f : InputEcho → InputEcho}
    (hf : ∀ x, (f x).running = x.running ∧ (f x).reference = x.reference)
    (ha : ∀ j, Op.drops v j (.stopInput i) → v.Alone j) :
    Op.Fits (v.setInput i ((v.input i).map f)) (.stopInput i) := by
  refine .of_drops (by simp) (by simp) ?_
  rintro _ ⟨rfl, y, hy, hr, hn⟩
  have hy : Function.update v.input i ((v.input i).map f) i = some y := hy
  rw [Function.update_self] at hy
  obtain ⟨x, hx, rfl⟩ := Option.map_eq_some_iff.mp hy
  have ha := ha i ⟨rfl, x, hx, (hf x).1 ▸ hr, (hf x).2 ▸ hn⟩
  refine ⟨ha.output, fun j z hj hz => ?_⟩
  by_contra hji
  exact hji (ha.input j z ((Function.update_of_ne hji ..).symm.trans hj) hz)

theorem activeInput_stopOutput (v : Echo) (o : OutId) :
    (v.stopOutput o).activeInput = v.activeInput := by
  unfold stopOutput
  split <;> rfl

theorem input_stopOutput (v : Echo) (o : OutId) : (v.stopOutput o).input = v.input := by
  unfold stopOutput
  split <;> rfl

theorem output_stopOutput (v : Echo) (o o' : OutId) : (v.stopOutput o).output o' =
    if o' = o then (v.output o).map fun x => (false, if x.1 then none else x.2)
    else v.output o' := by
  unfold stopOutput
  split
  · next hr =>
    refine (Function.update_apply ..).trans ?_
    rw [hr]
    rfl
  · next hr =>
    split
    · next he =>
      subst he
      rcases ho : v.output o' with _ | ⟨_ | _, r⟩
      · rfl
      · rfl
      · exact absurd ho (hr r)
    · rfl

/-- The active output was stopped. -/
theorem Ok.fits_stopInput_stopOutput (h : v.Ok) {i : InId} {o : OutId}
    (ho : v.activeOutput = some o) (ha : ∀ j, Op.drops v j (.stopInput i) → v.Alone j) :
    Op.Fits (v.stopOutput o) (.stopInput i) := by
  refine .of_drops (by simp) (by simp) ?_
  rintro _ ⟨rfl, x, hx, hr, hn⟩
  rw [input_stopOutput] at hx
  have ha := ha i ⟨rfl, x, hx, hr, hn⟩
  obtain ⟨r, hr⟩ := h.active o ho
  refine ⟨fun o' b e he => ?_, fun j y hj hy => ?_⟩
  · rw [output_stopOutput] at he
    split at he
    · rw [hr] at he
      cases he
    · next hne =>
      have ho' := ha.output o' b e he
      rw [ho] at ho'
      exact absurd (Option.some.inj ho').symm hne
  · rw [input_stopOutput] at hj
    exact ha.input j y hj hy

end Echo

section
variable {α : Type} {s : Hal α}

/-! ## The entry points -/

def haltOutput (output : Option OutId) : List Echo.Op :=
  match output with
  | some o => [.stopOutput o]
  | none => []

def haltInput (input : Option InId) : List Echo.Op :=
  match input with
  | some i => [.stopInput i]
  | none => []

/-- `adev_set_mode` to this mode enters or leaves a call. -/
def Hal.crosses (s : Hal α) (mode : Int) : Bool :=
  s.mode ≠ mode && decide (mode = audioModeInCall) != s.inCall

/-- `out_set_parameters` with device `val`. -/
def rerouteHalts (s : Hal α) (o : OutId) (val : Devices) : List Echo.Op :=
  if s.outDevice ≠ val ∧ val ≠ 0 then
    if s.activeOutput = some o then
      .stopOutput o :: if s.voiceInputActive then haltInput s.activeInput else []
    else []
  else []

def echoOps (s : Hal α) : Event α → List Echo.Op
  | .openOutputStream o devices alloc ok =>
    if (adevOpenOutputStream o devices alloc ok s).1 = 0 then [.openOutput o] else []
  | .closeOutputStream o => [.stopOutput o, .closeOutput o]
  | .openInputStream i devices config env =>
    if (adevOpenInputStream i devices config env s).1 = 0 then [.openInput i] else []
  | .closeInputStream i => [.stopInput i, .closeInput i]
  | .outWrite o ready => [.startOutput o ready]
  | .outWriteForce => haltInput s.activeInput
  | .outStandby o => [.stopOutput o]
  | .outSetParameters o kvpairs =>
    match strParmsGetStr kvpairs audioParameterStreamRouting with
    | some (_, value) => rerouteHalts s o (atoi value)
    | none => []
  | .inRead i _ ready created => [.startInput i ready created]
  | .inStandby i => [.stopInput i]
  | .inSetParameters i kvpairs =>
    match s.ins i with
    | some inp =>
      let r := inputParameters kvpairs inp
      .setSource i r.1.source :: if r.2 then [.stopInput i] else []
    | none => []
  | .inAddAudioEffect i effect desc =>
    if (inAddAudioEffect i effect desc s).1 = 0 ∧ effect.aec then [.setNeed i true, .stopInput i]
    else []
  | .inRemoveAudioEffect i effect desc =>
    if (inRemoveAudioEffect i effect desc s).1 = 0 ∧ effect.aec then
      [.setNeed i false, .stopInput i]
    else []
  | .setMode mode =>
    if s.crosses mode then haltOutput s.activeOutput ++ haltInput s.activeInput else []
  | .outWriteData .. | .inReadData .. | .setParameters _ | .setVoiceVolume _ | .setMicMute _ => []

/-! ## The code does that -/

theorem Echo.runOps_ite (c : Prop) [Decidable c] (ops : List Echo.Op) (v : Echo) :
    v.runOps (if c then ops else []) = if c then v.runOps ops else v := by
  split <;> rfl

theorem Echo.runOps_append (ops ops' : List Echo.Op) (v : Echo) :
    v.runOps (ops ++ ops') = (v.runOps ops).runOps ops' := by
  induction ops generalizing v with
  | nil => rfl
  | cons op ops ih => exact ih _

/-- The active input is open. -/
def Echo.InputOpen (v : Echo) : Prop := ∀ i, v.activeInput = some i → v.input i ≠ none

theorem Streams.InOrder.inputOpen (h : s.streams.InOrder) : s.echo.InputOpen := by
  intro i hi
  obtain ⟨inp, hinp⟩ := h.ins (i := i) hi
  rw [echo_input s hinp]
  exact Option.some_ne_none _

theorem echo_adevOpenOutputStream (o : OutId) (devices : Devices) (alloc ok : Bool) :
    (adevOpenOutputStream o devices alloc ok s).2.echo =
      if (adevOpenOutputStream o devices alloc ok s).1 = 0 then
        s.echo.setOutput o (some (false, none))
      else s.echo := by
  rcases adevOpenOutputStream_cases o devices alloc ok s with ⟨hne, h⟩ | h
  · rw [if_neg hne, h]
  · rw [h, if_pos rfl]
    exact congrArg (fun f => ({ s.echo with output := f } : Echo)) (Hal.map_update _ s.outs o _)

theorem echo_adevOpenInputStream (i : InId) (devices : Devices) (config : AudioConfig)
    (env : OpenEnv α) : (adevOpenInputStream i devices config env s).2.echo =
      if (adevOpenInputStream i devices config env s).1 = 0 then
        s.echo.setInput i (some ⟨false, none, false, 0⟩)
      else s.echo := by
  rcases adevOpenInputStream_cases i devices config env s with ⟨hne, h⟩ | h
  · rw [if_neg hne, h]
  · rw [h, if_pos rfl]
    exact congrArg (fun f => ({ s.echo with input := f } : Echo)) (Hal.map_update _ s.ins i _)

theorem echo_freeOutput (o : OutId) : (freeOutput o s).echo = s.echo.setOutput o none :=
  congrArg (fun f => ({ s.echo with output := f } : Echo)) (Hal.map_update _ s.outs o none)

theorem echo_freeInput (i : InId) : (freeInput i s).echo = s.echo.setInput i none :=
  congrArg (fun f => ({ s.echo with input := f } : Echo)) (Hal.map_update _ s.ins i none)

theorem echo_outStandby (h : s.echo.Ok) {o : OutId} (ho : (s.outs o).isSome) :
    (outStandby o s).echo = s.echo.stopOutput o := by
  obtain ⟨out, ho⟩ := Option.isSome_iff_exists.mp ho
  exact echo_doOutputStandby (s := s.lockBoth (.out o)) h ho

theorem echo_inStandby (h : s.echo.Ok) {i : InId} (hi : (s.ins i).isSome) :
    (inStandby i s).echo = s.echo.stopInput i := by
  obtain ⟨inp, hi⟩ := Option.isSome_iff_exists.mp hi
  exact echo_doInputStandby (s := s.lockBoth (.inp i)) h hi

theorem echo_forceOutput (h : s.echo.Ok) :
    (forceOutput s).echo = s.echo.runOps (haltOutput s.activeOutput) := by
  unfold forceOutput haltOutput
  cases ho : s.activeOutput with
  | none => rfl
  | some o =>
    obtain ⟨r, hr⟩ := h.active o ho
    obtain ⟨out, hout, -⟩ := Option.map_eq_some_iff.mp hr
    exact echo_doOutputStandby (s := s.pthreadMutexLock (.out o)) h hout

theorem echo_forceInput (h : s.echo.Ok) (hi : s.echo.InputOpen) :
    (forceInput s).echo = s.echo.runOps (haltInput s.activeInput) := by
  unfold forceInput haltInput
  cases ha : s.activeInput with
  | none => rfl
  | some i =>
    obtain ⟨x, hx⟩ := Option.ne_none_iff_exists'.mp (hi i ha)
    obtain ⟨inp, hinp, -⟩ := Option.map_eq_some_iff.mp hx
    exact echo_doInputStandby (s := s.pthreadMutexLock (.inp i)) h hinp

theorem Echo.InputOpen.stopOutput {v : Echo} (h : v.InputOpen) (o : OutId) :
    (v.stopOutput o).InputOpen := by
  intro i hi
  rw [v.activeInput_stopOutput] at hi
  rw [v.input_stopOutput]
  exact h i hi

theorem echo_forceAllStandby (h : s.echo.Ok) (hi : s.echo.InputOpen) :
    (forceAllStandby s).echo =
      s.echo.runOps (haltOutput s.activeOutput ++ haltInput s.activeInput) := by
  have ho := echo_forceOutput h
  have hk : (forceOutput s).echo.Ok ∧ (forceOutput s).echo.InputOpen ∧
      (forceOutput s).echo.activeInput = s.activeInput := by
    rw [ho]
    unfold haltOutput
    split
    · exact ⟨h.stopOutput _, hi.stopOutput _, s.echo.activeInput_stopOutput _⟩
    · exact ⟨h, hi, rfl⟩
  have ha : (forceOutput s).activeInput = s.activeInput := hk.2.2
  rw [forceAllStandby, echo_forceInput hk.1 hk.2.1, ha, ho, Echo.runOps_append]

theorem echo_adevSetMode (h : s.echo.Ok) (hi : s.echo.InputOpen) (mode : Int) :
    (adevSetMode mode s).echo = if s.crosses mode then
      s.echo.runOps (haltOutput s.activeOutput ++ haltInput s.activeInput) else s.echo := by
  show (changeMode mode (s.pthreadMutexLock .device)).echo = _
  unfold changeMode
  by_cases hm : s.mode = mode
  · rw [if_neg (not_not.mpr (show (s.pthreadMutexLock .device).mode = mode from hm)),
      show s.crosses mode = false by simp [Hal.crosses, hm], if_neg Bool.false_ne_true]
    rfl
  · rw [if_pos (show (s.pthreadMutexLock .device).mode ≠ mode from hm), selectMode,
      show s.crosses mode = (decide (mode = audioModeInCall) != s.inCall) by
        simp [Hal.crosses, hm]]
    show (if mode = audioModeInCall then if s.inCall then _ else _ else if s.inCall then _ else _ :
      Hal α).echo = _
    have hf := echo_forceAllStandby (s := (s.pthreadMutexLock .device).setMode mode) h hi
    have hf' := echo_forceAllStandby
      (s := ((s.pthreadMutexLock .device).setMode mode).setInCall false) h hi
    by_cases hin : mode = audioModeInCall <;> cases s.inCall
    · rw [if_pos hin, if_neg Bool.false_ne_true, applyVoiceVolume, echo_setInCall,
        echo_adevSetVoiceVolume, echo_selectOutputDevice, echo_callDevices, hf, if_pos (by simp [hin])]
      rfl
    · rw [if_pos hin, if_pos rfl, if_neg (by simp [hin])]
      rfl
    · rw [if_neg hin, if_neg Bool.false_ne_true, if_neg (by simp [hin])]
      rfl
    · rw [if_neg hin, if_pos rfl, echo_selectInputDevice, echo_selectOutputDevice, hf',
        if_pos (by simp [hin])]
      rfl

theorem echo_setOutputRouting (h : s.echo.Ok) (hi : s.echo.InputOpen) {o : OutId}
    (ho : (s.outs o).isSome) (val : Devices) :
    (if (setOutputRouting o val s).1 then
        forceInput ((setOutputRouting o val s).2.pthreadMutexUnlock (.out o))
      else (setOutputRouting o val s).2.pthreadMutexUnlock (.out o)).echo =
      s.echo.runOps (rerouteHalts s o val) := by
  obtain ⟨out, hout⟩ := Option.isSome_iff_exists.mp ho
  have hd : ∀ t : Hal α, (selectOutputDevice (t.setOutDevice val)).echo = t.echo := by
    intro t
    rw [echo_selectOutputDevice, echo_setOutDevice]
  have hst := echo_doOutputStandby h hout
  unfold setOutputRouting rerouteHalts rerouteOutput
  split
  · split
    · simp only [voiceInputActive_doOutputStandby]
      have hk := echo_unlock (selectOutputDevice ((doOutputStandby o s).setOutDevice val)) (.out o)
      rw [hd, hst] at hk
      split
      · have ha := (congrArg Echo.activeInput hk).trans (s.echo.activeInput_stopOutput o)
        rw [echo_forceInput (by rw [hk]; exact h.stopOutput o) (by rw [hk]; exact hi.stopOutput o),
          hk]
        exact congrArg (fun x => (s.echo.stopOutput o).runOps (haltInput x)) ha
      · exact hk
    · simp only [Bool.false_eq_true, if_false]
      exact (echo_unlock _ _).trans (hd s)
  · rfl

theorem echo_outSetParameters (h : s.echo.Ok) (hi : s.echo.InputOpen) {o : OutId}
    (ho : (s.outs o).isSome) (kvpairs : KvPairs) : (outSetParameters o kvpairs s).2.echo =
      match strParmsGetStr kvpairs audioParameterStreamRouting with
      | some (_, value) => s.echo.runOps (rerouteHalts s o (atoi value))
      | none => s.echo := by
  unfold outSetParameters
  cases strParmsGetStr kvpairs audioParameterStreamRouting with
  | none => rfl
  | some r => exact echo_setOutputRouting (s := s.lockBoth (.out o)) h hi ho (atoi r.2)

theorem echo_setInputParameters (h : s.echo.Ok) {i : InId} {inp : OmapStreamIn α}
    (hi : s.ins i = some inp) (kvpairs : KvPairs) : (setInputParameters i kvpairs s).echo =
      s.echo.runOps (.setSource i (inputParameters kvpairs inp).1.source ::
        if (inputParameters kvpairs inp).2 then [.stopInput i] else []) := by
  have hf : ∀ {β : Type} (f : OmapStreamIn α → β), (∀ inp v, f { inp with source := v } = f inp) →
      (∀ inp v, f { inp with device := v } = f inp) → f (inputParameters kvpairs inp).1 = f inp :=
    fun f hs hd => inputParameters_frame f hs hd kvpairs inp
  have hst := hf (·.standby) (fun _ _ => rfl) (fun _ _ => rfl)
  have hre := hf (·.echoReference) (fun _ _ => rfl) (fun _ _ => rfl)
  have hne := hf (·.needEchoReference) (fun _ _ => rfl) (fun _ _ => rfl)
  have hm : (s.modIn i fun _ => (inputParameters kvpairs inp).1).echo =
      s.echo.setInput i ((s.echo.input i).map fun x =>
        { x with source := (inputParameters kvpairs inp).1.source }) := by
    rw [echo_modIn, hi, echo_input s hi]
    simp only [Option.map_some, OmapStreamIn.echoes, hst, hre, hne]
  unfold setInputParameters
  rw [hi]
  simp only
  split
  · have hin : (s.modIn i fun _ => (inputParameters kvpairs inp).1).ins i =
        some (inputParameters kvpairs inp).1 := by simp [Hal.modIn, hi]
    rw [echo_doInputStandby _ hin, hm]
    · rfl
    · rw [hm]
      exact h.run (Echo.fits_setSource i _)
  · exact hm

theorem echo_effectChanged (h : s.echo.Ok) {i : InId} (hi : (s.ins i).isSome) (effect : Effect)
    (need : Bool) : (effectChanged i effect need s).echo =
      if effect.aec then s.echo.runOps [.setNeed i need, .stopInput i] else s.echo := by
  obtain ⟨inp, hi⟩ := Option.isSome_iff_exists.mp hi
  have hm : (s.modIn i fun inp => { inp with needEchoReference := need }).echo =
      s.echo.setInput i ((s.echo.input i).map fun x => { x with need := need }) := by
    rw [echo_modIn, hi, echo_input s hi]
    rfl
  unfold effectChanged
  split
  · have hin : (s.modIn i fun inp => { inp with needEchoReference := need }).ins i =
        some { inp with needEchoReference := need } := by simp [Hal.modIn, hi]
    rw [echo_doInputStandby _ hin, hm]
    · rfl
    · rw [hm]
      exact h.run (Echo.fits_setNeed i need)
  · rfl

theorem echo_addEffect (h : s.echo.Ok) {i : InId} (hi : (s.ins i).isSome) (effect : Effect)
    (desc : Int) : (addEffect i effect desc s).2.echo =
      if (addEffect i effect desc s).1 = 0 ∧ effect.aec then
        s.echo.runOps [.setNeed i true, .stopInput i]
      else s.echo := by
  have hn : ¬ (-enosys : Int) = 0 := by decide
  obtain ⟨inp, hinp⟩ := Option.isSome_iff_exists.mp hi
  rw [addEffect, hinp]
  simp only
  split
  · exact (if_neg fun h => hn h.1).symm
  · split
    · next hd => exact (if_neg fun h => hd h.1).symm
    · have ha : (appendEffect i effect s).echo = s.echo := echo_modIn_same s i fun _ => rfl
      rw [echo_effectChanged (by rwa [ha]) (by rwa [appendEffect, isSome_modIn]), ha]
      simp only [true_and]

theorem echo_dropEffect (h : s.echo.Ok) {i : InId} (hi : (s.ins i).isSome) (effect : Effect)
    (desc : Int) : (dropEffect i effect desc s).2.echo =
      if (dropEffect i effect desc s).1 = 0 ∧ effect.aec then
        s.echo.runOps [.setNeed i false, .stopInput i]
      else s.echo := by
  have hn : ¬ (-enosys : Int) = 0 := by decide
  obtain ⟨inp, hinp⟩ := Option.isSome_iff_exists.mp hi
  rw [dropEffect, hinp]
  simp only
  split
  · exact (if_neg fun h => hn h.1).symm
  · have ha : ∀ slots, (storeEffects i slots s).echo = s.echo :=
      fun slots => echo_modIn_same s i fun _ => rfl
    split
    · exact (if_neg fun h => einval_ne_zero h.1).symm
    · split
      · next hd => exact (ha _).trans (if_neg fun h => hd h.1).symm
      · rw [echo_effectChanged (by rwa [ha]) (by rwa [storeEffects, isSome_modIn]), ha]
        simp only [true_and]

theorem echo_changeTtyMode (t : TtyMode) : (changeTtyMode t s).echo = s.echo := by
  unfold changeTtyMode
  split
  · split
    · rw [echo_selectOutputDevice, echo_setTtyMode]
    · rfl
  · rfl

theorem echo_adevSetParameters (kvpairs : KvPairs) :
    (adevSetParameters kvpairs s).2.echo = s.echo := by
  have hb : ∀ t : Hal α, (match strParmsGetStr kvpairs audioParameterKeyBtNrec with
      | some (ret, value) => ((ret : Int), { t with bluetoothNrec := value = "on" })
      | none => (-enoent, t)).2.echo = t.echo := by
    intro t
    split <;> rfl
  unfold adevSetParameters setTtyParameter
  cases strParmsGetStr kvpairs audioParameterKeyTtyMode with
  | none => exact hb s
  | some r =>
    cases ht : ttyModeOf r.2 with
    | none => simp [ht]
    | some t =>
      simp only [ht, Option.map_some]
      exact (hb _).trans (echo_changeTtyMode (s := s.pthreadMutexLock .device) t)

theorem echo_outWrite (h : s.echo.Ok) {o : OutId} (ho : (s.outs o).isSome) (ready : Bool) :
    (outWrite o ready s).2.echo = s.echo.startOutput o ready := by
  have hb : (beginWrite o ready (s.lockBoth (.out o))).2.2.echo = s.echo.startOutput o ready := by
    obtain ⟨out, hout⟩ := Option.isSome_iff_exists.mp ho
    have hk : (s.lockBoth (.out o)).echo.output o = some (!out.standby, out.echoReference) :=
      echo_output s hout
    have hout : (s.lockBoth (.out o)).outs o = some out := hout
    rw [beginWrite, hout]
    cases hs : out.standby with
    | false =>
      rw [hs] at hk
      simp only [hs, Bool.false_eq_true, if_false]
      rw [Echo.startOutput, show s.echo.output o = some (true, out.echoReference) from hk]
      rfl
    | true =>
      rw [hs] at hk
      have hst := echo_startOutputStream (s := s.lockBoth (.out o)) h ready hk
      simp only [hs, if_true, startOutputStream_fst]
      cases ready with
      | true => exact hst
      | false => exact hst
  unfold outWrite
  simp only
  split
  · exact hb
  · exact hb

theorem echo_inRead (h : s.echo.Ok) {i : InId} (hi : (s.ins i).isSome) (ready created : Bool) :
    (inRead i ready created s).2.echo = s.echo.startInput i ready created := by
  have hb : (beginRead i ready created (s.lockBoth (.inp i))).2.echo =
      s.echo.startInput i ready created := by
    obtain ⟨inp, hinp⟩ := Option.isSome_iff_exists.mp hi
    have hk : s.echo.input i = some inp.echoes := echo_input s hinp
    have hinp : (s.lockBoth (.inp i)).ins i = some inp := hinp
    rw [beginRead, hinp]
    cases hs : inp.standby with
    | false =>
      have hr : inp.echoes.running = true := by simp [OmapStreamIn.echoes, hs]
      simp only [hs, Bool.false_eq_true, if_false, Echo.startInput, hk, hr, if_true]
      rfl
    | true =>
      have hst := echo_startInputStream (s := s.lockBoth (.inp i)) h ready created hinp hs
      simp only [hs, if_true, startInputStream_fst _ ready created hinp]
      cases ready with
      | true => exact hst
      | false => exact hst
  unfold inRead
  simp only
  split
  · exact hb
  · exact hb

/-- A reference that is null or the device's may be used. -/
theorem echoUse?_ok (h : s.echo.Ok) {r : Option Nat} (hr : r = none ∨ r = s.echo.reference) :
    s.echoUse? r = s := by
  cases r with
  | none => rfl
  | some e => exact echoUse_live (h.live e (hr.resolve_left (by simp)).symm)

theorem echo_useOutput (h : s.echo.Ok) {out : OmapStreamOut}
    (hr : out.echoReference = none ∨ out.echoReference = s.echo.reference) :
    (useOutput out s).echo = s.echo := by
  have hp := echo_pcmUse s out.pcm
  unfold useOutput
  cases he : out.echoReference with
  | none => exact hp
  | some e =>
    have hu := echoUse?_ok (s := s.pcmUse out.pcm) (by rwa [hp]) (r := some e) (by rwa [hp, ← he])
    show (((s.pcmUse out.pcm).echoUse? (some e)).pcmUse out.pcm).echo = s.echo
    rw [hu, echo_pcmUse, hp]

theorem echo_outWriteData (h : s.echo.Ok) (o : OutId) (ok : Bool) :
    (outWriteData o ok s).echo = s.echo := by
  rw [outWriteData, echo_unlock]
  unfold writeData
  cases ho : s.outs o with
  | none => exact echo_fault s rfl
  | some out =>
    have hr : out.echoReference = none ∨ out.echoReference = s.echo.reference :=
      (h.output o _ _ (echo_output s ho)).imp_right And.right
    have hm : (s.modOut o fun out => { out with resampler := true, buffer := true }).echo = s.echo :=
      echo_modOut_same s o fun _ => rfl
    simp only
    split
    · split
      · rw [echo_useOutput (by rwa [hm]) (by rwa [hm]), hm]
      · rfl
    · exact echo_useOutput h hr

theorem echo_useInput (h : s.echo.Ok) {inp : OmapStreamIn α}
    (hr : inp.echoReference = none ∨ inp.echoReference = s.echo.reference) (i : InId)
    (before after : Track α) : (useInput i inp before after s).echo = s.echo := by
  have h1 : (if after.pcmUses ≠ before.pcmUses then s.pcmUse inp.pcm else s).echo = s.echo := by
    split
    · exact echo_pcmUse s _
    · rfl
  unfold useInput
  generalize (if after.pcmUses ≠ before.pcmUses then s.pcmUse inp.pcm else s) = t at h1 ⊢
  have hu := echoUse?_ok (s := t) (by rwa [h1]) (r := inp.echoReference) (by rwa [h1])
  simp only [hu, ite_self]
  split
  · rw [echo_fault t rfl, h1]
  · exact h1

end

section
variable {α : Type} [Zero α] {s t : Hal α}

theorem echo_inReadData (h : s.echo.Ok) (i : InId) (frames : Nat) (dst : List α)
    (script : ReadScript α) : (inReadData i frames dst script s).2.2.echo = s.echo := by
  unfold inReadData
  cases hi : s.ins i with
  | none => exact echo_fault s rfl
  | some inp =>
    have hr : inp.echoReference = none ∨ inp.echoReference = s.echo.reference :=
      h.input i _ (echo_input s hi)
    have hm : ∀ c : Capture α, ((useInput i inp inp.capture.track c.track s).modIn i fun inp =>
        { inp with capture := c }).echo = s.echo := by
      intro c
      refine (echo_modIn_same _ i ?_).trans (echo_useInput h hr i _ _)
      exact fun _ => rfl
    simp only
    split
    · exact hm _
    · exact hm _

/-- What an event does to the echo references. -/
theorem echo_act {e : Event α} (hg : guard s e) (h : s.echo.Ok) (hi : s.echo.InputOpen) :
    (act e s).echo = s.echo.runOps (echoOps s e) := by
  cases e with
  | openOutputStream o d a r =>
    refine (echo_adevOpenOutputStream o d a r).trans ?_
    rw [echoOps, Echo.runOps_ite]
    rfl
  | closeOutputStream o => exact (echo_freeOutput o).trans (by rw [echo_outStandby h hg]; rfl)
  | openInputStream i d c env =>
    refine (echo_adevOpenInputStream i d c env).trans ?_
    rw [echoOps, Echo.runOps_ite]
    rfl
  | closeInputStream i => exact (echo_freeInput i).trans (by rw [echo_inStandby h hg]; rfl)
  | outWrite o ready =>
    refine Eq.trans ?_ (echo_outWrite h hg ready)
    simp only [act]
    split <;> rfl
  | outWriteData o force ok => exact echo_outWriteData h o ok
  | outWriteForce => exact echo_forceInput (s := s.pthreadMutexLock .device) h hi
  | outStandby o => exact echo_outStandby h hg
  | outSetParameters o kv =>
    refine (echo_outSetParameters h hi hg kv).trans ?_
    rw [echoOps]
    split <;> rfl
  | inRead i n ready created =>
    refine Eq.trans ?_ (echo_inRead h hg ready created)
    simp only [act]
    split <;> rfl
  | inReadData i n dst script => exact echo_inReadData h i n dst script
  | inStandby i => exact echo_inStandby h hg
  | inSetParameters i kv =>
    obtain ⟨inp, hinp⟩ := Option.isSome_iff_exists.mp hg
    refine (echo_setInputParameters (s := s.lockBoth (.inp i)) h hinp kv).trans ?_
    rw [echoOps, hinp]
    rfl
  | inAddAudioEffect i e d =>
    refine (echo_addEffect (s := s.lockBoth (.inp i)) h hg e d).trans ?_
    rw [echoOps, Echo.runOps_ite]
    rfl
  | inRemoveAudioEffect i e d =>
    refine (echo_dropEffect (s := s.lockBoth (.inp i)) h hg e d).trans ?_
    rw [echoOps, Echo.runOps_ite]
    rfl
  | setParameters kv => exact echo_adevSetParameters kv
  | setMode mode =>
    refine (echo_adevSetMode h hi mode).trans ?_
    rw [echoOps, Echo.runOps_ite]
  | setVoiceVolume v => exact echo_adevSetVoiceVolume s v
  | setMicMute b => rfl

/-! ## Every step -/

omit [Zero α] in
/-- When the event takes the device's reference away from input `i` or replaces it, no stream but
the active output and `i` has it. -/
def soleHolder (s : Hal α) (e : Event α) : Prop :=
  ∀ op ∈ echoOps s e, ∀ i, op.drops s.echo i → s.echo.Alone i

omit [Zero α] in
theorem echoOps_clearTrace (e : Event α) : echoOps s.clearTrace e = echoOps s e := by
  cases e with
  | openOutputStream o d a r => rw [echoOps, echoOps, ret_openOutput_clearTrace]
  | openInputStream i d c env => rw [echoOps, echoOps, ret_openInput_clearTrace]
  | inAddAudioEffect i e d => rw [echoOps, echoOps, ret_addEffect_clearTrace]
  | inRemoveAudioEffect i e d => rw [echoOps, echoOps, ret_removeEffect_clearTrace]
  | _ => rfl

theorem echo_step {e : Event α} (h : s.echo.Ok) (hi : s.echo.InputOpen) (ht : step s e = some t) :
    t.echo = s.echo.runOps (echoOps s e) := by
  obtain ⟨hg, -, rfl⟩ := step_some ht
  refine (echo_act (s := s.clearTrace) hg h hi).trans ?_
  rw [echoOps_clearTrace]
  rfl

omit [Zero α] in
/-- What an event does fits. -/
theorem fitsAlong_echoOps {e : Event α} (h : s.echo.Ok) (hg : guard s e) (hs : soleHolder s e) :
    Echo.FitsAlong (echoOps s e) s.echo := by
  have h1 : ∀ op, op ∈ echoOps s e → (∀ o, op ≠ .openOutput o) → (∀ o, op ≠ .closeOutput o) →
      op.Fits s.echo :=
    fun op hop ho hc => .of_drops ho hc (hs op hop)
  have hhalt : ∀ i, Echo.Op.stopInput i ∈ echoOps s e →
      Echo.FitsAlong [.stopInput i] s.echo :=
    fun i hop => ⟨h1 _ hop (by simp) (by simp), trivial⟩
  have hstop : ∀ o, Echo.Op.stopOutput o ∈ echoOps s e → Echo.Op.Fits s.echo (.stopOutput o) :=
    fun o hop => h1 _ hop (by simp) (by simp)
  have hboth : ∀ o, s.activeOutput = some o → Echo.Op.stopOutput o ∈ echoOps s e →
      (∀ op ∈ haltInput s.activeInput, op ∈ echoOps s e) →
      Echo.FitsAlong (.stopOutput o :: haltInput s.activeInput) s.echo := by
    intro o ho hop hin
    refine ⟨hstop o hop, ?_⟩
    unfold haltInput at hin ⊢
    split
    · next i ha =>
      rw [ha] at hin
      exact ⟨h.fits_stopInput_stopOutput ho (hs _ (hin _ (by simp))), trivial⟩
    · trivial
  cases e with
  | openOutputStream o d a r =>
    have hn : s.echo.output o = none := by
      show (s.outs o).map _ = none
      rw [Option.isNone_iff_eq_none.mp hg, Option.map_none]
    simp only [echoOps]
    split
    · exact ⟨⟨fun o' he => by cases he; exact hn, by simp, fun i hd => hd.elim⟩, trivial⟩
    · trivial
  | openInputStream i d c env =>
    simp only [echoOps]
    split
    · exact ⟨.of_drops (by simp) (by simp) fun i hd => hd.elim, trivial⟩
    · trivial
  | closeOutputStream o =>
    refine ⟨hstop o (by simp [echoOps]), ⟨by simp, fun o' he r hr => ?_, fun i hd => hd.elim⟩, trivial⟩
    cases he
    have hr : (s.echo.stopOutput o).output o = some (true, r) := hr
    rw [Echo.output_stopOutput, if_pos rfl] at hr
    obtain ⟨x, -, hx⟩ := Option.map_eq_some_iff.mp hr
    cases hx
  | closeInputStream i =>
    exact ⟨h1 _ (by simp [echoOps]) (by simp) (by simp),
      .of_drops (by simp) (by simp) fun i hd => hd.elim, trivial⟩
  | outWrite o ready =>
    exact ⟨h1 (.startOutput o ready) (by simp [echoOps]) (by simp) (by simp), trivial⟩
  | inRead i n ready created =>
    exact ⟨h1 (.startInput i ready created) (by simp [echoOps]) (by simp) (by simp), trivial⟩
  | outStandby o => exact ⟨hstop o (by simp [echoOps]), trivial⟩
  | inStandby i => exact hhalt i (by simp [echoOps])
  | outWriteForce =>
    simp only [echoOps, haltInput] at hhalt ⊢
    split
    · next i ha => exact hhalt i (by simp [ha])
    · trivial
  | outSetParameters o kv =>
    simp only [echoOps] at hboth hstop ⊢
    split
    · next r v hv =>
      simp only [hv] at hboth hstop
      unfold rerouteHalts at hboth hstop ⊢
      split
      · next hc =>
        simp only [if_pos hc] at hboth hstop
        split
        · next ha =>
          simp only [if_pos ha] at hboth hstop
          split
          · next hva =>
            exact hboth o ha (by simp) fun op hop => List.mem_cons_of_mem _ (by rwa [if_pos hva])
          · exact ⟨hstop o (by simp), trivial⟩
        · trivial
      · trivial
    · trivial
  | inSetParameters i kv =>
    obtain ⟨inp, hinp⟩ := Option.isSome_iff_exists.mp hg
    simp only [soleHolder, echoOps, hinp] at hs ⊢
    refine ⟨Echo.fits_setSource i _, ?_⟩
    split
    · next hc =>
      exact ⟨Echo.fits_stopInput_modified (fun _ => ⟨rfl, rfl⟩) (hs _ (by simp [hc])), trivial⟩
    · trivial
  | inAddAudioEffect i e d =>
    simp only [soleHolder, echoOps] at hs ⊢
    split
    · next hc =>
      exact ⟨Echo.fits_setNeed i _,
        Echo.fits_stopInput_modified (fun _ => ⟨rfl, rfl⟩) (hs _ (by simp [hc])), trivial⟩
    · trivial
  | inRemoveAudioEffect i e d =>
    simp only [soleHolder, echoOps] at hs ⊢
    split
    · next hc =>
      exact ⟨Echo.fits_setNeed i _,
        Echo.fits_stopInput_modified (fun _ => ⟨rfl, rfl⟩) (hs _ (by simp [hc])), trivial⟩
    · trivial
  | setMode mode =>
    simp only [echoOps] at hboth hhalt ⊢
    split
    · next hc =>
      simp only [hc, if_true] at hboth hhalt
      cases ho : s.activeOutput with
      | some o =>
        simp only [ho, haltOutput] at hboth ⊢
        exact hboth o rfl (by simp) fun op hop => List.mem_append_right _ hop
      | none =>
        simp only [ho, haltOutput, List.nil_append, haltInput] at hhalt ⊢
        split
        · next i ha => exact hhalt i (by simp [ha])
        · trivial
    · trivial
  | outWriteData | inReadData | setParameters | setVoiceVolume | setMicMute => trivial

theorem Echo.Ok.step {e : Event α} (h : s.echo.Ok) (hI : s.streams.Ok) (hs : soleHolder s e)
    (ht : step s e = some t) : t.echo.Ok := by
  rw [echo_step h hI.inOrder.inputOpen ht]
  exact h.runOps (fitsAlong_echoOps h (step_some ht).1 hs)

omit [Zero α] in
theorem echo_openDevice (m : Mixer) : (openDevice m : Hal α).echo.Ok := by
  have h : (openDevice m : Hal α).echo = (callocDevice m : Hal α).echo :=
    echo_selectOutputDevice _
  rw [h]
  exact {
    live := fun e he => by cases he
    output := fun o b r hr => by cases hr
    input := fun i x hx => by cases hx
    active := fun o ho => by cases ho
    faults := rfl }

end

end P970.Audio
