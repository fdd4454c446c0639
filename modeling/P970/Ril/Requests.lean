import P970.Lib.Parcel

/-!
# Requests to the modem

The listener of the RIL class for the state of the call, and the requests the
class has its own way with: call forwarding, where a service class of 0 goes out
as 255, and the hangup of a waiting call, which takes another request when no call
is off the hook. Parcels, `RILRequest.obtain` and `toaFromString` are given from
outside (`Framework`). Over any run, each parcel sent is read back as what was
asked for, and which hangup it is depends only on the states since the last idle
one (`sent_read`).
-/

namespace P970.Ril

open Java

def callStateIdle : Int32 := 0
def callStateOffhook : Int32 := 2

def rilRequestHangupWaitingOrBackground : Int32 := 13
def rilRequestQueryCallForwardStatus : Int32 := 33
def rilRequestSetCallForward : Int32 := 34
def rilRequestHangUpCall : Int32 := 182

/-- What the requests use of the framework. -/
structure Framework (β : Type) where
  parcels : ParcelOps β
  /-- `RILRequest.obtain`: `mParcel` of a request that gets the serial number. -/
  obtain : Int32 → Int32 → β
  /-- `PhoneNumberUtils.toaFromString`. -/
  toaFromString : Option JString → Int32

/-- A request has its number and its serial number in its parcel. -/
structure Framework.Lawful {β : Type} (F : Framework β) : Prop where
  parcels : F.parcels.Lawful
  obtain : ∀ request serial,
    F.obtain request serial = F.parcels.writeAll [.int request, .int serial]

/-- The fields of the class that the requests are about: `mCallState`, and what was sent. -/
structure Phone (β : Type) where
  callState : Int32
  sent : List β

/-- What happens to the class; a request gets the serial number that is next. -/
inductive PhoneEvent where
  | callState (state : Int32)
  | setCallForward (serial action cfReason serviceClass : Int32) (number : Option JString)
      (timeSeconds : Int32)
  | queryCallForwardStatus (serial cfReason serviceClass : Int32) (number : Option JString)
  | hangupWaitingOrBackground (serial : Int32)
  deriving DecidableEq, Repr

section
variable {β : Type}

namespace Phone

/-- `mCallState` of a new object. -/
def new : Phone β := ⟨callStateIdle, []⟩

variable (F : Framework β) (phone : Phone β)

def send (mParcel : β) : Phone β := { phone with sent := phone.sent ++ [mParcel] }

/-- A higher state wins, unless it goes back to idle. -/
def onCallStateChanged (state : Int32) : Phone β :=
  if state = callStateIdle ∨ state > phone.callState then { phone with callState := state }
  else phone

def setCallForward (serial action cfReason serviceClass : Int32) (number : Option JString)
    (timeSeconds : Int32) : Phone β :=
  let mParcel := F.obtain rilRequestSetCallForward serial
  let mParcel := F.parcels.writeInt action mParcel
  let mParcel := F.parcels.writeInt cfReason mParcel
  let serviceClass := if serviceClass = 0 then 255 else serviceClass
  let mParcel := F.parcels.writeInt serviceClass mParcel
  let mParcel := F.parcels.writeInt (F.toaFromString number) mParcel
  let mParcel := F.parcels.writeString number mParcel
  let mParcel := F.parcels.writeInt timeSeconds mParcel
  phone.send mParcel

def queryCallForwardStatus (serial cfReason serviceClass : Int32) (number : Option JString) :
    Phone β :=
  let mParcel := F.obtain rilRequestQueryCallForwardStatus serial
  -- for the query action, not in use anyway
  let mParcel := F.parcels.writeInt 2 mParcel
  let mParcel := F.parcels.writeInt cfReason mParcel
  let serviceClass := if serviceClass = 0 then 255 else serviceClass
  let mParcel := F.parcels.writeInt serviceClass mParcel
  let mParcel := F.parcels.writeInt (F.toaFromString number) mParcel
  let mParcel := F.parcels.writeString number mParcel
  let mParcel := F.parcels.writeInt 0 mParcel
  phone.send mParcel

def hangupWaitingOrBackground (serial : Int32) : Phone β :=
  phone.send (F.obtain (if phone.callState = callStateOffhook then
    rilRequestHangupWaitingOrBackground else rilRequestHangUpCall) serial)

def step (phone : Phone β) : PhoneEvent → Phone β
  | .callState state => phone.onCallStateChanged state
  | .setCallForward serial action cfReason serviceClass number timeSeconds =>
    phone.setCallForward F serial action cfReason serviceClass number timeSeconds
  | .queryCallForwardStatus serial cfReason serviceClass number =>
    phone.queryCallForwardStatus F serial cfReason serviceClass number
  | .hangupWaitingOrBackground serial => phone.hangupWaitingOrBackground F serial

def run (es : List PhoneEvent) : Phone β := es.foldl (Phone.step F) phone

end Phone

/-! ## What is asked for -/

/-- The highest state since the last idle one. -/
def highest (states : List Int32) : Int32 :=
  (states.reverse.takeWhile (· ≠ callStateIdle)).foldr max callStateIdle

/-- The fields of a call forwarding, in the order of the modem's interface, behind the request and
its serial number. -/
def callForward (request serial status reason serviceClass toa : Int32) (number : Option JString)
    (timeSeconds : Int32) : List Item :=
  [.int request, .int serial, .int status, .int reason,
    .int (if serviceClass = 0 then 255 else serviceClass), .int toa, .string number,
    .int timeSeconds]

/-- The requests of a run, each behind the states before it. -/
def asked (toaFromString : Option JString → Int32) :
    List Int32 → List PhoneEvent → List (List Item)
  | _, [] => []
  | states, .callState state :: es => asked toaFromString (states ++ [state]) es
  | states, .setCallForward serial action cfReason serviceClass number timeSeconds :: es =>
    callForward rilRequestSetCallForward serial action cfReason serviceClass (toaFromString number)
      number timeSeconds :: asked toaFromString states es
  | states, .queryCallForwardStatus serial cfReason serviceClass number :: es =>
    callForward rilRequestQueryCallForwardStatus serial 2 cfReason serviceClass
      (toaFromString number) number 0 :: asked toaFromString states es
  | states, .hangupWaitingOrBackground serial :: es =>
    [.int (if highest states = callStateOffhook then rilRequestHangupWaitingOrBackground
      else rilRequestHangUpCall), .int serial] :: asked toaFromString states es

/-- A parcel can hold the number. -/
def PhoneEvent.Fits : PhoneEvent → Prop
  | .setCallForward _ _ _ _ number _ | .queryCallForwardStatus _ _ _ number => Short number
  | _ => True

theorem fits_callForward (request serial status reason serviceClass toa : Int32)
    {number : Option JString} (h : Short number) (timeSeconds : Int32) :
    ∀ i ∈ callForward request serial status reason serviceClass toa number timeSeconds, i.Fits := by
  simp only [callForward, List.forall_mem_cons]
  exact ⟨trivial, trivial, trivial, trivial, trivial, trivial, h, trivial, nofun⟩

theorem fits_asked (toaFromString : Option JString → Int32) {es : List PhoneEvent}
    (h : ∀ e ∈ es, e.Fits) (states : List Int32) :
    ∀ items ∈ asked toaFromString states es, ∀ i ∈ items, i.Fits := by
  induction es generalizing states with
  | nil => exact nofun
  | cons e es ih =>
    have hes : ∀ e ∈ es, e.Fits := fun e' he => h e' (List.mem_cons_of_mem e he)
    have hfits := h e List.mem_cons_self
    cases e with
    | callState state => exact ih hes (states ++ [state])
    | setCallForward =>
      exact List.forall_mem_cons.mpr ⟨fits_callForward _ _ _ _ _ _ hfits _, ih hes states⟩
    | queryCallForwardStatus =>
      exact List.forall_mem_cons.mpr ⟨fits_callForward _ _ _ _ _ _ hfits _, ih hes states⟩
    | hangupWaitingOrBackground serial =>
      refine List.forall_mem_cons.mpr ⟨?_, ih hes states⟩
      simp only [List.forall_mem_cons]
      exact ⟨trivial, trivial, nofun⟩

/-! ## Over a run -/

theorem highest_append (states : List Int32) (state : Int32) : highest (states ++ [state]) =
    if state = callStateIdle ∨ state > highest states then state else highest states := by
  have hrev : (states ++ [state]).reverse = state :: states.reverse := List.reverse_concat
  rw [highest, hrev, List.takeWhile_cons]
  by_cases hidle : state = callStateIdle
  · rw [if_neg (by simp [hidle]), if_pos (.inl hidle), hidle]
    rfl
  · rw [if_pos (by simp [hidle]), List.foldr_cons]
    show (if state ≤ highest states then highest states else state) = _
    by_cases hle : state ≤ highest states
    · rw [if_pos hle, if_neg (not_or.mpr ⟨hidle, Int32.not_lt.mpr hle⟩)]
    · rw [if_neg hle, if_pos (.inr (Int32.not_le.mp hle))]

variable {F : Framework β}

/-- The parcels of a run that goes on behind the states before it. -/
theorem sent_run (hF : F.Lawful) {es : List PhoneEvent} {states : List Int32} {phone : Phone β}
    (hstate : phone.callState = highest states) :
    (phone.run F es).sent =
      phone.sent ++ (asked F.toaFromString states es).map F.parcels.writeAll := by
  induction es generalizing states phone with
  | nil => exact (List.append_nil _).symm
  | cons e es ih =>
    -- a parcel that was sent is the next one of the run
    have hsend : ∀ {mParcel items}, mParcel = F.parcels.writeAll items →
        ((phone.send mParcel).run F es).sent =
          phone.sent ++ F.parcels.writeAll items ::
            (asked F.toaFromString states es).map F.parcels.writeAll := by
      intro mParcel items hp
      have hstate' : (phone.send mParcel).callState = highest states := hstate
      rw [ih hstate', Phone.send, List.append_assoc, hp]
      rfl
    cases e with
    | callState state =>
      have hstate' : (phone.onCallStateChanged state).callState = highest (states ++ [state]) := by
        rw [highest_append, ← hstate, Phone.onCallStateChanged]
        split <;> rfl
      have hsent : (phone.onCallStateChanged state).sent = phone.sent := by
        rw [Phone.onCallStateChanged]
        split <;> rfl
      rw [asked, ← hsent]
      exact ih hstate'
    | setCallForward =>
      refine hsend ?_
      rw [hF.obtain]
      rfl
    | queryCallForwardStatus =>
      refine hsend ?_
      rw [hF.obtain]
      rfl
    | hangupWaitingOrBackground serial =>
      refine hsend ?_
      rw [hF.obtain, hstate]

/-- The parcel is of these values only, and whoever reads it from its start, by their types, reads
them. -/
def ReadAs (A : ParcelOps β) (p : β) (items : List Item) : Prop :=
  p = A.writeAll items ∧ (A.readItems (items.map Item.type) (A.setDataPosition 0 p)).1 = items

/-- Every parcel of a run is read as what was asked for: which hangup it is goes by the highest state
since the last idle one. -/
theorem sent_read (hF : F.Lawful) {es : List PhoneEvent} (h : ∀ e ∈ es, e.Fits) :
    List.Forall₂ (ReadAs F.parcels) (Phone.new.run F es).sent (asked F.toaFromString [] es) := by
  have hsent : (Phone.new.run F es).sent =
      [] ++ (asked F.toaFromString [] es).map F.parcels.writeAll := sent_run hF rfl
  rw [hsent, List.nil_append, List.forall₂_map_left_iff, List.forall₂_same]
  exact fun items hi =>
    ⟨rfl, ParcelOps.readItems_writeAll hF.parcels (fits_asked _ h [] items hi)⟩

end

/-- Parcels of words; a number that begins with a plus is international. -/
def wordFramework : Framework Parcel where
  parcels := Parcel.ops
  obtain request serial := Parcel.ops.writeAll [.int request, .int serial]
  toaFromString number := if number.bind List.head? = some (unit '+') then 0x91 else 0x81

/-- A call off the hook rings again: the state stays until the call is over. -/
theorem sent_read_twoHangups :
    List.Forall₂ (ReadAs Parcel.ops)
      (Phone.new.run wordFramework [.callState 2, .callState 1,
        .setCallForward 7 3 0 0 (some (lit "+49")) 20, .hangupWaitingOrBackground 8, .callState 0,
        .hangupWaitingOrBackground 9]).sent
      [[.int 34, .int 7, .int 3, .int 0, .int 255, .int 0x91, .string (some (lit "+49")), .int 20],
        [.int 13, .int 8], [.int 182, .int 9]] := by
  have hlawful : wordFramework.Lawful := ⟨Parcel.ops_lawful, fun _ _ => rfl⟩
  have hshort : Short (some (lit "+49")) := by
    rintro t ⟨⟩
    decide
  refine sent_read hlawful fun e he => ?_
  simp only [List.mem_cons, List.not_mem_nil, or_false] at he
  rcases he with rfl | rfl | rfl | rfl | rfl | rfl <;> first | exact hshort | trivial

end P970.Ril
