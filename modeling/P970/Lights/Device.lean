import P970.Lights.Notifications
import P970.Lib.Writes

/-!
# The lights device

The three lights of liblights over the attributes they write: `open_lights` by
name, the screen, the buttons, and the notifications of `setLightNotifications`.
An attribute may not open or may refuse what is written, at any access. The
screen and the notifications share the driver's `brightness`. After any requests
each attribute holds the last text that got through to it (`requests_eq`).
-/

namespace P970.Lights

open P970.Printf (printInt printNat)

def lcdFile : String := "/sys/class/leds/lcd-backlight/brightness"

/-- What comes of an access to an attribute; a failure has its `errno`. -/
inductive Access where
  | ok
  | openFails (errno : Nat)
  | writeFails (errno : Nat)
  deriving DecidableEq, Repr

/-- The attributes, `already_warned` and the paths in the log. -/
structure Sysfs where
  contents : String → List Char
  alreadyWarned : Bool
  log : List String

def writeString (path : String) (str : List Char) (a : Access) (s : Sysfs) : Int × Sysfs :=
  match a with
  | .ok => (0, { s with contents := Function.update s.contents path str })
  | .writeFails errno => (-errno, s)
  | .openFails errno =>
    (-errno, if s.alreadyWarned then s else { s with alreadyWarned := true, log := s.log ++ [path] })

def writeInt (path : String) (val : Int) : Access → Sysfs → Int × Sysfs :=
  writeString path (printInt val)

def rgbToBrightness (color : BitVec 32) : Checked CInt :=
  rgbCoeffAvg color (.ofByte 77) (.ofByte 150) (.ofByte 29)

/-! ## The lights -/

section
variable (state : LightState) (access : String → Access) (s : Sysfs)

def setLightBacklight : Checked (Int × Sysfs) := do
  let brightness ← rgbToBrightness state.color
  let half ← brightness.div (.ofByte 2)
  let led := writeInt (ledPath ++ "brightness") half.1 (access (ledPath ++ "brightness")) s
  return writeInt lcdFile brightness.1 (access lcdFile) led.2

def setLightButtons : Checked (Int × Sysfs) := do
  let brightness ← rgbToBrightness state.color
  let on : Int := if brightness.1 = 0 then 0 else 1
  let button := writeInt (ledPath ++ "button") on (access (ledPath ++ "button")) s
  let touchkey := writeInt (ledPath ++ "touchkey_enabled") on
    (access (ledPath ++ "touchkey_enabled")) button.2
  return (0, touchkey.2)

/-- `set_light_notifications`, with what it writes written. -/
def writeNotifications : Checked (Int × Sysfs) := do
  let writes ← setLightNotifications state
  return (0, writes.foldl (fun s w => (writeString w.1 w.2 (access w.1) s).2) s)

end

inductive Light where
  | backlight
  | buttons
  | notifications
  deriving DecidableEq, Repr

def einval : Nat := 22
def enomem : Nat := 12

/-- `open_lights` of this module, where `calloc` gives the device or not. -/
def openLights (name : String) (calloc : Bool) : Except Int Light :=
  let opened (light : Light) := if calloc then .ok light else .error (-enomem)
  if name = "backlight" then opened .backlight
  else if name = "buttons" then opened .buttons
  else if name = "notifications" then opened .notifications
  else .error (-einval)

def Light.setLight : Light → LightState → (String → Access) → Sysfs → Checked (Int × Sysfs)
  | .backlight => setLightBacklight
  | .buttons => setLightButtons
  | .notifications => writeNotifications

/-- A light is opened by name and set. -/
structure Request where
  name : String
  calloc : Bool
  state : LightState
  access : String → Access

def Sysfs.request (s : Sysfs) (r : Request) : Checked (Int × Sysfs) :=
  match openLights r.name r.calloc with
  | .error status => .ok (status, s)
  | .ok light => light.setLight r.state r.access s

def Sysfs.requests (s : Sysfs) : List Request → Checked (List Int × Sysfs)
  | [] => .ok ([], s)
  | r :: rs => do
    let x ← s.request r
    let y ← x.2.requests rs
    return (x.1 :: y.1, y.2)

/-! ## What is asked for -/

/-- The brightness of a color. -/
def luma (color : BitVec 32) : Fin 256 :=
  ⟨((77 * red color + 150 * green color + 29 * blue color) / 256).toNat, by
    have hr : red color ≤ 255 := (byte_bounds _).2
    have hg : green color ≤ 255 := (byte_bounds _).2
    have hb : blue color ≤ 255 := (byte_bounds _).2
    omega⟩

theorem rgbToBrightness_eq (color : BitVec 32) :
    ∃ v : CInt, rgbToBrightness color = .ok v ∧ v.1 = (luma color : Nat) := by
  obtain ⟨v, hv, hval, h0, -⟩ := rgbCoeffAvg_spec color (.ofByte 77) (.ofByte 150)
    (.ofByte 29) (by decide) (by decide) (by decide) (by decide) (Int.le_refl 255)
    (byte_bounds _).2 (byte_bounds _).2 (.inr (byte_bounds _).2)
  refine ⟨v, hv, ?_⟩
  rw [hval] at h0 ⊢
  exact (Int.toNat_of_nonneg h0).symm

/-- The texts of a light, in the order they are written. -/
def Light.texts (state : LightState) : Light → Checked (List (String × List Char))
  | .backlight => .ok [(ledPath ++ "brightness", printNat (luma state.color / 2)),
      (lcdFile, printNat (luma state.color))]
  | .buttons =>
    let on := printNat (if (luma state.color : Nat) = 0 then 0 else 1)
    .ok [(ledPath ++ "button", on), (ledPath ++ "touchkey_enabled", on)]
  | .notifications => setLightNotifications state

/-- Only the screen's own attribute makes a request fail. -/
def Light.status (access : String → Access) : Light → Int
  | .backlight =>
    match access lcdFile with
    | .ok => 0
    | .openFails errno | .writeFails errno => -errno
  | .buttons | .notifications => 0

namespace Request

variable (r : Request)

/-- The accesses of a request. -/
def asks : Checked (List (String × List Char × Access)) :=
  match openLights r.name r.calloc with
  | .error _ => .ok []
  | .ok light => (light.texts r.state).map (List.map fun w => (w.1, w.2, r.access w.1))

def status : Int :=
  match openLights r.name r.calloc with
  | .error status => status
  | .ok light => light.status r.access

end Request

/-- Texts that got through. -/
def went (l : List (String × List Char × Access)) : List (String × List Char) :=
  l.filterMap fun w => if w.2.2 = .ok then some (w.1, w.2.1) else none

/-- Attributes that did not open. -/
def missed (l : List (String × List Char × Access)) : List String :=
  l.filterMap fun w => match w.2.2 with
    | .openFails _ => some w.1
    | _ => none

/-- The last text that got through stays, and the first attribute that did not open is logged. -/
def Sysfs.after (s : Sysfs) (l : List (String × List Char × Access)) : Sysfs where
  contents := lastWrites (went l) s.contents
  alreadyWarned := s.alreadyWarned || !(missed l).isEmpty
  log := s.log ++ if s.alreadyWarned then [] else (missed l).take 1

section
variable (s : Sysfs) (l m : List (String × List Char × Access))

theorem after_nil : s.after [] = s := by
  simp [Sysfs.after, went, missed]

theorem after_append : s.after (l ++ m) = (s.after l).after m := by
  have hw : went (l ++ m) = went l ++ went m := List.filterMap_append
  have hm : missed (l ++ m) = missed l ++ missed m := List.filterMap_append
  rw [Sysfs.after, hw, hm, lastWrites_append]
  refine congrArg₂ (Sysfs.mk _) ?_ ?_
  · cases hl : missed l <;> simp [Sysfs.after, hl]
  · cases hs : s.alreadyWarned with
    | true => simp [Sysfs.after, hs]
    | false =>
      -- the first list has the first attribute that does not open, if it has one
      cases hl : missed l with
      | nil => simp [Sysfs.after, hs, hl]
      | cons path ps => simp [Sysfs.after, hs, hl]

/-- One access is what it asks for. -/
theorem writeString_eq (path : String) (str : List Char) (a : Access) :
    (writeString path str a s).2 = s.after [(path, str, a)] := by
  cases a with
  | ok => simp [writeString, Sysfs.after, went, missed, lastWrites_single]
  | writeFails errno => simp [writeString, Sysfs.after, went, missed]
  | openFails errno =>
    obtain ⟨contents, warned, log⟩ := s
    cases warned <;> simp [writeString, Sysfs.after, went, missed]

theorem foldl_writeString (access : String → Access) (ws : List (String × List Char)) :
    ws.foldl (fun s w => (writeString w.1 w.2 (access w.1) s).2) s =
      s.after (ws.map fun w => (w.1, w.2, access w.1)) := by
  induction ws generalizing s with
  | nil => exact (after_nil s).symm
  | cons w ws ih =>
    rw [List.foldl_cons, ih, writeString_eq, ← after_append]
    rfl

end

/-! ## Requests -/

theorem writeInt_nat (path : String) (n : Nat) :
    writeInt path (n : Int) = writeString path (printNat n) := by
  rw [writeInt, Printf.printInt_of_nonneg (Int.natCast_nonneg n), Int.toNat_natCast]

/-- A light writes its texts. -/
theorem setLight_eq (light : Light) (state : LightState) (access : String → Access) (s : Sysfs) :
    light.setLight state access s = (light.texts state).map fun ws =>
      (light.status access, s.after (ws.map fun w => (w.1, w.2, access w.1))) := by
  obtain ⟨v, hv, hval⟩ := rgbToBrightness_eq state.color
  have hlt := (luma state.color).isLt
  cases light with
  | backlight =>
    have hhalf : v.div (.ofByte 2) =
        .ok ⟨((luma state.color : Nat) / 2 : Nat), by omega, by omega⟩ := by
      refine CInt.div_eq_ok.mpr ⟨by decide, ?_⟩
      rw [hval, Int.tdiv_eq_ediv_of_nonneg (Int.natCast_nonneg _)]
      rfl
    show setLightBacklight state access s = _
    rw [setLightBacklight, hv, Outcome.ok_bind, hhalf, Outcome.ok_bind]
    simp only [hval, writeInt_nat]
    refine congrArg Except.ok (Prod.ext ?_ ?_)
    · show (writeString lcdFile _ _ _).1 = _
      cases h : access lcdFile <;> simp [writeString, Light.status, h]
    · show (writeString lcdFile _ _ _).2 = _
      rw [writeString_eq, writeString_eq, ← after_append]
      rfl
  | buttons =>
    have hon : (if v.1 = 0 then 0 else 1 : Int) =
        ((if (luma state.color : Nat) = 0 then 0 else 1 : Nat) : Int) := by
      rw [hval]
      by_cases h : (luma state.color : Nat) = 0
      · rw [if_pos h, if_pos (by omega)]
        rfl
      · rw [if_neg h, if_neg (by omega)]
        rfl
    show setLightButtons state access s = _
    rw [setLightButtons, hv, Outcome.ok_bind]
    simp only [hon, writeInt_nat]
    refine congrArg Except.ok (Prod.ext rfl ?_)
    show (writeString (ledPath ++ "touchkey_enabled") _ _ _).2 = _
    rw [writeString_eq, writeString_eq, ← after_append]
    rfl
  | notifications =>
    show (setLightNotifications state >>= fun writes => _) = (setLightNotifications state).map _
    cases setLightNotifications state with
    | error e => rfl
    | ok ws => exact congrArg Except.ok (Prod.ext rfl (foldl_writeString s access ws))

theorem request_eq (s : Sysfs) (r : Request) :
    s.request r = r.asks.map fun l => (r.status, s.after l) := by
  unfold Sysfs.request Request.asks Request.status
  cases openLights r.name r.calloc with
  | error status => exact congrArg (fun t => Except.ok (status, t)) (after_nil s).symm
  | ok light =>
    show light.setLight r.state r.access s =
      ((light.texts r.state).map (List.map fun w => (w.1, w.2, r.access w.1))).map fun l =>
        (light.status r.access, s.after l)
    rw [setLight_eq]
    cases light.texts r.state <;> rfl

/-- Any requests return their own statuses, and leave what the list of all their accesses asks for;
without a defined result is exactly a notification that has none. -/
theorem requests_eq (s : Sysfs) (rs : List Request) : s.requests rs =
    (rs.mapM Request.asks).map fun ls => (rs.map Request.status, s.after ls.flatten) := by
  induction rs generalizing s with
  | nil => exact congrArg (fun t => Except.ok ([], t)) (after_nil s).symm
  | cons r rs ih =>
    rw [Sysfs.requests, request_eq, List.mapM_cons]
    cases r.asks with
    | error e => rfl
    | ok l =>
      show ((s.after l).requests rs >>= _) = _
      rw [ih]
      cases rs.mapM Request.asks with
      | error e => rfl
      | ok ls =>
        exact congrArg (fun t => Except.ok (r.status :: rs.map Request.status, t))
          (after_append s l ls.flatten).symm

end P970.Lights
