import Mathlib.Data.List.Basic
import P970.Lib.Init

/-!
# The USB gadget

The actions of `init.black.usb.rc` on `sys.usb.config`. A configuration may be asked
for at any time, also while the action of another one runs. Unless it is asked for
while its action already waits in front of another one, the gadget settles as it was
asked for last (`usb_settles`); but only some of the actions set the class of the
device, which the others leave as it was.
-/

namespace P970.Rootdir

open Init

/-- The attributes of `/sys/class/android_usb/android0`, and the service `adbd`. -/
inductive Place where
  | enable
  | idVendor
  | idProduct
  | functions
  | bDeviceClass
  | bDeviceSubClass
  | bDeviceProtocol
  | adbd
  deriving DecidableEq, Repr

inductive Property where
  | sysUsbConfig
  | sysUsbState
  deriving DecidableEq, Repr

/-- The values of `sys.usb.config` that have an action. -/
inductive Config where
  | adb
  | massStorageAdb
  | massStorage
  | mtp
  | mtpAdb
  | rndis
  | rndisAdb
  | ptp
  | ptpAdb
  deriving DecidableEq, Repr

def Config.text : Config → String
  | .adb => "adb"
  | .massStorageAdb => "mass_storage,adb"
  | .massStorage => "mass_storage"
  | .mtp => "mtp"
  | .mtpAdb => "mtp,adb"
  | .rndis => "rndis"
  | .rndisAdb => "rndis,adb"
  | .ptp => "ptp"
  | .ptpAdb => "ptp,adb"

def configs : List Config :=
  [.adb, .massStorageAdb, .massStorage, .mtp, .mtpAdb, .rndis, .rndisAdb, .ptp, .ptpAdb]

abbrev UsbCommand := Command Place Property String

def write (attr : Place) (text : String) : UsbCommand := ⟨.place attr, .lit text⟩

/-- `write …/functions $sys.usb.config` -/
def writeFunctions : UsbCommand := ⟨.place .functions, .prop .sysUsbConfig⟩

/-- `start adbd` -/
def startAdbd : UsbCommand := ⟨.place .adbd, .lit "running"⟩

/-- `setprop sys.usb.state $sys.usb.config` -/
def setState : UsbCommand := ⟨.prop .sysUsbState, .prop .sysUsbConfig⟩

def commands : Config → List UsbCommand
  | .adb => [write .enable "0", write .idVendor "1004", write .idProduct "6000", writeFunctions,
      write .enable "1", setState]
  | .massStorageAdb => [write .enable "0", write .idVendor "1004", write .idProduct "61A6",
      writeFunctions, write .enable "1", startAdbd, setState]
  | .massStorage => [write .enable "0", write .idVendor "1004", write .idProduct "61C5",
      writeFunctions, write .enable "1", setState]
  | .mtp => [write .enable "0", write .idVendor "1004", write .idProduct "631C",
      write .bDeviceClass "0", write .bDeviceSubClass "0", write .bDeviceProtocol "0",
      write .functions "mtp", write .enable "1", setState]
  | .mtpAdb => [write .enable "0", write .idVendor "1004", write .idProduct "61F9",
      write .bDeviceClass "239", write .bDeviceSubClass "2", write .bDeviceProtocol "1",
      write .functions "mtp,adb", write .enable "1", startAdbd, setState]
  | .rndis => [write .enable "0", write .idVendor "1004", write .idProduct "61DA", writeFunctions,
      write .bDeviceClass "224", write .enable "1", setState]
  | .rndisAdb => [write .enable "0", write .idVendor "1004", write .idProduct "61D9",
      writeFunctions, write .bDeviceClass "224", write .enable "1", startAdbd, setState]
  | .ptp => [write .enable "0", write .idVendor "1004", write .idProduct "61F9", writeFunctions,
      write .enable "1", setState]
  | .ptpAdb => [write .enable "0", write .idVendor "1004", write .idProduct "61F9", writeFunctions,
      write .enable "1", startAdbd, setState]

/-- `on property:sys.usb.config=…` -/
def usbScript : Script Config Place Property String where
  commands := commands
  triggered
    | .sysUsbConfig, v => configs.filter (·.text = v)
    | .sysUsbState, _ => []

abbrev Gadget := Machine Config Place Property String

/-! ## What it is to be -/

def Config.product : Config → String
  | .adb => "6000"
  | .massStorageAdb => "61A6"
  | .massStorage => "61C5"
  | .mtp => "631C"
  | .rndis => "61DA"
  | .rndisAdb => "61D9"
  | .mtpAdb | .ptp | .ptpAdb => "61F9"

/-- The configurations that start `adbd` themselves. -/
def Config.startsAdbd : Config → Bool
  | .massStorageAdb | .mtpAdb | .rndisAdb | .ptpAdb => true
  | _ => false

/-- The class, the subclass and the protocol that an action writes, if it does. -/
def Config.deviceClass : Config → Option String
  | .mtp => some "0"
  | .mtpAdb => some "239"
  | .rndis | .rndisAdb => some "224"
  | _ => none

def Config.subClass : Config → Option String
  | .mtp => some "0"
  | .mtpAdb => some "2"
  | _ => none

def Config.protocol : Config → Option String
  | .mtp => some "0"
  | .mtpAdb => some "1"
  | _ => none

/-- The gadget is on, as the configuration says, and the state says so. -/
structure Shows (m : Gadget) (c : Config) : Prop where
  enable : m.regs (.place .enable) = "1"
  idVendor : m.regs (.place .idVendor) = "1004"
  idProduct : m.regs (.place .idProduct) = c.product
  functions : m.regs (.place .functions) = c.text
  adbd : c.startsAdbd = true → m.regs (.place .adbd) = "running"
  state : m.regs (.prop .sysUsbState) = c.text

/-- A configuration is asked for, and its action does not wait in front of another one. -/
def Unhurried (m : Gadget) : Event Property String → Prop
  | .set .sysUsbConfig v => ∃ c : Config, c.text = v ∧ (c ∈ m.queue → m.queue.getLast? = some c)
  | .set .sysUsbState _ => False
  | .next => True

theorem mem_configs (c : Config) : c ∈ configs := by cases c <;> decide

instance decidableUnhurried (m : Gadget) : ∀ e, Decidable (Unhurried m e)
  | .set .sysUsbConfig v => decidable_of_iff
      (∃ c ∈ configs, c.text = v ∧ (c ∈ m.queue → m.queue.getLast? = some c))
      ⟨fun ⟨c, _, h⟩ => ⟨c, h⟩, fun ⟨c, h⟩ => ⟨c, mem_configs c, h⟩⟩
  | .set .sysUsbState _ => isFalse id
  | .next => isTrue trivial

/-! ## The script -/

theorem triggered_text (c : Config) : usbScript.triggered .sysUsbConfig c.text = [c] := by
  cases c <;> decide

theorem flat_usbScript : usbScript.Flat where
  quiet a c hc name hname v := by
    have h : ∀ c ∈ commands a, c.target ≠ .prop .sysUsbConfig := by
      cases a <;> decide
    cases name with
    | sysUsbConfig => exact absurd hname (h c hc)
    | sysUsbState => rfl
  apart a b c hc d hd name hname := by
    have h : ∀ c ∈ commands a, c.target ≠ .prop .sysUsbConfig := by
      cases a <;> decide
    have h' : ∀ d ∈ commands b, d.value ≠ .prop .sysUsbState := by
      cases b <;> decide
    cases name with
    | sysUsbConfig => exact h c hc
    | sysUsbState => exact absurd hname (h' d hd)

theorem fixed_class {p : Place}
    (h : p = .bDeviceClass ∨ p = .bDeviceSubClass ∨ p = .bDeviceProtocol) :
    usbScript.Fixed (.place p) where
  ne_prop _ hp := by cases hp
  lit a c hc hp := by
    have hread : ∀ c ∈ commands a, ∀ name, c.value = .prop name →
        c.target = .place .functions ∨ c.target = .prop .sysUsbState := by
      cases a <;> simp [commands, write, writeFunctions, startAdbd, setState]
    cases hv : c.value with
    | lit v => exact ⟨v, rfl⟩
    | prop name =>
      have ht := hread c hc name hv
      rw [hp] at ht
      rcases h with rfl | rfl | rfl <;> simp at ht

/-! ## Runs -/

section
variable {m t : Gadget} {e : Event Property String} {start : Reg Place Property → String}

theorem Unhurried.heard (h : Unhurried m e) : Heard usbScript m e := by
  cases e with
  | next => trivial
  | set name v =>
    cases name with
    | sysUsbState => exact absurd h id
    | sysUsbConfig =>
      obtain ⟨c, rfl, -⟩ := h
      show usbScript.triggered .sysUsbConfig c.text ≠ []
      rw [triggered_text]
      exact List.cons_ne_nil c []

/-- The last action that ran or is to run is that of the configuration. -/
def Lined (m : Gadget) : Prop :=
  ∀ c, (m.ran ++ m.queue).getLast? = some c → m.regs (.prop .sysUsbConfig) = c.text

theorem lined_step (htraced : m.Traced usbScript start) (h : Lined m) (ho : Unhurried m e)
    (ht : step usbScript m e = some t) : Lined t := by
  cases e with
  | set name v =>
    obtain rfl := Option.some.inj ht
    cases name with
    | sysUsbState => exact absurd ho id
    | sysUsbConfig =>
      obtain ⟨c, rfl, hwait⟩ := ho
      intro d hd
      have hqueue : (m.put usbScript (.prop .sysUsbConfig) c.text).queue = enqueue m.queue c := by
        show (usbScript.triggered .sysUsbConfig c.text).foldl enqueue m.queue = _
        rw [triggered_text]
        rfl
      have hlast : (enqueue m.queue c).getLast? = some c := by
        unfold enqueue
        split
        · next hmem => exact hwait hmem
        · exact List.getLast?_concat
      rw [hqueue, List.getLast?_append, hlast] at hd
      obtain rfl : c = d := Option.some.inj hd
      show Function.update m.regs (.prop .sysUsbConfig) c.text (.prop .sysUsbConfig) = c.text
      exact Function.update_self _ _ _
  | next =>
    have hline := line_next flat_usbScript htraced.current ht
    have hconfig : t.regs (.prop .sysUsbConfig) = m.regs (.prop .sysUsbConfig) := by
      rcases step_cases flat_usbScript htraced.current ht with ⟨_, _, he, -⟩ |
        ⟨c, cs, -, hcur, rfl⟩ | ⟨a, queue, -, -, -, rfl⟩
      · cases he
      · obtain ⟨a, ha⟩ := htraced.current c (hcur ▸ List.mem_cons_self)
        have hne : ∀ c ∈ commands a, c.target ≠ .prop .sysUsbConfig := by cases a <;> decide
        exact Function.update_of_ne (hne c ha).symm _ _
      · rfl
    intro c hc
    rw [hconfig]
    exact h c (hline ▸ hc)

/-- Once nothing is left to run, the gadget is as it was asked for last, and the class of the device
is that of the last action that has one. -/
theorem usb_settles (h : Run (step usbScript) Unhurried (.start start) m) (hidle : m.Idle)
    (hran : m.ran ≠ []) :
    (∃ c, m.regs (.prop .sysUsbConfig) = c.text ∧ Shows m c) ∧
    m.regs (.place .bDeviceClass) =
      (m.ran.reverse.findSome? Config.deviceClass).getD (start (.place .bDeviceClass)) ∧
    m.regs (.place .bDeviceSubClass) =
      (m.ran.reverse.findSome? Config.subClass).getD (start (.place .bDeviceSubClass)) ∧
    m.regs (.place .bDeviceProtocol) =
      (m.ran.reverse.findSome? Config.protocol).getD (start (.place .bDeviceProtocol)) := by
  have hheard := h.mono fun _ _ ho => ho.heard
  have htraced : ∀ s, Run (step usbScript) Unhurried (.start start) s → s.Traced usbScript start :=
    fun s hs => hs.invariant traced_start fun _ _ _ hi ho hst =>
      traced_step flat_usbScript hi ho.heard hst
  have hlined : Lined m := h.invariant_of htraced (fun c hc => by cases hc)
    fun _ _ _ hJ hi ho hst => lined_step hJ hi ho hst
  obtain ⟨ran, c, hc⟩ := m.ran.eq_nil_or_concat'.resolve_left hran
  have hconfig : m.regs (.prop .sysUsbConfig) = c.text := by
    refine hlined c ?_
    rw [hidle.1, List.append_nil, hc]
    exact List.getLast?_concat
  have hsettles : ∀ r v, lastValue (commands c) r = some v → m.regs r = v.eval m.regs :=
    fun r v hv => settles flat_usbScript hheard hidle hc hv
  have hread : ∀ r, lastValue (commands c) r = some (.prop .sysUsbConfig) → m.regs r = c.text :=
    fun r hr => (hsettles r _ hr).trans hconfig
  have hclass : ∀ p, (p = .bDeviceClass ∨ p = .bDeviceSubClass ∨ p = .bDeviceProtocol) →
      m.regs (.place p) = (m.ran.reverse.findSome? fun c =>
        (lastValue (commands c) (.place p)).map (·.eval start)).getD (start (.place p)) :=
    fun p hp => fixed_eq flat_usbScript hheard hidle (fixed_class hp)
  refine ⟨⟨c, hconfig, ?_⟩, ?_, ?_, ?_⟩
  · constructor
    · exact hsettles _ (.lit "1") (by cases c <;> decide)
    · exact hsettles _ (.lit "1004") (by cases c <;> decide)
    · exact hsettles _ (.lit c.product) (by cases c <;> decide)
    · -- two actions write the functions as they are
      by_cases hmtp : c = .mtp ∨ c = .mtpAdb
      · exact hsettles _ (.lit c.text) (by rcases hmtp with rfl | rfl <;> decide)
      · exact hread _ (by cases c <;> first | decide | exact absurd (by decide) hmtp)
    · exact fun ha => hsettles _ (.lit "running") (by cases c <;> first | decide | cases ha)
    · exact hread _ (by cases c <;> decide)
  · rw [hclass _ (.inl rfl)]
    congr 2
    funext c
    cases c <;> rfl
  · rw [hclass _ (.inr (.inl rfl))]
    congr 2
    funext c
    cases c <;> rfl
  · rw [hclass _ (.inr (.inr rfl))]
    congr 2
    funext c
    cases c <;> rfl

end

/-- `adb` is asked for while the action of `mtp,adb` runs. -/
def switchTwice : List (Event Property String) :=
  [.set .sysUsbConfig "mtp,adb", .next, .next, .set .sysUsbConfig "adb"] ++
    List.replicate 16 .next

/-- It has the class of the configuration before it. -/
theorem usb_settles_switchTwice : ∃ m, exec (step usbScript) switchTwice (.start fun _ => "") =
    some m ∧ (∃ c, m.regs (.prop .sysUsbConfig) = c.text ∧ Shows m c) ∧
      m.regs (.place .bDeviceClass) = "239" := by
  refine ⟨_, rfl, ?_⟩
  have h := usb_settles (.of_exec rfl (by decide : OkAlong (step usbScript) Unhurried switchTwice
    (.start fun _ => ""))) ⟨rfl, rfl⟩ (List.cons_ne_nil _ _)
  exact ⟨h.1, h.2.1⟩

/-- `adb` is asked for again while its action waits in front of that of `ptp`: the gadget has the
functions of `adb` and the product of `ptp`. -/
theorem hurried_mixes : ∃ m, exec (step usbScript)
    ([.set .sysUsbConfig "mass_storage", .next, .set .sysUsbConfig "adb",
      .set .sysUsbConfig "ptp", .set .sysUsbConfig "adb"] ++ List.replicate 20 .next)
    (.start fun _ => "") = some m ∧ m.Idle ∧ m.regs (.prop .sysUsbConfig) = "adb" ∧
      m.regs (.place .functions) = "adb" ∧ m.regs (.place .idProduct) = Config.ptp.product :=
  ⟨_, rfl, ⟨rfl, rfl⟩, rfl, rfl, rfl⟩

end P970.Rootdir
