import P970.Wifi.Getmac

/-!
# The address over boots

`wlan-precheck` runs `wifimac` at a boot when the configuration is missing or empty.
A boot may lose its power on the way, and what it wrote of the configuration is
then cut short; where `fopen` fails, `fprintf` is given NULL. The first boot that
leaves a byte decides the configuration for all later ones, whatever they read of
the NVRAM, unless one before it had no file to write to (`boots_config`): a
configuration that was cut short is never written again.
-/

namespace P970.Wifi

/-- How far a boot gets: not to the `fprintf` of `wifimac`, to the first bytes of the file, or
through. -/
inductive Power where
  | before
  | cut (bytes : Nat)
  | through
  deriving DecidableEq, Repr

structure Boot where
  nvram : Nat → Option UInt8
  rand : Nat
  macaddr : Vector UInt8 18
  /-- The `fopen` of the configuration succeeds. -/
  opens : Bool
  power : Power

/-- `wifimac`, which does not look at what `fopen` returned. -/
def wifimac (b : Boot) : Checked (List UInt8) := do
  let config ← main b.nvram b.rand b.macaddr
  if b.opens then return config else .error .nullPointer

/-- `wlan-precheck`, with the configuration there is; a file that is missing is empty. -/
def precheck (config : List UInt8) (b : Boot) : Checked (List UInt8) :=
  if config ≠ [] then .ok config
  else match b.power with
    | .before => .ok config
    | .cut bytes => (wifimac b).map (List.take bytes)
    | .through => wifimac b

def boots (config : List UInt8) (bs : List Boot) : Checked (List UInt8) := bs.foldlM precheck config

/-- What `wifimac` writes. -/
def Boot.config (b : Boot) : List UInt8 :=
  Wifi.config (if (address b.nvram).all (· = 0) then fallback b.rand else joined (address b.nvram))

theorem main_eq (b : Boot) : main b.nvram b.rand b.macaddr = .ok b.config := by
  unfold Boot.config
  split
  · next h =>
    exact main_of_blank b.nvram b.rand b.macaddr fun x hx =>
      of_decide_eq_true (List.all_eq_true.mp h x hx)
  · next h =>
    exact main_of_address b.nvram b.rand b.macaddr fun hall =>
      h (List.all_eq_true.mpr fun x hx => decide_eq_true (hall x hx))

/-- What a boot makes of a file that is empty. -/
def Boot.made (b : Boot) : Checked (List UInt8) :=
  match b.power with
  | .before => .ok []
  | .cut bytes => if b.opens then .ok (b.config.take bytes) else .error .nullPointer
  | .through => if b.opens then .ok b.config else .error .nullPointer

theorem wifimac_eq (b : Boot) :
    wifimac b = if b.opens then .ok b.config else .error .nullPointer := by
  rw [wifimac, main_eq]
  rfl

theorem precheck_nil (b : Boot) : precheck [] b = b.made := by
  unfold precheck Boot.made
  rw [if_neg (not_not.mpr rfl), wifimac_eq]
  cases b.power with
  | before => rfl
  | cut bytes => cases b.opens <;> rfl
  | through => rfl

/-- A configuration stays. -/
theorem boots_of_ne_nil {config : List UInt8} (h : config ≠ []) (bs : List Boot) :
    boots config bs = .ok config := by
  induction bs with
  | nil => rfl
  | cons b bs ih =>
    have hb : precheck config b = .ok config := if_pos h
    rw [boots, List.foldlM_cons, hb]
    exact ih

/-- A boot that has its file gets through. -/
theorem made_of_opens {b : Boot} (h : b.opens = true) : ∃ config, b.made = .ok config := by
  unfold Boot.made
  rw [if_pos h]
  cases b.power with
  | before => exact ⟨_, rfl⟩
  | cut bytes => exact ⟨_, if_pos h⟩
  | through => exact ⟨_, rfl⟩

/-- After any boots the configuration is the one there was, or what the first boot has made that did
not leave it empty; only a boot without its file does what has no defined result. -/
theorem boots_config (config : List UInt8) (bs : List Boot) :
    boots config bs = (if config ≠ [] then .ok config
      else ((bs.map Boot.made).find? (· ≠ .ok [])).getD (.ok [])) ∧
    ((∀ b ∈ bs, b.opens = true) → ∃ left, boots config bs = .ok left) := by
  by_cases h : config ≠ []
  · rw [boots_of_ne_nil h, if_pos h]
    exact ⟨rfl, fun _ => ⟨config, rfl⟩⟩
  · rw [if_neg h]
    obtain rfl := not_not.mp h
    clear h
    induction bs with
    | nil => exact ⟨rfl, fun _ => ⟨[], rfl⟩⟩
    | cons b bs ih =>
      have hcons : boots [] (b :: bs) = b.made >>= fun config => boots config bs := by
        rw [boots, List.foldlM_cons, precheck_nil]
        rfl
      rw [hcons, List.map_cons]
      by_cases hb : b.made = .ok []
      · rw [List.find?_cons_of_neg (by simp [hb]), hb, Outcome.ok_bind]
        exact ⟨ih.1, fun hall => ih.2 fun c hc => hall c (List.mem_cons_of_mem b hc)⟩
      · rw [List.find?_cons_of_pos (by simp [hb]), Option.getD_some]
        cases hm : b.made with
        | error e =>
          refine ⟨rfl, fun hall => ?_⟩
          obtain ⟨left, hleft⟩ := made_of_opens (hall b List.mem_cons_self)
          rw [hm] at hleft
          cases hleft
        | ok left =>
          have hne : left ≠ [] := fun he => hb (hm.trans (congrArg Except.ok he))
          rw [Outcome.ok_bind, boots_of_ne_nil hne]
          exact ⟨rfl, fun _ => ⟨left, rfl⟩⟩

end P970.Wifi
