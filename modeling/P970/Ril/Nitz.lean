import P970.Ril.DateFormat

/-!
# The time that the network sends

`responseNitz` of the RIL class reads the text that the modem reports with
`RIL_UNSOL_NITZ_TIME_RECEIVED`, a local time with its distance from UTC in
quarters of an hour, and makes it a time in UTC. `processUnsolicitedNitz` is the
branch of `processUnsolicited` around it.
-/

namespace P970.Ril

open Java
open P970.Printf (printInt)

/-! ## The response -/

/-- What the class uses of the runtime. The parser and the formatter are made alike. -/
structure Runtime where
  digits : Digits
  dateFormat : SimpleDateFormat

def isComma (c : UInt16) : Bool := c == unit ','

/-- `[\+-]`. -/
def isSign (c : UInt16) : Bool := c == unit '+' || c == unit '-'

/-- `[0-9]`. -/
def isFigure (c : UInt16) : Bool := unit '0' ≤ c && c ≤ unit '9'

/-- What `.` does not match. -/
def isLineTerminator (c : UInt16) : Bool :=
  c == 0x0a || c == 0x0d || c == 0x85 || c == 0x2028 || c == 0x2029

/-- `s.matches(".*-[0-9]+$")`. -/
def matchesMinus (s : JString) : Bool :=
  match s.reverse.span isFigure with
  | (_ :: _, c :: front) => c == unit '-' && front.all fun c => !isLineTerminator c
  | _ => false

def printed (k : Int32) : JString := (printInt k.toInt).map unit

/-- The time in UTC, or the text itself when it is not a time. -/
def convert (R : Runtime) (parceldata : JString) (tzoffset : Int32) : JString :=
  match R.dateFormat.parse parceldata with
  | some time =>
    let offset : Int32 := tzoffset * 15 * 60 * 1000
    R.dateFormat.format (time - offset.toInt)
  | none => parceldata

/-- A time zone with its sign. -/
def signed (tzoffset : Int32) : JString :=
  (if tzoffset < 0 then [] else lit "+") ++ printed tzoffset

/-- The third piece, or zero. -/
def parcelextra (parcelitem : List JString) : Method JString :=
  if parcelitem.length > 2 then index parcelitem 2 else .ok (lit "0")

def responseNitz (R : Runtime) : Option JString → Method JString
  | none => .error .nullPointer
  | some parceldata => do
    let parcelitem := split isComma parceldata
    let item ← index parcelitem 1
    let hourbreak := split isSign item
    let date ← index parcelitem 0
    let hour ← index hourbreak 0
    let parceldata := date ++ lit "," ++ hour
    let quarters ← index hourbreak 1
    let tzoffset ← R.digits.parseInt quarters
    let tzoffset := if matchesMinus item then tzoffset * -1 else tzoffset
    let parcelextra ← parcelextra parcelitem
    let dst ← R.digits.parseInt parcelextra
    .ok (convert R parceldata tzoffset ++ signed tzoffset ++ lit "," ++ printed dst)

/-! ## The message -/

/-- What is left of the parcel: the text and the time since boot at which it was received. -/
structure NitzParcel where
  data : Option JString
  receiveTime : Int64

/-- The fields of the class that the message is about, whether the network's time is to be ignored,
and what the registrant was given. -/
structure LgeInfineon where
  ignoreNitz : Bool
  nitzTimeRegistrant : Bool
  notified : List (JString × Int64)
  lastNitzTimeInfo : Option (JString × Int64)

/-- The result goes to the registrant, or is kept for it. -/
def LgeInfineon.received (ril : LgeInfineon) (result : JString × Int64) : LgeInfineon :=
  if ril.ignoreNitz then ril
  else if ril.nitzTimeRegistrant then { ril with notified := ril.notified ++ [result] }
  else { ril with lastNitzTimeInfo := some result }

def processUnsolicitedNitz (R : Runtime) (ril : LgeInfineon) (p : NitzParcel) :
    Method LgeInfineon := do
  let ret ← responseNitz R p.data
  let nitzReceiveTime := p.receiveTime
  .ok (ril.received (ret, nitzReceiveTime))

/-! ## What is returned -/

theorem responseNitz_none (R : Runtime) : responseNitz R none = .error .nullPointer := rfl

theorem parcelextra_eq (parcelitem : List JString) :
    parcelextra parcelitem = .ok (parcelitem[2]?.getD (lit "0")) := by
  unfold parcelextra
  split
  · next h =>
    rw [index_eq_ok, List.getElem?_eq_getElem h, Option.getD_some]
  · next h =>
    rw [List.getElem?_eq_none (by omega), Option.getD_none]

/-- The pieces that the code relies on, in the order in which it reads them. -/
theorem responseNitz_eq_ok {R : Runtime} {parceldata r : JString} :
    responseNitz R (some parceldata) = .ok r ↔ ∃ item date hour quarters tzoffset dst,
      (split isComma parceldata)[1]? = some item ∧ (split isComma parceldata)[0]? = some date ∧
      (split isSign item)[0]? = some hour ∧ (split isSign item)[1]? = some quarters ∧
      R.digits.parseInt quarters = .ok tzoffset ∧
      R.digits.parseInt ((split isComma parceldata)[2]?.getD (lit "0")) = .ok dst ∧
      convert R (date ++ lit "," ++ hour) (if matchesMinus item then tzoffset * -1 else tzoffset) ++
        signed (if matchesMinus item then tzoffset * -1 else tzoffset) ++ lit "," ++
        printed dst = r := by
  unfold responseNitz
  simp only [Outcome.bind_eq_ok, index_eq_ok, parcelextra_eq, exists_eq_left', Except.ok.injEq,
    exists_and_left]

end P970.Ril
