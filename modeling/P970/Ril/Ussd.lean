import P970.Lib.Hex
import P970.Lib.Utf16
import P970.Ril.Nitz

/-!
# Messages of the network's services

`processUnsolicited` of the RIL class. The text of a `RIL_UNSOL_ON_USSD` comes as it
is or in hexadecimal, which the class tells by the characters of it. What it reads
back is not always the text (`announces_iff`).
-/

namespace P970.Ril

open Java

/-! ## The class -/

/-- What the class uses of the runtime: also `Character.digit` in radix 16, and the charset
`"UTF-16"`. -/
structure Platform extends Runtime where
  digit16 : UInt16 → Int
  digit16_figure {n : Nat} : n < 16 → digit16 (Hex.upper.figure n) = n
  utf16 : Utf16

/-- The messages that the class reads itself, and the numbers of the others. -/
inductive Unsolicited where
  | onUssd (strings : List (Option JString))
  | simStateChanged
  | nitzTimeReceived (p : NitzParcel)
  | other (response : Int32)

/-- Also the registrants for USSD and for the state of the card, what they were given, and what went
on to the super class. -/
structure LgeRil extends LgeInfineon where
  ussdRegistrant : Bool
  ussdNotified : List (List (Option JString))
  iccStatusChangedRegistrants : Bool
  iccStatusNotified : Nat
  forwarded : List Int32

/-- `(byte) ((high << 4) + low)`. -/
def byteOf (high low : Int) : UInt8 := UInt8.ofInt (high * 16 + low)

/-- An odd number of characters ends in a `charAt` behind the last one. -/
def hexStringToByteArray (P : Platform) : JString → Method (List UInt8)
  | [] => .ok []
  | [_] => .error .stringIndexOutOfBounds
  | high :: low :: rest => do
    let data ← hexStringToByteArray P rest
    .ok (byteOf (P.digit16 high) (P.digit16 low) :: data)

/-- `[0-9A-F]`. -/
def isHexFigure (c : UInt16) : Bool :=
  unit '0' ≤ c && c ≤ unit '9' || unit 'A' ≤ c && c ≤ unit 'F'

/-- `s.matches("[0-9A-F]+")`. -/
def matchesHex (s : JString) : Bool := !s.isEmpty && s.all isHexFigure

/-- `resp[1]`, where the charset is there. -/
def ussdText (P : Platform) : Option JString → Method (Option JString)
  | none => .ok none
  | some s =>
    if s.length % 2 = 0 ∧ matchesHex s = true then do
      let data ← hexStringToByteArray P s
      .ok (some (P.utf16.decode data))
    else .ok (some s)

/-- `resp`. -/
def ussdResponse (P : Platform) (ret : List (Option JString)) : Method (List (Option JString)) := do
  let resp ←
    if ret.length < 2 then do
      let first ← index ret 0
      .ok [first, none]
    else .ok ret
  let text ← index resp 1
  let text ← ussdText P text
  .ok (resp.set 1 text)

def processUnsolicited (P : Platform) (ril : LgeRil) : Unsolicited → Method LgeRil
  | .onUssd ret => do
    let resp ← ussdResponse P ret
    if ril.ussdRegistrant then .ok { ril with ussdNotified := ril.ussdNotified ++ [resp] }
    else .ok ril
  | .simStateChanged =>
    if ril.iccStatusChangedRegistrants then
      .ok { ril with iccStatusNotified := ril.iccStatusNotified + 1 }
    else .ok ril
  | .nitzTimeReceived p => do
    let nitz ← processUnsolicitedNitz P.toRuntime ril.toLgeInfineon p
    .ok { ril with toLgeInfineon := nitz }
  | .other response => .ok { ril with forwarded := ril.forwarded ++ [response] }

/-! ## What the texts mean -/

/-- The bytes of a text, high byte first, in upper-case hexadecimal. -/
def hexEncode (text : JString) : JString := Hex.upper.encode (Utf16.bigEndian text)

/-- What was received is a text of whole characters in hexadecimal. -/
def Encodes (received : Option JString) (text : JString) : Prop :=
  text ≠ [] ∧ Utf16.paired text = true ∧ received = some (hexEncode text)

/-- The text is delivered where there is one, and anything else as it is. -/
def Meant (received delivered : Option JString) : Prop :=
  (∀ text, Encodes received text → delivered = some text) ∧
    ((∀ text, ¬ Encodes received text) → delivered = received)

/-- What looks like hexadecimal is a text that is read back: it has no mark in front. -/
def Legible (P : Platform) (received : Option JString) : Prop :=
  ∀ s, received = some s → s.length % 2 = 0 → matchesHex s = true →
    ∃ text, Utf16.paired text = true ∧ ¬ Utf16.Marked text ∧
      (P.utf16.rejectsReversedMark = true → Utf16.reversedMark ∉ text) ∧ s = hexEncode text

section
variable {P : Platform}

theorem isHexFigure_iff {c : UInt16} : isHexFigure c = true ↔ ∃ n < 16, c = Hex.upper.figure n := by
  have hval : isHexFigure c = true ↔ (Hex.upper.value c).isSome = true := by
    have h0 : (unit '0').toNat = 48 := rfl
    have h9 : (unit '9').toNat = 57 := rfl
    have hA : (unit 'A').toNat = 65 := rfl
    have hF : (unit 'F').toNat = 70 := rfl
    simp only [isHexFigure, Bool.or_eq_true, Bool.and_eq_true, decide_eq_true_eq,
      UInt16.le_iff_toNat_le, h0, h9, hA, hF, Hex.upper, Hex.ofCodes]
    split
    · next h => simp [h]
    · next h =>
      split
      · next h' => simp [h']
      · next h' => simp; omega
  rw [hval]
  constructor
  · intro h
    obtain ⟨n, hn⟩ := Option.isSome_iff_exists.mp h
    obtain ⟨hlt, hc⟩ := Hex.upper.figure_value hn
    exact ⟨n, hlt, hc.symm⟩
  · rintro ⟨n, hn, rfl⟩
    rw [Hex.upper.value_figure hn]
    rfl

theorem byteOf_figures (b : UInt8) :
    byteOf (P.digit16 (Hex.upper.figure (b.toNat / 16))) (P.digit16 (Hex.upper.figure (b.toNat % 16))) =
      b := by
  have hb := b.toNat_lt
  rw [P.digit16_figure (by omega), P.digit16_figure (by omega), byteOf, UInt8.ofInt]
  have hval : (((b.toNat / 16 : Nat) * 16 + (b.toNat % 16 : Nat) : Int) % 2 ^ 8).toNat = b.toNat := by
    omega
  rw [hval, UInt8.ofNat_toNat]

theorem hexStringToByteArray_encode (bytes : List UInt8) :
    hexStringToByteArray P (Hex.upper.encode bytes) = .ok bytes := by
  induction bytes with
  | nil => rfl
  | cons b bytes ih =>
    rw [Hex.encode_cons, Hex.encodeByte]
    simp only [List.cons_append, List.nil_append, hexStringToByteArray, ih, Outcome.ok_bind,
      byteOf_figures]

/-- Every text but the empty one looks like hexadecimal. -/
theorem hexEncode_matches {text : JString} (h : text ≠ []) :
    (hexEncode text).length % 2 = 0 ∧ matchesHex (hexEncode text) = true := by
  have hlen : (hexEncode text).length = 2 * (2 * text.length) := by
    rw [hexEncode, Hex.length_encode, Utf16.length_bigEndian]
  have hpos := List.length_pos_of_ne_nil h
  refine ⟨by omega, Bool.and_eq_true_iff.mpr ⟨?_, List.all_eq_true.mpr fun c hc => ?_⟩⟩
  · rw [Bool.not_eq_true', List.isEmpty_eq_false_iff]
    intro hnil
    rw [hnil, List.length_nil] at hlen
    omega
  · obtain ⟨b, -, hb⟩ := List.mem_flatMap.mp hc
    have hlt := b.toNat_lt
    rcases List.mem_cons.mp hb with rfl | hb
    · exact isHexFigure_iff.mpr ⟨b.toNat / 16, by omega, rfl⟩
    · exact isHexFigure_iff.mpr ⟨b.toNat % 16, by omega, List.mem_singleton.mp hb⟩

theorem hexEncode_eq_encode {text : JString} {bytes : List UInt8}
    (h : Hex.upper.encode bytes = hexEncode text) : bytes = Utf16.bigEndian text :=
  Hex.encode_injective h

theorem hexEncode_injective {s t : JString} (h : hexEncode s = hexEncode t) : s = t := by
  have hb := hexEncode_eq_encode h
  rw [← Utf16.units_bigEndian s, hb, Utf16.units_bigEndian]

/-- Anything that does not look like hexadecimal is delivered as it is, which is right. -/
theorem ussdText_plain {received : Option JString}
    (h : ∀ s, received = some s → ¬ (s.length % 2 = 0 ∧ matchesHex s = true)) :
    ussdText P received = .ok received ∧ Meant received received ∧ Legible P received := by
  refine ⟨?_, ⟨fun text ht => ?_, fun _ => rfl⟩, fun s hs h0 h1 => absurd ⟨h0, h1⟩ (h s hs)⟩
  · cases received with
    | none => rfl
    | some s => exact if_neg (h s rfl)
  · exact absurd (hexEncode_matches ht.1) (h _ ht.2.2)

/-- A decoded text is shorter than its figures, so only a text comes out right. -/
theorem meant_decode_iff {bytes : List UInt8} (h : bytes ≠ []) :
    Meant (some (Hex.upper.encode bytes)) (some (P.utf16.decode bytes)) ↔
      ∃ text, Utf16.paired text = true ∧ ¬ Utf16.Marked text ∧
        (P.utf16.rejectsReversedMark = true → Utf16.reversedMark ∉ text) ∧
          Hex.upper.encode bytes = hexEncode text := by
  have hlen := P.utf16.length_decode bytes
  constructor
  · intro hmeant
    by_cases hex : ∃ text, Encodes (some (Hex.upper.encode bytes)) text
    · obtain ⟨text, hne, hpaired, hs⟩ := hex
      have hdecode : P.utf16.decode bytes = text :=
        Option.some.inj (hmeant.1 text ⟨hne, hpaired, hs⟩)
      have hbytes := hexEncode_eq_encode (Option.some.inj hs)
      refine ⟨text, hpaired, fun hmarked => ?_, fun hr => ?_, Option.some.inj hs⟩
      · -- the mark is lost
        have hmark := Utf16.length_withoutMark_of_marked hmarked
        rw [hdecode, hbytes] at hlen
        omega
      · rw [← hdecode]
        exact P.utf16.not_mem_decode bytes hr
    · have hsame := Option.some.inj (hmeant.2 fun text ht => hex ⟨text, ht⟩)
      have hmark := Utf16.length_withoutMark_le bytes
      have hpos := List.length_pos_of_ne_nil h
      rw [hsame, Hex.length_encode] at hlen
      omega
  · rintro ⟨text, hpaired, hunmarked, hrev, hs⟩
    have hbytes := hexEncode_eq_encode hs
    have hne : text ≠ [] := by
      rintro rfl
      exact h hbytes
    have hdecode : P.utf16.decode bytes = text := by
      rw [hbytes]
      exact P.utf16.decode_bigEndian hpaired hunmarked hrev
    rw [hdecode]
    refine ⟨fun text' ht => ?_, fun hno => absurd ⟨hne, hpaired, congrArg some hs⟩ (hno text)⟩
    exact congrArg some (hexEncode_injective (hs.symm.trans (Option.some.inj ht.2.2)))

/-- Element 1 never stops the class, and comes out as it is meant exactly when it is legible. -/
theorem ussdText_meant_iff (P : Platform) (received : Option JString) :
    ∃ delivered, ussdText P received = .ok delivered ∧
      (Meant received delivered ↔ Legible P received) := by
  by_cases h : ∃ s, received = some s ∧ s.length % 2 = 0 ∧ matchesHex s = true
  · obtain ⟨s, rfl, heven, hmatches⟩ := h
    obtain ⟨hne, hall⟩ := Bool.and_eq_true_iff.mp hmatches
    obtain ⟨bytes, rfl⟩ := Hex.exists_encode
      (fun c hc => isHexFigure_iff.mp (List.all_eq_true.mp hall c hc)) heven
    have hbytes : bytes ≠ [] := by
      rintro rfl
      exact absurd hne (by decide)
    refine ⟨some (P.utf16.decode bytes), ?_, (meant_decode_iff hbytes).trans ?_⟩
    · rw [ussdText, if_pos ⟨heven, hmatches⟩, hexStringToByteArray_encode]
      rfl
    · constructor
      · rintro ⟨text, h⟩ s hs - -
        cases hs
        exact ⟨text, h⟩
      · exact fun h => h _ rfl heven hmatches
  · obtain ⟨hok, hmeant, hlegible⟩ := ussdText_plain (P := P) fun s hs hc => h ⟨s, hs, hc⟩
    exact ⟨received, hok, iff_of_true hmeant hlegible⟩

/-! ## The message -/

theorem ussdResponse_nil (P : Platform) : ussdResponse P [] = .error .arrayIndexOutOfBounds := rfl

/-- An array with one element is filled up. -/
theorem ussdResponse_of_ne_nil (P : Platform) {ret : List (Option JString)} (h : ret ≠ []) :
    ∃ resp delivered, ussdResponse P ret = .ok resp ∧ 2 ≤ resp.length ∧
      resp[1]? = some delivered ∧ (Meant ret[1]?.join delivered ↔ Legible P ret[1]?.join) := by
  obtain ⟨delivered, hok, hmeant⟩ := ussdText_meant_iff P ret[1]?.join
  obtain ⟨first, rest, rfl⟩ := List.exists_cons_of_ne_nil h
  cases rest with
  | nil =>
    refine ⟨[first, delivered], delivered, ?_, Nat.le_refl 2, rfl, hmeant⟩
    cases hok
    rfl
  | cons second rest =>
    refine ⟨first :: delivered :: rest, delivered, ?_, ?_, rfl, hmeant⟩
    · have hlong : ¬ (first :: second :: rest).length < 2 := by
        rw [List.length_cons, List.length_cons]
        omega
      have htext : ussdText P second = .ok delivered := hok
      rw [ussdResponse, if_neg hlong]
      simp only [Outcome.ok_bind, index, List.getElem?_cons_succ, List.getElem?_cons_zero, htext,
        List.set_cons_succ, List.set_cons_zero]
    · rw [List.length_cons, List.length_cons]
      omega

/-- The class goes on, whatever its state, and the registrant has one array more, with the text as
it is meant. -/
def Announces (P : Platform) (ret : List (Option JString)) : Prop :=
  ∃ resp delivered,
    (∀ ril : LgeRil, processUnsolicited P ril (.onUssd ret) = .ok { ril with
      ussdNotified :=
        if ril.ussdRegistrant then ril.ussdNotified ++ [resp] else ril.ussdNotified }) ∧
    2 ≤ resp.length ∧ resp[1]? = some delivered ∧ Meant ret[1]?.join delivered

/-- A class with a registrant. -/
def listening : LgeRil where
  ignoreNitz := false
  nitzTimeRegistrant := false
  notified := []
  lastNitzTimeInfo := none
  ussdRegistrant := true
  ussdNotified := []
  iccStatusChangedRegistrants := false
  iccStatusNotified := 0
  forwarded := []

/-- What the class makes of the array is what the registrant has. -/
theorem Announces.response {ret : List (Option JString)} (h : Announces P ret) :
    ∃ resp delivered, ussdResponse P ret = .ok resp ∧ resp[1]? = some delivered ∧
      Meant ret[1]?.join delivered := by
  obtain ⟨resp, delivered, hrun, -, hget, hmeant⟩ := h
  obtain ⟨resp', hresp, hrest⟩ := Outcome.bind_eq_ok.mp (hrun listening)
  have hsame : [resp'] = [resp] := congrArg LgeRil.ussdNotified (Except.ok.inj hrest)
  obtain rfl : resp' = resp := List.singleton_injective hsame
  exact ⟨resp', delivered, hresp, hget, hmeant⟩

theorem not_announces {ret resp : List (Option JString)} {delivered : Option JString}
    (hresp : ussdResponse P ret = .ok resp) (hget : resp[1]? = some delivered)
    (h : ¬ Meant ret[1]?.join delivered) : ¬ Announces P ret := by
  intro hannounces
  obtain ⟨resp', delivered', hresp', hget', hmeant⟩ := hannounces.response
  cases hresp.symm.trans hresp'
  cases hget.symm.trans hget'
  exact h hmeant

/-- The array must not be empty, and what looks like hexadecimal must be a text without a mark. -/
theorem announces_iff (P : Platform) (ret : List (Option JString)) :
    Announces P ret ↔ ret ≠ [] ∧ Legible P ret[1]?.join := by
  constructor
  · intro h
    obtain ⟨resp, delivered, hresp, hget, hmeant⟩ := h.response
    have hne : ret ≠ [] := by
      rintro rfl
      cases hresp.symm.trans (ussdResponse_nil P)
    obtain ⟨resp', delivered', hresp', -, hget', hiff⟩ := ussdResponse_of_ne_nil P hne
    cases hresp.symm.trans hresp'
    cases hget.symm.trans hget'
    exact ⟨hne, hiff.mp hmeant⟩
  · rintro ⟨hne, hlegible⟩
    obtain ⟨resp, delivered, hresp, hlen, hget, hiff⟩ := ussdResponse_of_ne_nil P hne
    refine ⟨resp, delivered, fun ril => ?_, hlen, hget, hiff.mpr hlegible⟩
    rw [processUnsolicited, hresp]
    simp only [Outcome.ok_bind]
    split <;> rfl

/-- A runtime with the figures of ASCII, and a charset that takes a reversed mark for malformed and
a broken pair as one piece. -/
def asciiPlatform : Platform where
  digits := .ascii
  dateFormat := .ofZone ⟨fun _ => 0, fun _ => 0⟩
  digit16 c := (Hex.upper.value c).elim (-1) Int.ofNat
  digit16_figure h := by rw [Hex.upper.value_figure h]; rfl
  utf16 := .replacing true true

/-- No elements: an exception. A text with a mark in front: the mark is lost. Half of a pair: not
what was received. -/
theorem announces_fails :
    (processUnsolicited asciiPlatform listening (.onUssd []) = .error .arrayIndexOutOfBounds ∧
      ¬ Announces asciiPlatform []) ∧
    (ussdResponse asciiPlatform [none, some (lit "FEFF0041")] = .ok [none, some (lit "A")] ∧
      ¬ Announces asciiPlatform [none, some (lit "FEFF0041")]) ∧
    (ussdResponse asciiPlatform [none, some (lit "D800")] = .ok [none, some [0xFFFD]] ∧
      ¬ Announces asciiPlatform [none, some (lit "D800")]) := by
  have hmark : ussdResponse asciiPlatform [none, some (lit "FEFF0041")] =
      .ok [none, some (lit "A")] := by decide
  have hhalf : ussdResponse asciiPlatform [none, some (lit "D800")] =
      .ok [none, some [0xFFFD]] := by decide
  refine ⟨⟨rfl, fun h => ?_⟩, ⟨hmark, not_announces hmark rfl fun h => ?_⟩,
    ⟨hhalf, not_announces hhalf rfl fun h => ?_⟩⟩
  · obtain ⟨resp, delivered, hresp, -⟩ := h.response
    cases hresp.symm.trans (ussdResponse_nil _)
  · have htext := h.1 [0xFEFF, 0x41] ⟨by decide, by decide, by decide⟩
    exact absurd htext (by decide)
  · have hno : ∀ text, ¬ Encodes (some (lit "D800")) text := by
      rintro text ⟨-, hpaired, hs⟩
      obtain rfl : text = [0xD800] :=
        hexEncode_injective ((Option.some.inj hs).symm.trans (by decide))
      exact absurd hpaired (by decide)
    exact absurd (h.2 hno) (by decide)

end

end P970.Ril
