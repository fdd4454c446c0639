import Mathlib.Data.List.TakeWhile
import P970.Lib.CString
import P970.Lib.Outcome

/-!
# The version the modem reports

`cpversion` sends `AT%SWOV` to the modem, reads once without blocking and publishes
the line behind the echo. `readbuf` is what is left of `sync_buf` from it on, so at
the end of the array a read through it is outside.
-/

namespace P970.Bbversion

def lf : UInt8 := 10

def cr : UInt8 := 13

/-- How `main` ends, with the value it has set `gsm.version.baseband` to. -/
structure Exit where
  code : Nat
  property : Option (List UInt8)
  deriving DecidableEq, Repr

/-- What the first loop passes over. -/
def isEcho (c : UInt8) : Bool := c ≠ lf ∧ c ≠ CString.nul

/-- What the second loop passes over. -/
def isText (c : UInt8) : Bool := c ≠ cr ∧ c ≠ lf ∧ c ≠ CString.nul

/-- The first loop, which looks at `read_bytes` first. -/
def skipEcho : List UInt8 → Int → Checked (List UInt8 × Int)
  | [], readBytes => if readBytes ≠ 0 then .error .outOfBounds else .ok ([], readBytes)
  | c :: rest, readBytes =>
    if readBytes ≠ 0 ∧ isEcho c then skipEcho rest (readBytes - 1) else .ok (c :: rest, readBytes)

/-- The second loop, which looks at the byte first: how far `readbuf` gets from `result`. -/
def lineEnd : List UInt8 → Int → Checked Nat
  | [], _ => .error .outOfBounds
  | c :: rest, readBytes =>
    if isText c ∧ readBytes ≠ 0 then do
      let k ← lineEnd rest (readBytes - 1)
      return k + 1
    else .ok 0

/-- From `result` on, with `k` the place of `readbuf`. -/
def publish (k : Nat) (result : List UInt8) : Checked Exit := do
  let result ← CString.poke k CString.nul result
  if (← CString.strlen result) > 2 then
    let result ← CString.poke (k - 1) CString.nul result
    return ⟨0, some (← CString.read result.tail)⟩
  else return ⟨0, some (← CString.read result)⟩

/-- `main`: the descriptor `open` gives, and what `read` leaves in `sync_buf` and returns. -/
def main (fd : Int) (syncBuf : List UInt8) (readBytes : Int) : Checked Exit :=
  if fd ≤ 0 then .ok ⟨1, none⟩
  else if readBytes ≠ 0 then do
    let (readbuf, readBytes) ← skipEcho syncBuf readBytes
    if readBytes = 0 then return ⟨2, none⟩
    else if readBytes - 1 = 0 then return ⟨2, none⟩
    else
      let result := readbuf.tail
      publish (← lineEnd result (readBytes - 1)) result
  else .ok ⟨3, none⟩

/-! ## The answer of the modem -/

/-- What follows the first line. -/
def behindEcho (bytes : List UInt8) : List UInt8 := (bytes.dropWhile isEcho).tail

def answer (bytes : List UInt8) : List UInt8 := (behindEcho bytes).takeWhile isText

/-- Without the first and the last character. -/
def chopped (text : List UInt8) : List UInt8 := if text.length > 2 then text.tail.dropLast else text

section
variable {bytes rest : List UInt8}

theorem skipEcho_append (bytes rest : List UInt8) :
    skipEcho (bytes ++ rest) bytes.length =
      .ok (bytes.dropWhile isEcho ++ rest, (bytes.dropWhile isEcho).length) := by
  induction bytes with
  | nil => cases rest <;> rfl
  | cons c bytes ih =>
    rw [List.cons_append, skipEcho, List.dropWhile_cons]
    by_cases hc : isEcho c = true
    · rw [if_pos ⟨by rw [List.length_cons]; omega, hc⟩, if_pos hc, ← ih, List.length_cons,
        Nat.cast_succ, Int.add_sub_cancel]
    · rw [if_neg (fun h => hc h.2), if_neg hc]
      rfl

/-- The byte behind the last one is looked at, so there must be one or an end before it. -/
theorem lineEnd_append (h : rest ≠ [] ∨ ∃ c ∈ bytes, isText c = false) :
    lineEnd (bytes ++ rest) bytes.length = .ok (bytes.takeWhile isText).length := by
  induction bytes with
  | nil =>
    obtain ⟨c, tail, rfl⟩ := List.exists_cons_of_ne_nil
      (h.resolve_right fun ⟨_, hc, _⟩ => absurd hc List.not_mem_nil)
    exact if_neg fun h0 => h0.2 rfl
  | cons c bytes ih =>
    rw [List.cons_append, lineEnd, List.takeWhile_cons]
    by_cases hc : isText c = true
    · have h' : rest ≠ [] ∨ ∃ c ∈ bytes, isText c = false := by
        refine h.imp_right fun ⟨d, hd, hend⟩ => ⟨d, ?_, hend⟩
        rcases List.mem_cons.mp hd with rfl | hd
        · exact absurd (hc.symm.trans hend) Bool.noConfusion
        · exact hd
      rw [if_pos ⟨hc, by rw [List.length_cons]; omega⟩, if_pos hc, List.length_cons, Nat.cast_succ,
        Int.add_sub_cancel, ih h']
      rfl
    · rw [if_neg (fun h => hc h.1), if_neg hc]
      rfl

theorem lineEnd_full (h : ∀ c ∈ bytes, isText c = true) :
    lineEnd bytes bytes.length = .error .outOfBounds := by
  induction bytes with
  | nil => rfl
  | cons c bytes ih =>
    have hc := h c List.mem_cons_self
    rw [lineEnd, if_pos ⟨hc, by rw [List.length_cons]; omega⟩, List.length_cons, Nat.cast_succ,
      Int.add_sub_cancel, ih fun d hd => h d (List.mem_cons_of_mem _ hd)]
    rfl

theorem nul_not_mem_takeWhile : CString.nul ∉ bytes.takeWhile isText := by
  intro h
  exact absurd (List.mem_takeWhile_imp h) (by decide)

/-- The NUL goes over the byte behind the text, which is there. -/
theorem publish_text {text : List UInt8} (h : CString.nul ∉ text) (c : UInt8) :
    publish text.length (text ++ c :: rest) = .ok ⟨0, some (chopped text)⟩ := by
  rw [publish, CString.poke_append]
  simp only [Outcome.ok_bind]
  rw [CString.strlen_append h]
  simp only [Outcome.ok_bind]
  split
  · next hlen =>
    obtain ⟨first, tail, rfl⟩ := List.exists_cons_of_length_pos (show 0 < text.length by omega)
    obtain ⟨mid, last, rfl⟩ : ∃ mid last, tail = mid ++ [last] :=
      ⟨tail.dropLast, tail.getLast (by rintro rfl; simp at hlen), (List.dropLast_concat_getLast _).symm⟩
    have hmid : CString.nul ∉ mid := fun hm =>
      h (List.mem_cons_of_mem _ (List.mem_append_left _ hm))
    have hpoke : CString.poke (first :: mid).length CString.nul
        (first :: mid ++ last :: CString.nul :: rest) =
          .ok (first :: mid ++ CString.nul :: CString.nul :: rest) := CString.poke_append
    have hk : (first :: (mid ++ [last])).length - 1 = (first :: mid).length := by simp
    rw [hk, ← List.cons_append, List.append_assoc, List.singleton_append, hpoke]
    simp only [Outcome.ok_bind, List.cons_append, List.tail_cons]
    rw [CString.read_append hmid, chopped, if_pos hlen, List.tail_cons, List.dropLast_concat]
    rfl
  · next hlen =>
    rw [CString.read_append h, chopped, if_neg hlen]
    rfl

theorem publish_code {k : Nat} {result : List UInt8} {e : Exit} (h : publish k result = .ok e) :
    e.code = 0 := by
  obtain ⟨mem, -, h⟩ := Outcome.bind_eq_ok.mp h
  obtain ⟨len, -, h⟩ := Outcome.bind_eq_ok.mp h
  split at h
  · obtain ⟨mem', -, h⟩ := Outcome.bind_eq_ok.mp h
    obtain ⟨text, -, h⟩ := Outcome.bind_eq_ok.mp h
    cases h
    rfl
  · obtain ⟨text, -, h⟩ := Outcome.bind_eq_ok.mp h
    cases h
    rfl

/-- A count below zero never gets to zero. -/
theorem skipEcho_neg {readbuf readbuf' : List UInt8} {n m : Int} (hn : n < 0)
    (h : skipEcho readbuf n = .ok (readbuf', m)) : m < 0 := by
  induction readbuf generalizing n with
  | nil =>
    rw [skipEcho, if_pos hn.ne] at h
    cases h
  | cons c rest ih =>
    rw [skipEcho] at h
    split at h
    · exact ih (by omega) h
    · cases h
      exact hn

end

/-! ## Every read -/

/-- A run that gets as far as `read`, which leaves the bytes beyond its result as they were. -/
structure SyncRead where
  fd : Int
  opened : 0 < fd
  syncBuf : List UInt8
  length_syncBuf : syncBuf.length = 256
  readBytes : Int
  bounds : -1 ≤ readBytes ∧ readBytes ≤ 256

namespace SyncRead

def run (r : SyncRead) : Checked Exit := main r.fd r.syncBuf r.readBytes

def received (r : SyncRead) : List UInt8 := r.syncBuf.take r.readBytes.toNat

/-- The run stays inside the array, depends on what was received only, and publishes the answer
if there is one. -/
def Reports (r : SyncRead) : Prop :=
  ∃ e, r.run = .ok e ∧
    (∀ r' : SyncRead, r'.readBytes = r.readBytes → r'.received = r.received → r'.run = .ok e) ∧
    if r.readBytes ≤ 0 ∨ behindEcho r.received = [] then e.code ≠ 0 ∧ e.property = none
    else e.property = some (chopped (answer r.received))

/-- The read has not failed, and an answer that fills the array has an end in it. -/
def Bounded (r : SyncRead) : Prop :=
  r.readBytes ≠ -1 ∧
    (r.readBytes = 256 → behindEcho r.received = [] ∨ ∃ c ∈ behindEcho r.received, isText c = false)

section
variable (r : SyncRead)

theorem run_eq : r.run =
    if r.readBytes ≠ 0 then do
      let (readbuf, readBytes) ← skipEcho r.syncBuf r.readBytes
      if readBytes = 0 then return ⟨2, none⟩
      else if readBytes - 1 = 0 then return ⟨2, none⟩
      else
        let result := readbuf.tail
        publish (← lineEnd result (readBytes - 1)) result
    else .ok ⟨3, none⟩ := by
  rw [run, main, if_neg (not_le.mpr r.opened)]

theorem length_received (h : 0 ≤ r.readBytes) : (r.received.length : Int) = r.readBytes := by
  have hb := r.bounds
  rw [received, List.length_take_of_le (by rw [r.length_syncBuf]; omega)]
  omega

/-- A run that has received something. -/
theorem run_received (h : 0 < r.readBytes) : r.run =
    if behindEcho r.received = [] then .ok ⟨2, none⟩
    else
      let result := behindEcho r.received ++ r.syncBuf.drop r.readBytes.toNat
      lineEnd result (behindEcho r.received).length >>= fun k => publish k result := by
  have hskip := skipEcho_append r.received (r.syncBuf.drop r.readBytes.toNat)
  rw [r.length_received h.le, received, List.take_append_drop] at hskip
  rw [run_eq, if_pos h.ne', hskip]
  simp only [Outcome.ok_bind]
  rw [behindEcho, received]
  cases hd : (r.syncBuf.take r.readBytes.toNat).dropWhile isEcho with
  | nil => rfl
  | cons c tail =>
    rw [if_neg (by rw [List.length_cons]; omega), List.length_cons, Nat.cast_succ,
      Int.add_sub_cancel, List.tail_cons, List.cons_append, List.tail_cons]
    by_cases ht : tail = []
    · rw [if_pos (by rw [ht]; rfl), if_pos ht]
      rfl
    · rw [if_neg (by simpa using ht), if_neg ht]

variable {r}

/-- A read that failed counts as one that received something. -/
theorem code_of_failed (h : r.readBytes = -1) {e : Exit} (he : r.run = .ok e) : e.code = 0 := by
  rw [run_eq, if_pos (by omega)] at he
  obtain ⟨⟨readbuf, m⟩, hskip, he⟩ := Outcome.bind_eq_ok.mp he
  have hm : m < 0 := skipEcho_neg (by omega) hskip
  simp only at he
  rw [if_neg hm.ne, if_neg (by omega)] at he
  obtain ⟨k, -, he⟩ := Outcome.bind_eq_ok.mp he
  exact publish_code he

theorem rest_ne_nil (h : r.readBytes < 256) : r.syncBuf.drop r.readBytes.toNat ≠ [] := by
  intro hnil
  have hlen := congrArg List.length hnil
  rw [List.length_drop, r.length_syncBuf, List.length_nil] at hlen
  omega

theorem run_published (h : 0 < r.readBytes) (hb : r.Bounded) (hne : behindEcho r.received ≠ []) :
    r.run = .ok ⟨0, some (chopped (answer r.received))⟩ := by
  have hend : r.syncBuf.drop r.readBytes.toNat ≠ [] ∨
      ∃ c ∈ behindEcho r.received, isText c = false := by
    rcases (show r.readBytes < 256 ∨ r.readBytes = 256 by have := r.bounds; omega) with hlt | hfull
    · exact .inl (rest_ne_nil hlt)
    · exact .inr ((hb.2 hfull).resolve_left hne)
  have hsplit : behindEcho r.received ++ r.syncBuf.drop r.readBytes.toNat =
      answer r.received ++ ((behindEcho r.received).dropWhile isText ++
        r.syncBuf.drop r.readBytes.toNat) := by
    rw [← List.append_assoc, answer, List.takeWhile_append_dropWhile]
  have hbehind : (behindEcho r.received).dropWhile isText ++
      r.syncBuf.drop r.readBytes.toNat ≠ [] := by
    intro hnil
    obtain ⟨hdrop, hrest⟩ := List.append_eq_nil_iff.mp hnil
    rcases hend with hend | ⟨c, hc, hend⟩
    · exact hend hrest
    · exact absurd (List.dropWhile_eq_nil_iff.mp hdrop c hc) (by rw [hend]; exact Bool.noConfusion)
  obtain ⟨c, rest, hcons⟩ := List.exists_cons_of_ne_nil hbehind
  rw [r.run_received h, if_neg hne]
  simp only
  rw [lineEnd_append hend]
  simp only [Outcome.ok_bind]
  rw [hsplit, hcons]
  exact publish_text nul_not_mem_takeWhile c

/-- The array is full and the answer goes on to its end. -/
theorem run_overrun (h : r.readBytes = 256) (hne : behindEcho r.received ≠ [])
    (hall : ∀ c ∈ behindEcho r.received, isText c = true) : r.run = .error .outOfBounds := by
  have hnil : r.syncBuf.drop r.readBytes.toNat = [] :=
    List.drop_eq_nil_of_le (by rw [r.length_syncBuf, h]; decide)
  rw [r.run_received (by omega), if_neg hne, hnil, List.append_nil]
  simp only
  rw [lineEnd_full hall]
  rfl

/-- What a run comes to, where it stays inside the array. -/
def outcome (r : SyncRead) : Exit :=
  if r.readBytes ≤ 0 then ⟨3, none⟩
  else if behindEcho r.received = [] then ⟨2, none⟩
  else ⟨0, some (chopped (answer r.received))⟩

theorem run_of_bounded (hb : r.Bounded) : r.run = .ok r.outcome := by
  unfold outcome
  split
  · next h =>
    have h0 : r.readBytes = 0 := by
      have := r.bounds
      have := hb.1
      omega
    rw [run_eq, if_neg (not_not.mpr h0)]
  · next h =>
    split
    · next hnil => rw [r.run_received (by omega), if_pos hnil]
    · next hne => exact run_published (by omega) hb hne

variable (r)

theorem reports_iff_bounded : r.Reports ↔ r.Bounded := by
  constructor
  · rintro ⟨e, he, -, hout⟩
    constructor
    · intro hfailed
      rw [if_pos (.inl (by omega))] at hout
      exact hout.1 (code_of_failed hfailed he)
    · intro hfull
      by_contra hno
      obtain ⟨hne, hall⟩ := not_or.mp hno
      have herr := run_overrun hfull hne fun c hc => by
        by_contra hc'
        exact hall ⟨c, hc, Bool.eq_false_of_not_eq_true hc'⟩
      cases he.symm.trans herr
  · intro hb
    refine ⟨r.outcome, run_of_bounded hb, ?_, ?_⟩
    · intro r' hn hreceived
      have hb' : r'.Bounded := by
        rw [Bounded, hn, hreceived]
        exact hb
      rw [run_of_bounded hb', outcome, outcome, hn, hreceived]
    · unfold outcome
      by_cases h : r.readBytes ≤ 0
      · rw [if_pos (.inl h), if_pos h]
        exact ⟨by decide, rfl⟩
      · by_cases hnil : behindEcho r.received = []
        · rw [if_pos (.inr hnil), if_neg h, if_pos hnil]
          exact ⟨by decide, rfl⟩
        · rw [if_neg (not_or.mpr ⟨h, hnil⟩), if_neg h, if_neg hnil]

/-- A read that has failed over an array of line feeds. -/
def failed : SyncRead where
  fd := 3
  opened := by decide
  syncBuf := List.replicate 256 lf
  length_syncBuf := List.length_replicate
  readBytes := -1
  bounds := by decide

/-- It sets the property to nothing. -/
theorem failed_publishes : failed.run = .ok ⟨0, some []⟩ ∧ ¬ failed.Reports := by
  have hrun : failed.run = .ok ⟨0, some []⟩ := by decide +kernel
  refine ⟨hrun, ?_⟩
  rintro ⟨e, he, -, hout⟩
  cases hrun.symm.trans he
  rw [if_pos (.inl (by decide))] at hout
  exact hout.1 rfl

end

end SyncRead

end P970.Bbversion
