import P970.Lib.Cells
import P970.Recovery.Graphics

/-!
# From `gr_init` to `gr_exit`

The files, the blocks and the mapping `gr_init` takes and `gr_exit` gives back. A
session is a `gr_init` and, when it succeeds, a `gr_exit`; `gr_init` calls
`gr_exit` itself when it fails. No file stays open, but `gr_exit` frees the
surface without forgetting it, so a `gr_init` that fails after an earlier session
frees it again, and no session gives back its font or its mapping
(`sessions_leave`).
-/

namespace P970.Recovery

/-- The pointers: `gr_font`, `gr_font->texture.data`, `gr_mem_surface.data`. -/
inductive Block where
  | font
  | fontBits
  | memSurface
  deriving DecidableEq, Repr

/-- `gr_vt_fd`, `gr_fb_fd` and the `fd` of `get_framebuffer`; null is -1. -/
inductive Fd where
  | vt
  | fb
  | fd
  deriving DecidableEq, Repr

structure Display where
  mem : Cells Block
  fds : Cells Fd
  mappings : Nat

def Display.start : Display := ⟨.empty, .empty, 0⟩

/-- `/dev/tty0`: it does not open, or `KDSETMODE` fails, or neither. -/
inductive Terminal where
  | closed
  | refuses
  | ok
  deriving DecidableEq, Repr

/-- `/dev/graphics/fb0`: the first call of `get_framebuffer` that fails, if one does. -/
inductive Framebuffer where
  | closed
  | fix
  | var
  | mmap
  | ok
  deriving DecidableEq, Repr

structure Attempt where
  vt : Terminal
  fb : Framebuffer
  deriving DecidableEq, Repr

/-- `close(k); k = -1;` -/
def closeFd (k : Fd) (c : Cells Fd) : Cells Fd := (c.free k).forget (· = k)

/-- The files of `get_framebuffer`, and whether it succeeds. -/
def openFramebuffer (fb : Framebuffer) (c : Cells Fd) : Bool × Cells Fd :=
  match fb with
  | .closed => (false, c)
  | .ok => (true, c.malloc .fd true)
  | _ => (false, closeFd .fd (c.malloc .fd true))

namespace Display

variable (d : Display)

def grExit : Display :=
  { d with
    fds := closeFd .vt (closeFd .fb d.fds)
    mem := d.mem.free .memSurface }

/-- `gr_init_font`. -/
def initFont : Display := { d with mem := (d.mem.malloc .font true).malloc .fontBits true }

/-- `gr_init` behind the terminal: `gr_fb_fd = get_framebuffer(…)`. -/
def initFramebuffer (fb : Framebuffer) : Bool × Display :=
  let r := openFramebuffer fb d.fds
  let d := { d with fds := r.2.move .fd .fb }
  if r.1 then (true, { d with mem := d.mem.malloc .memSurface true, mappings := d.mappings + 1 })
  else (false, d.grExit)

/-- `gr_init`, and whether it succeeds. -/
def grInit (a : Attempt) : Bool × Display :=
  let d := d.initFont
  match a.vt with
  | .closed => { d with fds := d.fds.malloc .vt false }.initFramebuffer a.fb
  | .refuses => (false, { d with fds := d.fds.malloc .vt true }.grExit)
  | .ok => { d with fds := d.fds.malloc .vt true }.initFramebuffer a.fb

/-- `gr_init`, and `gr_exit` when it has succeeded. -/
def session (a : Attempt) : Display :=
  let r := d.grInit a
  if r.1 then r.2.grExit else r.2

def sessions (as : List Attempt) : Display := as.foldl Display.session d

end Display

/-- `gr_init` succeeds. -/
def Attempt.succeeds (a : Attempt) : Bool := a.vt ≠ .refuses && a.fb = .ok

/-! ## Files -/

/-- No file is open, and none was closed twice. -/
structure Closed (c : Cells Fd) : Prop where
  owns : c.Owns ∅
  null : ∀ k, c.ptr k = none

section
variable {c : Cells Fd}

theorem owns_closeFd (h : c.Owns ∅) (k : Fd) : (closeFd k c).Owns ∅ :=
  h.destroy (l := [k]) (List.nodup_singleton k)
    (fun _ hj => decide_eq_true (List.mem_singleton.mp hj))
    fun _ hj => .inl (List.mem_singleton.mpr (of_decide_eq_true hj))

theorem ptr_closeFd (k j : Fd) : (closeFd k c).ptr j = if j = k then none else c.ptr j := by
  rw [closeFd, Cells.ptr_forget, Cells.ptr_free]
  simp only [decide_eq_true_eq]

/-- `gr_exit` closes what may be open. -/
theorem closed_exit (h : c.Owns ∅) (hfd : c.ptr .fd = none) :
    Closed (closeFd .vt (closeFd .fb c)) where
  owns := owns_closeFd (owns_closeFd h .fb) .vt
  null k := by
    rw [ptr_closeFd, ptr_closeFd]
    cases k <;> simp [hfd]

/-- `gr_fb_fd` takes over what `get_framebuffer` has left open. -/
theorem owns_framebuffer (h : c.Owns ∅) (hfd : c.ptr .fd = none) (hfb : c.ptr .fb = none)
    (fb : Framebuffer) : ((openFramebuffer fb c).2.move .fd .fb).Owns ∅ ∧
      ((openFramebuffer fb c).2.move .fd .fb).ptr .fd = none := by
  have hopen : (openFramebuffer fb c).2.Owns ∅ ∧ (openFramebuffer fb c).2.ptr .fb = none := by
    have hm := h.malloc_new hfd true
    have hmb : (c.malloc .fd true).ptr .fb = none := by
      rw [Cells.ptr_malloc, if_neg (by decide), hfb]
    have hc : (closeFd .fd (c.malloc .fd true)).ptr .fb = none := by
      rw [ptr_closeFd, if_neg (by simp), hmb]
    cases fb with
    | closed => exact ⟨h, hfb⟩
    | ok => exact ⟨hm, hmb⟩
    | fix | var | mmap => exact ⟨owns_closeFd hm .fd, hc⟩
  have hmove := hopen.1.move (k := .fd) (fun hd => hd) (.inr hopen.2) (by decide)
  refine ⟨hmove.of_null (fun _ hj => hj.1.elim) fun _ hj => hj.elim, ?_⟩
  rw [Cells.ptr_move, if_pos rfl]

end

/-! ## Sessions -/

section
variable (d : Display) (a : Attempt)

theorem closed_session (h : Closed d.fds) : Closed (d.session a).fds := by
  -- whatever the terminal does, `get_framebuffer` finds the two other files closed
  have hvt : ∀ ok, (d.fds.malloc .vt ok).Owns ∅ ∧ (d.fds.malloc .vt ok).ptr .fd = none ∧
      (d.fds.malloc .vt ok).ptr .fb = none := by
    intro ok
    refine ⟨h.owns.malloc_new (h.null .vt) ok, ?_, ?_⟩
    · rw [Cells.ptr_malloc, if_neg (by decide), h.null]
    · rw [Cells.ptr_malloc, if_neg (by decide), h.null]
  have hfb : ∀ (e : Display) (fb : Framebuffer), e.fds.Owns ∅ → e.fds.ptr .fd = none →
      e.fds.ptr .fb = none → Closed ((if (e.initFramebuffer fb).1 then
        (e.initFramebuffer fb).2.grExit else (e.initFramebuffer fb).2).fds) := by
    intro e fb hown hfd hfb
    obtain ⟨hmove, hnull⟩ := owns_framebuffer hown hfd hfb fb
    cases fb <;> exact closed_exit hmove hnull
  obtain ⟨vt, fb⟩ := a
  cases vt with
  | closed => exact hfb _ fb (hvt false).1 (hvt false).2.1 (hvt false).2.2
  | refuses => exact closed_exit (hvt true).1 (hvt true).2.1
  | ok => exact hfb _ fb (hvt true).1 (hvt true).2.1 (hvt true).2.2

/-- The blocks of a session: the surface is freed at its end, taken in it or not. -/
theorem mem_session : (d.session a).mem =
    (if a.succeeds then d.initFont.mem.malloc .memSurface true else d.initFont.mem).free
      .memSurface := by
  obtain ⟨vt, fb⟩ := a
  cases vt <;> cases fb <;> rfl

theorem mappings_session :
    (d.session a).mappings = d.mappings + if a.succeeds then 1 else 0 := by
  obtain ⟨vt, fb⟩ := a
  cases vt <;> cases fb <;> rfl

end

/-- `gr_mem_surface.data` after sessions: null, or freed once one of them has succeeded. -/
def Hangs (succeeded : Bool) (c : Cells Block) : Prop :=
  if succeeded then ∃ n, c.ptr .memSurface = some n ∧ c.ledger.live n = false ∧ n < c.ledger.next
  else c.ptr .memSurface = none

section
variable {d : Display}

/-- A session leaves two blocks more, and frees the surface once too often when it fails after one
that has succeeded. -/
theorem hangs_session {succeeded : Bool} (h : Hangs succeeded d.mem) (a : Attempt) :
    Hangs (succeeded || a.succeeds) (d.session a).mem ∧
    (d.session a).mem.ledger.count = d.mem.ledger.count + 2 ∧
    (d.session a).mem.faults.length =
      d.mem.faults.length + if succeeded && !a.succeeds then 1 else 0 := by
  have hfont : d.initFont.mem.ledger = d.mem.ledger.alloc.alloc := rfl
  have hfaults : d.initFont.mem.faults = d.mem.faults := rfl
  have hptr : d.initFont.mem.ptr .memSurface = d.mem.ptr .memSurface := rfl
  have hcount : d.initFont.mem.ledger.count = d.mem.ledger.count + 2 := by
    rw [hfont, Ledger.count_alloc, Ledger.count_alloc]
  rw [mem_session]
  generalize d.initFont.mem = c at hfont hfaults hptr hcount ⊢
  cases ha : a.succeeds with
  | true =>
    have hp : (c.malloc .memSurface true).ptr .memSurface = some c.ledger.next := by
      rw [Cells.ptr_malloc, if_pos rfl, if_pos rfl]
    have hledger : (c.malloc .memSurface true).ledger = c.ledger.alloc := rfl
    have hl : c.ledger.alloc.live c.ledger.next = true := by
      rw [Ledger.live_alloc, if_pos rfl]
    have hfree : (c.malloc .memSurface true).free .memSurface = { c.malloc .memSurface true with
        ledger := c.ledger.alloc.free c.ledger.next } := by
      rw [Cells.free, hp]
      exact if_pos hl
    have hc := c.ledger.alloc.count_free hl
    rw [Ledger.count_alloc] at hc
    simp only [if_true, Bool.or_true, Bool.not_true, Bool.and_false, Bool.false_eq_true, if_false]
    rw [hfree]
    refine ⟨⟨c.ledger.next, hp, ?_, Nat.lt_succ_self _⟩, (Nat.succ.inj hc).trans hcount, ?_⟩
    · rw [Ledger.live_free, if_pos rfl]
    · exact congrArg List.length hfaults
  | false =>
    simp only [Bool.false_eq_true, if_false, Bool.or_false, Bool.not_false, Bool.and_true]
    cases succeeded with
    | false =>
      have hn : c.ptr .memSurface = none := hptr.trans h
      have hfree : c.free .memSurface = c := by
        rw [Cells.free, hn]
      rw [hfree]
      exact ⟨hn, hcount, congrArg List.length hfaults⟩
    | true =>
      obtain ⟨n, hn, hdead, hlt⟩ := h
      have hl : c.ledger.live n = false := by
        rw [hfont, Ledger.live_alloc, Ledger.live_alloc, if_neg, if_neg, hdead]
        · omega
        · show n ≠ d.mem.ledger.next + 1
          omega
      have hfree : c.free .memSurface = { c with faults := n :: c.faults } := by
        rw [Cells.free, hptr.trans hn]
        exact if_neg (by rw [hl]; exact Bool.false_ne_true)
      rw [hfree]
      refine ⟨⟨n, hptr.trans hn, hl, ?_⟩, hcount, congrArg (List.length · + 1) hfaults⟩
      show n < c.ledger.next
      rw [hfont]
      show n < d.mem.ledger.next + 1 + 1
      omega

/-- What sessions leave, the first of them after one that has succeeded or not. -/
theorem hangs_sessions {succeeded : Bool} (hc : Closed d.fds) (h : Hangs succeeded d.mem)
    (as : List Attempt) : Closed (d.sessions as).fds ∧
      (d.sessions as).mappings = d.mappings + as.countP Attempt.succeeds ∧
      (d.sessions as).mem.ledger.count = d.mem.ledger.count + 2 * as.length ∧
      (d.sessions as).mem.faults.length = d.mem.faults.length +
        (if succeeded then as else as.dropWhile fun a => !a.succeeds).countP
          fun a => !a.succeeds := by
  induction as generalizing d succeeded with
  | nil => cases succeeded <;> exact ⟨hc, rfl, rfl, rfl⟩
  | cons a as ih =>
    obtain ⟨hhang, hcount, hfaults⟩ := hangs_session h a
    obtain ⟨h1, h2, h3, h4⟩ := ih (closed_session d a hc) hhang
    have hs : d.sessions (a :: as) = (d.session a).sessions as := rfl
    rw [hs]
    refine ⟨h1, ?_, ?_, ?_⟩
    · rw [h2, mappings_session, List.countP_cons]
      omega
    · rw [h3, hcount, List.length_cons]
      omega
    · rw [h4, hfaults]
      cases succeeded with
      | false => cases ha : a.succeeds <;> simp [ha]
      | true =>
        cases ha : a.succeeds with
        | false =>
          simp [ha]
          omega
        | true => simp [ha]

end

end P970.Recovery
