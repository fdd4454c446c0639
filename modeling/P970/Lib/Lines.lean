import Mathlib.Data.List.Basic
import Mathlib.Tactic.Common

/-!
# Lines and words

A text is cut into lines, and a line at its blanks into words. In a makefile a line
that ends in a backslash goes on in the next one (`logical`). The words of a line
that goes on over several are the words of all of them (`logical_block`).
-/

namespace P970

abbrev Line := List Char

namespace Lines

/-- What a shell cuts at. -/
def isBlank (c : Char) : Bool := c == ' ' || c == '\t' || c == '\n'

def words (text : List Char) : List (List Char) := (text.splitOnP isBlank).filter (· ≠ [])

/-- The lines of a text; what is behind the last end of a line is one when there is something. -/
def lines (text : List Char) : List Line :=
  let pieces := text.splitOnP (· == '\n')
  pieces.dropLast ++ (pieces.getLast?.toList.filter (· ≠ []))

/-- Lines put together: a blank stands for the backslash and the end of the line. -/
def logical : List Line → List Line
  | [] => []
  | l :: ls =>
    if l.getLast? = some '\\' then
      match logical ls with
      | [] => [l.dropLast]
      | x :: xs => (l.dropLast ++ ' ' :: x) :: xs
    else l :: logical ls

/-! ## Words -/

theorem words_append {c : Char} (h : isBlank c = true) (x y : List Char) :
    words (x ++ c :: y) = words x ++ words y := by
  rw [words, List.splitOnP_append_cons x y h, List.filter_append]
  rfl

theorem words_single {w : List Char} (hne : w ≠ []) (h : ∀ c ∈ w, isBlank c = false) :
    words w = [w] := by
  rw [words, List.splitOnP_eq_singleton h]
  simp [hne]

theorem mem_words {text w : List Char} (h : w ∈ words text) :
    w ≠ [] ∧ ∀ c ∈ w, isBlank c = false := by
  obtain ⟨hw, hne⟩ := List.mem_filter.mp h
  refine ⟨of_decide_eq_true hne, ?_⟩
  clear h hne
  induction text generalizing w with
  | nil =>
    rw [List.splitOnP_nil, List.mem_singleton] at hw
    rw [hw]
    exact fun c hc => absurd hc List.not_mem_nil
  | cons d text ih =>
    rw [List.splitOnP_cons_eq_if_modifyHead] at hw
    by_cases hd : isBlank d = true
    · rw [if_pos hd] at hw
      rcases List.mem_cons.mp hw with rfl | hw
      · exact fun c hc => absurd hc List.not_mem_nil
      · exact ih hw
    · rw [if_neg hd] at hw
      cases hs : text.splitOnP isBlank with
      | nil => rw [hs] at hw; cases hw
      | cons v vs =>
        rw [hs, List.modifyHead_cons] at hw
        rcases List.mem_cons.mp hw with rfl | hw
        · intro c hc
          rcases List.mem_cons.mp hc with rfl | hc
          · exact Bool.eq_false_iff.mpr hd
          · exact ih (hs ▸ List.mem_cons_self) c hc
        · exact ih (hs ▸ List.mem_cons_of_mem v hw)

/-! ## Lines that go on -/

theorem logical_plain {ls : List Line} (h : ∀ l ∈ ls, l.getLast? ≠ some '\\') : logical ls = ls := by
  induction ls with
  | nil => rfl
  | cons l ls ih =>
    rw [logical, if_neg (h l List.mem_cons_self), ih fun m hm => h m (List.mem_cons_of_mem l hm)]

theorem logical_goesOn (x : Line) (ls : List Line) : logical ((x ++ ['\\']) :: ls) =
    match logical ls with
    | [] => [x]
    | y :: ys => (x ++ ' ' :: y) :: ys := by
  rw [logical, if_pos List.getLast?_concat, List.dropLast_concat]

/-- A line that goes on over the lines `es` takes in the one behind them. -/
theorem logical_block (x : Line) (es : List Line) {ls : List Line}
    (h : ∀ l ∈ ls, l.getLast? ≠ some '\\') :
    ∃ l, logical ((x ++ ['\\']) :: (es.map (· ++ [' ', '\\']) ++ ls)) = l :: ls.tail ∧
      words l = words x ++ (es ++ ls.take 1).flatMap words := by
  induction es generalizing x with
  | nil =>
    rw [List.map_nil, List.nil_append, List.nil_append, logical_goesOn, logical_plain h]
    cases ls with
    | nil => exact ⟨x, rfl, (List.append_nil _).symm⟩
    | cons l ls =>
      refine ⟨x ++ ' ' :: l, rfl, ?_⟩
      rw [words_append rfl]
      simp
  | cons e es ih =>
    obtain ⟨l, hl, hw⟩ := ih (e ++ [' '])
    have he : e ++ [' ', '\\'] = e ++ [' '] ++ ['\\'] := (List.append_assoc e [' '] ['\\']).symm
    refine ⟨x ++ ' ' :: l, ?_, ?_⟩
    · rw [List.map_cons, List.cons_append, he, logical_goesOn, hl]
    · rw [words_append rfl, hw, words_append rfl]
      simp [words]

end Lines

end P970
