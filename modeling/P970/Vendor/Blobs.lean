import Mathlib.Data.List.TakeDrop
import P970.Lib.Lines
import P970.Lib.Writes

/-!
# The files taken off the phone

`extract-files.sh` pulls the files that `proprietary-files.txt` lists off a phone,
and `setup-makefiles.sh` writes the makefile that copies them into the image. The
second script counts the lines of the list to know its last entry, but takes the
words of them one by one: a makefile has as many entries as there are lines, so
that it has all of them exactly when no more words than lines are listed
(`copyFiles_makefile`). `adb pull` and the copying of the build are given from
outside (`Tools`); where they copy what they are told to, an entry puts a file
where it was taken from (`restored_listed`).
-/

namespace P970.Vendor

open Lines

abbrev Path := List Char

/-- The files that are there. -/
abbrev Tree (α : Type) := Path → Option α

def device : Path := "vendor/lge/p970".toList

def base : Path := device ++ "/proprietary".toList

/-! ## The list -/

/-- `grep -v ^# | grep -v ^$`. -/
def selected (list : List Char) : List Line :=
  (lines list).filter fun l => l.head? ≠ some '#' ∧ l ≠ []

/-- The words the shell makes of it. -/
def listed (list : List Char) : List Path := (selected list).flatMap words

/-- `wc -l`. -/
def count (list : List Char) : Int := (selected list).length

/-! ## The tools -/

/-- A source and a destination, as an entry of `PRODUCT_COPY_FILES` has them. -/
def copy (c : Path × Path) : List Char := c.1 ++ ':' :: c.2

/-- What the scripts and the build get by with. -/
structure Tools (α : Type) where
  /-- `adb pull` of a file of a phone to a path of a tree. -/
  pull : Tree α → Path → Path → Tree α → Tree α
  /-- The entries that do not stop the build. -/
  accepts : List Char → Prop
  /-- What the entries have the build put into the image. -/
  install : List (List Char) → Tree α → Tree α

namespace Tools

variable {α : Type} (T : Tools α)

/-- Entries that the build can follow in any order: it accepts them, their sources are there, and no
two have one destination. -/
structure Takes (copies : List (Path × Path)) (tree : Tree α) : Prop where
  accepted : ∀ c ∈ copies, T.accepts (copy c)
  cut : ∀ c ∈ copies, ':' ∉ c.1 ∧ ':' ∉ c.2
  there : ∀ c ∈ copies, (tree c.1).isSome
  single : ∀ c ∈ copies, ∀ d ∈ copies, c.2 = d.2 → c = d

/-- What is on the phone is pulled, and the build copies each source to its destination and nothing
else. -/
structure Lawful : Prop where
  pull : ∀ phone remote path tree x, phone remote = some x →
    T.pull phone remote path tree = Function.update tree path (some x)
  installed : ∀ copies tree, T.Takes copies tree → ∀ c ∈ copies,
    T.install (copies.map copy) tree c.2 = tree c.1
  nothingElse : ∀ copies tree, T.Takes copies tree → ∀ path ∉ copies.map Prod.snd,
    T.install (copies.map copy) tree path = none

end Tools

/-! ## `extract-files.sh` -/

def source (file : Path) : Path := base ++ '/' :: file

def onPhone (file : Path) : Path := "/system/".toList ++ file

/-- `rm -rf $BASE/*`, which leaves what begins with a dot. -/
def removed (path : Path) : Bool :=
  (base ++ ['/']).isPrefixOf path && path.length > base.length + 1 &&
    path[base.length + 1]? ≠ some '.'

/-- The tree after `adb pull` of each file. -/
def extractFiles {α : Type} (T : Tools α) (phone tree : Tree α) (list : List Char) : Tree α :=
  (listed list).foldl (fun tree file => T.pull phone (onPhone file) (source file) tree)
    fun path => if removed path then none else tree path

/-! ## `setup-makefiles.sh` -/

def entry (file : Path) : Line := source file ++ ':' :: "system/".toList ++ file

def indented (file : Path) (lineend : Line) : Line := "    ".toList ++ entry file ++ lineend

/-- The loop: `COUNT`, `LINEEND` and the files that are left. -/
def entries : Int → Line → List Path → List Line
  | _, _, [] => []
  | count, lineend, file :: files =>
    let count := count - 1
    let lineend := if count = 0 then [] else lineend
    indented file lineend :: entries count lineend files

def assignment : Line := "PRODUCT_COPY_FILES += ".toList

/-- The makefile behind its comment. -/
def makefile (list : List Char) : List Line :=
  (assignment ++ ['\\']) :: entries (count list) " \\".toList (listed list)

/-! ## The build -/

/-- What a line gives to the variable. -/
def value (l : Line) : List (List Char) :=
  match words l with
  | name :: op :: files =>
    if name = "PRODUCT_COPY_FILES".toList ∧ op = "+=".toList then files else []
  | _ => []

def copyFiles (mk : List Line) : List (List Char) := (logical mk).flatMap value

/-! ## What is copied -/

/-- A file without a character that the shell, `make` or the build takes for something else; some
versions of `make` cut words at a carriage return, a vertical tab and a form feed. -/
def Plain (file : Path) : Prop := ∀ c ∈ file, c ∉ "#\\$:*?[\r\x0b\x0c".toList

instance (file : Path) : Decidable (Plain file) := List.decidableBAll _ file

theorem entries_eq (files : List Path) (n : Nat) : entries (n + 1 : Nat) " \\".toList files =
    (files.take n).map (indented · " \\".toList) ++ (files.drop n).map (indented · []) := by
  have hrest : ∀ (count : Int) (files : List Path),
      entries count [] files = files.map (indented · []) := by
    intro count files
    induction files generalizing count with
    | nil => rfl
    | cons file files ih =>
      rw [entries, List.map_cons]
      simp only [ite_self]
      rw [ih]
  induction files generalizing n with
  | nil => simp [entries]
  | cons file files ih =>
    cases n with
    | zero =>
      rw [entries]
      simp [hrest]
    | succ n =>
      have hne : ((n + 1 + 1 : Nat) : Int) - 1 ≠ 0 := by omega
      have hpred : ((n + 1 + 1 : Nat) : Int) - 1 = (n + 1 : Nat) := by omega
      rw [entries]
      simp only [if_neg hne]
      rw [hpred, ih, List.take_succ_cons, List.drop_succ_cons, List.map_cons, List.cons_append]

section
variable {list : List Char} {file : Path}

theorem mem_listed (h : file ∈ listed list) : file ≠ [] ∧ ∀ c ∈ file, isBlank c = false := by
  obtain ⟨line, -, hw⟩ := List.mem_flatMap.mp h
  exact mem_words hw

theorem words_indented (h : file ∈ listed list) : words (indented file []) = [entry file] := by
  obtain ⟨-, hblank⟩ := mem_listed h
  have hbase : base.all (isBlank · = false) = true := by decide
  have hsystem : "system/".toList.all (isBlank · = false) = true := by decide
  have hentry : ∀ c ∈ entry file, isBlank c = false := by
    intro c hc
    simp only [entry, source, List.mem_append, List.mem_cons] at hc
    rcases hc with ((hc | rfl | hc) | rfl | hc) | hc
    · exact of_decide_eq_true (List.all_eq_true.mp hbase c hc)
    · rfl
    · exact hblank c hc
    · rfl
    · exact of_decide_eq_true (List.all_eq_true.mp hsystem c hc)
    · exact hblank c hc
  have hspace : indented file [] = "   ".toList ++ ' ' :: entry file := by
    rw [indented, List.append_nil]
    rfl
  rw [hspace, words_append rfl, words_single (by simp [entry, source]) hentry]
  rfl

theorem getLast?_indented (h : file ∈ listed list) (hp : Plain file) :
    (indented file []).getLast? ≠ some '\\' := by
  obtain ⟨hne, -⟩ := mem_listed h
  intro hlast
  have hfile : (indented file []).getLast? = file.getLast? := by
    rw [indented, List.append_nil, entry, ← List.append_assoc, List.getLast?_append_of_ne_nil _ hne]
  rw [hfile] at hlast
  exact hp _ (List.mem_of_getLast? hlast) (by decide)

end

/-- The makefile has an entry for as many of the files as lines of the list were taken. -/
theorem copyFiles_makefile {list : List Char} (h : ∀ file ∈ listed list, Plain file) :
    copyFiles (makefile list) = ((listed list).take (selected list).length).map entry := by
  cases hn : (selected list).length with
  | zero =>
    have hnone : listed list = [] := by
      rw [listed, List.length_eq_zero_iff.mp hn]
      rfl
    rw [makefile, hnone]
    rfl
  | succ n =>
    have hcount : count list = (n + 1 : Nat) := congrArg Nat.cast hn
    -- all lines but one go on, and the one behind them closes the variable
    have hlines : makefile list = (assignment ++ ['\\']) ::
        (((listed list).take n).map (indented · []) |>.map (· ++ [' ', '\\'])) ++
          ((listed list).drop n).map (indented · []) := by
      have hgoes : ∀ file, indented file " \\".toList = indented file [] ++ [' ', '\\'] := by
        intro file
        rw [indented, indented, List.append_nil]
        rfl
      rw [makefile, hcount, entries_eq, List.map_map]
      simp only [hgoes]
      rfl
    have hplain : ∀ l ∈ ((listed list).drop n).map (indented · []), l.getLast? ≠ some '\\' := by
      intro l hl
      obtain ⟨file, hf, rfl⟩ := List.mem_map.mp hl
      have hf := List.mem_of_mem_drop hf
      exact getLast?_indented hf (h file hf)
    have hwords : ∀ files ⊆ listed list,
        (files.map (indented · [])).flatMap words = files.map entry := by
      intro files hfiles
      rw [List.flatMap_map, ← List.flatMap_pure_eq_map]
      exact List.flatMap_congr fun file hf => words_indented (hfiles hf)
    obtain ⟨l, hl, hw⟩ := logical_block assignment (((listed list).take n).map (indented · []))
      hplain
    have hfirst : words l = "PRODUCT_COPY_FILES".toList :: "+=".toList ::
        ((listed list).take (n + 1)).map entry := by
      rw [hw, ← List.map_take, ← List.map_append, ← List.take_add, hwords _ (List.take_subset _ _)]
      rfl
    -- a line behind the variable has one word
    have hbehind : ∀ m ∈ (((listed list).drop n).map (indented · [])).tail, value m = [] := by
      intro m hm
      obtain ⟨file, hf, rfl⟩ := List.mem_map.mp (List.mem_of_mem_tail hm)
      rw [value, words_indented (List.mem_of_mem_drop hf)]
    have hvalue : value l = ((listed list).take (n + 1)).map entry := by
      rw [value, hfirst]
      exact if_pos ⟨rfl, rfl⟩
    rw [hlines, List.cons_append, copyFiles, hl, List.flatMap_cons, hvalue,
      List.flatMap_eq_nil_iff.mpr hbehind, List.append_nil]

/-- So the makefile has all files exactly when no more words than lines are listed. -/
theorem copyFiles_makefile_iff {list : List Char} (h : ∀ file ∈ listed list, Plain file) :
    copyFiles (makefile list) = (listed list).map entry ↔
      (listed list).length ≤ (selected list).length := by
  rw [copyFiles_makefile h, List.map_take, List.take_eq_self_iff, List.length_map]

/-- Two files on a line: the last one of all is lost. -/
theorem copyFiles_makefile_iff_twoOnALine :
    copyFiles (makefile "# lib\nlib/a.so lib/b.so\n\nlib/c.so\n".toList) ≠
      (listed "# lib\nlib/a.so lib/b.so\n\nlib/c.so\n".toList).map entry :=
  fun h => absurd ((copyFiles_makefile_iff (by decide)).mp h) (by decide)

/-! ## Back in place -/

/-- Where a file is put. -/
def onImage (file : Path) : Path := "system/".toList ++ file

theorem entry_eq (file : Path) : entry file = copy (source file, onImage file) := by
  have hassoc := List.append_assoc (source file) (':' :: "system/".toList) file
  exact hassoc

theorem source_injective : Function.Injective source := fun _ _ h =>
  (List.cons.inj (List.append_cancel_left h)).2

theorem onImage_injective : Function.Injective onImage := fun _ _ h => List.append_cancel_left h

theorem not_mem_colon {file : Path} (h : Plain file) : ':' ∉ source file ∧ ':' ∉ onImage file := by
  have hfile : ':' ∉ file := fun hc => h _ hc (by decide)
  have hbase : ':' ∉ base := by decide
  have hsystem : ':' ∉ "system/".toList := by decide
  constructor
  · intro hc
    rcases List.mem_append.mp hc with hc | hc
    · exact hbase hc
    · rcases List.mem_cons.mp hc with hc | hc
      · exact absurd hc (by decide)
      · exact hfile hc
  · exact fun hc => (List.mem_append.mp hc).elim hsystem hfile

section
variable {α : Type} {T : Tools α} {phone tree : Tree α} {list : List Char}

/-- Of files that are on the phone, each is pulled to where the makefile has it. -/
theorem foldl_pull (hT : T.Lawful) {files : List Path}
    (h : ∀ file ∈ files, (phone (onPhone file)).isSome) (tree : Tree α) :
    files.foldl (fun tree file => T.pull phone (onPhone file) (source file) tree) tree =
      fill source (fun file => phone (onPhone file)) tree files := by
  induction files generalizing tree with
  | nil => rfl
  | cons file files ih =>
    obtain ⟨x, hx⟩ := Option.isSome_iff_exists.mp (h file List.mem_cons_self)
    have hrest := ih fun f hf => h f (List.mem_cons_of_mem file hf)
    rw [List.foldl_cons, fill_cons, hrest, hT.pull phone _ _ tree x hx, hx]

theorem extractFiles_source (hT : T.Lawful)
    (hphone : ∀ file ∈ listed list, (phone (onPhone file)).isSome) {file : Path}
    (h : file ∈ listed list) : extractFiles T phone tree list (source file) = phone (onPhone file) := by
  obtain ⟨x, hx⟩ := Option.isSome_iff_exists.mp (hphone file h)
  rw [extractFiles, foldl_pull hT hphone, fill_apply _ _ _ source_injective, if_pos h, hx]
  rfl

/-- Off a phone that has all the listed files, each of the files that the makefile has is in the
image where it was on the phone, and nothing else is. -/
theorem restored_listed (hT : T.Lawful) (hplain : ∀ file ∈ listed list, Plain file)
    (haccepts : ∀ file ∈ listed list, T.accepts (entry file))
    (hphone : ∀ file ∈ listed list, (phone (onPhone file)).isSome) (path : Path) :
    T.install (copyFiles (makefile list)) (extractFiles T phone tree list) path =
      if path ∈ ((listed list).take (selected list).length).map onImage then phone ('/' :: path)
      else none := by
  obtain ⟨files, hfiles⟩ : ∃ files, files = (listed list).take (selected list).length := ⟨_, rfl⟩
  have hmem : ∀ file ∈ files, file ∈ listed list := fun file hf =>
    List.mem_of_mem_take (hfiles ▸ hf)
  have hcopies : copyFiles (makefile list) =
      (files.map fun file => (source file, onImage file)).map copy := by
    rw [copyFiles_makefile hplain, ← hfiles, List.map_map]
    exact List.map_congr_left fun file _ => entry_eq file
  have htakes : T.Takes (files.map fun file => (source file, onImage file))
      (extractFiles T phone tree list) := by
    constructor <;> simp only [List.forall_mem_map]
    · exact fun file hf => entry_eq file ▸ haccepts file (hmem file hf)
    · exact fun file hf => not_mem_colon (hplain file (hmem file hf))
    · intro file hf
      rw [extractFiles_source hT hphone (hmem file hf)]
      exact hphone file (hmem file hf)
    · intro file _ file' _ he
      rw [onImage_injective he]
  rw [hcopies, ← hfiles]
  by_cases h : path ∈ files.map onImage
  · obtain ⟨file, hf, rfl⟩ := List.mem_map.mp h
    have hinstalled := hT.installed _ _ htakes _ (List.mem_map_of_mem hf)
    rw [if_pos h, hinstalled]
    exact extractFiles_source hT hphone (hmem file hf)
  · rw [if_neg h]
    refine hT.nothingElse _ _ htakes path ?_
    rwa [List.map_map]

end

/-- A build that stops at a package, and that takes the first of the entries for a destination. -/
def firstEntries : Tools Nat where
  pull phone remote path tree :=
    (phone remote).elim tree fun x => Function.update tree path (some x)
  accepts entry := ¬ ".apk".toList <:+ entry
  install copies tree path :=
    (copies.find? fun c => (c.dropWhile (· ≠ ':')).tail = path).bind fun c =>
      tree (c.takeWhile (· ≠ ':'))

/-- An entry is cut at its colon. -/
theorem cut_copy {c : Path × Path} (h : ':' ∉ c.1) :
    (copy c).takeWhile (· ≠ ':') = c.1 ∧ ((copy c).dropWhile (· ≠ ':')).tail = c.2 := by
  have hsource : ∀ d ∈ c.1, decide (d ≠ ':') = true := by
    intro d hd
    refine decide_eq_true ?_
    rintro rfl
    exact h hd
  rw [copy, List.takeWhile_append_of_pos hsource, List.dropWhile_append_of_pos hsource]
  simp

theorem firstEntries_lawful : firstEntries.Lawful where
  pull phone remote path tree x hx := by
    simp only [firstEntries, hx, Option.elim_some]
  installed copies tree h c hc := by
    have hsome : ((copies.map copy).find? fun d => (d.dropWhile (· ≠ ':')).tail = c.2).isSome := by
      rw [List.find?_isSome]
      exact ⟨copy c, List.mem_map_of_mem hc, decide_eq_true (cut_copy (h.cut c hc).1).2⟩
    obtain ⟨x, hx⟩ := Option.isSome_iff_exists.mp hsome
    obtain ⟨d, hd, rfl⟩ := List.mem_map.mp (List.mem_of_find?_eq_some hx)
    have hdest := List.find?_some hx
    rw [decide_eq_true_eq, (cut_copy (h.cut d hd).1).2] at hdest
    obtain rfl := h.single d hd c hc hdest
    simp only [firstEntries, hx, Option.bind_some, (cut_copy (h.cut d hd).1).1]
  nothingElse copies tree h path hp := by
    have hnone : ((copies.map copy).find? fun d => (d.dropWhile (· ≠ ':')).tail = path) = none := by
      rw [List.find?_eq_none]
      intro x hx he
      obtain ⟨d, hd, rfl⟩ := List.mem_map.mp hx
      rw [decide_eq_true_eq, (cut_copy (h.cut d hd).1).2] at he
      exact hp (he ▸ List.mem_map_of_mem hd)
    simp only [firstEntries, hnone, Option.bind_none]

theorem restored_listed_one :
    firstEntries.install (copyFiles (makefile "lib/a.so\n".toList)) (extractFiles firstEntries
      (fun path => if path = "/system/lib/a.so".toList then some 1 else none) (fun _ => some 0)
      "lib/a.so\n".toList) "system/lib/a.so".toList = some 1 := by
  have haccepts : ∀ file ∈ listed "lib/a.so\n".toList, firstEntries.accepts (entry file) := by
    show ∀ file ∈ listed "lib/a.so\n".toList, ¬ ".apk".toList <:+ entry file
    decide
  rw [restored_listed firstEntries_lawful (by decide) haccepts (by decide)]
  decide

end P970.Vendor
