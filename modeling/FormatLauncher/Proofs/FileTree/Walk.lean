/-
# The same path from two directories

A relative path first rises over its leading double dots and then falls.  Rising from an open
directory depends on nothing but the directory, so what a path names is decided by the place where
the fall begins.  If the fall goes straight down and meets no link, then where it ends says where it
began.
-/

import FormatLauncher.Proofs.FileTree.Shape
import FormatLauncher.Proofs.Path

namespace FormatLauncher

namespace Path

/-- The number of double dots at the start of a path. -/
def rise (p : Path) : Nat := (p.names.takeWhile (· = "..")).length

/-- The names after the double dots at the start. -/
def fall (p : Path) : List String := p.names.dropWhile (· = "..")

/-- The place where the fall of a path begins, from a directory. -/
def base (p : Path) (directory : Location) : Location :=
  if p.isAbsolute then [] else directory.take (directory.length - p.rise)

/-- A path is its double dots and its fall. -/
theorem names_eq (p : Path) : p.names = List.replicate p.rise ".." ++ p.fall := by
  have hdots : p.names.takeWhile (· = "..") = List.replicate p.rise ".." :=
    List.eq_replicate_of_mem fun name h => by
      simpa using List.all_eq_true.mp List.all_takeWhile name h
  rw [← hdots, fall, List.takeWhile_append_dropWhile]

end Path

namespace FileTree

/-- No link is met on the way down some names. -/
def FreeOfLinks (tree : FileTree) (here : Location) (names : List String) : Prop :=
  ∀ n target, tree.entryAt? (here ++ names.take n) ≠ some (.link target)

/-- Where there are no links none is met. -/
theorem freeOfLinks_of_linkCount {tree : FileTree} (h : tree.linkCount = 0) (here : Location)
    (names : List String) : tree.FreeOfLinks here names := by
  intro n target hentry
  unfold entryAt? at hentry
  split at hentry
  · simp at hentry
  · obtain ⟨before, after, hentries, -⟩ := List.lookup_eq_some_iff.mp hentry
    rw [linkCount, hentries, List.countP_append, List.countP_cons_of_pos (by simp)] at h
    omega

/-- What a walk down some names finds. -/
def findBelow? (tree : FileTree) (here : Location) (names : List String) :
    Option (Location × Entry) :=
  match tree.walkFrom true linkBudget here names with
  | .error _ => none
  | .ok place => (tree.entryAt? place).map fun e => (place, e)

/-- One step of a walk is the same with and without links to follow. -/
theorem walkFrom_eq_walkNames (tree : FileTree) (followLast : Bool) (budget : Nat) :
    ∃ jump, tree.walkFrom followLast budget = tree.walkNames followLast jump := by
  cases budget with
  | zero => exact ⟨_, rfl⟩
  | succ budget => exact ⟨_, rfl⟩

variable {tree : FileTree}

/-- Walking a single dot in an open directory stays there. -/
theorem walkFrom_dot {here : Location} (hopen : tree.IsOpen here) (followLast : Bool)
    (budget : Nat) : tree.walkFrom followLast budget here ["."] = .ok here := by
  obtain ⟨jump, hjump⟩ := walkFrom_eq_walkNames tree followLast budget
  rw [hjump]
  simp [walkNames, hopen.entryAt?_eq]

/-- Double dots lead up from an open directory. -/
theorem walkFrom_dots {here : Location} (hopen : tree.IsOpen here) (followLast : Bool)
    (budget n : Nat) (names : List String) :
    tree.walkFrom followLast budget here (List.replicate n ".." ++ names) =
      tree.walkFrom followLast budget (here.take (here.length - n)) names := by
  induction n generalizing here with
  | zero => simp
  | succ n ih =>
      have hup := ih hopen.dropLast
      rw [List.dropLast_eq_take, List.take_take, List.length_take] at hup
      obtain ⟨jump, hjump⟩ := walkFrom_eq_walkNames tree followLast budget
      rw [hjump] at hup ⊢
      rw [List.replicate_succ, List.cons_append, walkNames, hopen.entryAt?_eq]
      simp only [show (".." : String) ≠ "." by decide, if_false, if_true]
      rw [List.dropLast_eq_take, hup]
      congr 2
      omega

/-- A walk down plain names that meets no link ends where the names lead. -/
theorem eq_append_of_walkFrom {followLast : Bool} {budget : Nat} {here place : Location}
    {names : List String} (hnames : ∀ name ∈ names, name ≠ "." ∧ name ≠ "..")
    (hfree : tree.FreeOfLinks here names)
    (hwalk : tree.walkFrom followLast budget here names = .ok place) : place = here ++ names := by
  obtain ⟨jump, hjump⟩ := walkFrom_eq_walkNames tree followLast budget
  rw [hjump] at hwalk
  fun_induction walkNames tree followLast jump here names with
  | case1 here => simpa using hwalk.symm
  | case2 => simp at hwalk
  | case3 here rest hdirectory ih => exact absurd rfl (hnames "." List.mem_cons_self).1
  | case4 here rest hdirectory hdot ih => exact absurd rfl (hnames ".." List.mem_cons_self).2
  | case5 => simp at hwalk
  | case6 => simp at hwalk
  | case7 here name rest hdirectory hdot hup hlong target hnext hlast =>
      exact absurd hnext (by simpa using hfree 1 target)
  | case8 here name rest hdirectory hdot hup hlong target hnext hlast =>
      exact absurd hnext (by simpa using hfree 1 target)
  | case9 here name rest hdirectory hdot hup hlong e hlink hnext ih =>
      rw [ih (fun name h => hnames name (List.mem_cons_of_mem _ h)) ?_ hwalk]
      · simp
      · intro n target
        simpa using hfree (n + 1) target
  | case10 => simp at hwalk

/-- What is found down plain names without a link stands where the names lead. -/
theorem eq_append_of_findBelow? {here : Location} {names : List String}
    {found : Location × Entry} (hnames : ∀ name ∈ names, name ≠ "." ∧ name ≠ "..")
    (hfree : tree.FreeOfLinks here names) (hfound : tree.findBelow? here names = some found) :
    found.1 = here ++ names := by
  unfold findBelow? at hfound
  split at hfound
  · simp at hfound
  · next place hwalk =>
      obtain ⟨e, -, rfl⟩ := Option.map_eq_some_iff.mp hfound
      exact eq_append_of_walkFrom hnames hfree hwalk

section Text

variable {p : Path} {directory other : Location}
  (hnames : ∀ name ∈ p.names, Path.IsName name)

include hnames in
/-- The walk of a path's text is the walk down its fall. -/
theorem walkFrom_text (hopen : tree.IsOpen directory) (followLast : Bool) (budget : Nat) :
    tree.walkFrom followLast budget (startOf directory p.text) (steps p.text) =
      tree.walkFrom followLast budget (p.base directory) p.fall := by
  have hstart : startOf directory p.text = if p.isAbsolute then [] else directory := by
    rw [startOf, Path.isAbsolute_parse_text hnames]
  have hbase : p.base directory =
      (startOf directory p.text).take ((startOf directory p.text).length - p.rise) := by
    rw [hstart, Path.base]
    split <;> simp
  have hwalk := walkFrom_dots (hopen.startOf p.text) followLast budget p.rise p.fall
  rw [← hbase, ← Path.names_eq] at hwalk
  rw [Path.steps_text hnames, ← hwalk]
  split
  · next hempty =>
      obtain ⟨jump, hjump⟩ := walkFrom_eq_walkNames tree followLast budget
      rw [walkFrom_dot (hopen.startOf p.text), hempty, hjump, walkNames]
  · rfl

include hnames in
/-- What the text of a path names is found below the place where its fall begins. -/
theorem find?_text (hopen : tree.IsOpen directory) :
    tree.find? directory p.text =
      if Spelling.hasNul p.text ∨ spellingLimit < p.text.utf8ByteSize then none
      else tree.findBelow? (p.base directory) p.fall := by
  unfold find? find walk
  rw [walkFrom_text hnames hopen]
  by_cases hnul : Spelling.hasNul p.text = true
  · simp [hnul]
  · by_cases hlong : spellingLimit < p.text.utf8ByteSize
    · simp [hnul, hlong, p.text_ne_empty, Except.toOption]
    · simp only [hnul, hlong, p.text_ne_empty, Bool.false_eq_true, or_self, if_false, findBelow?]
      cases tree.walkFrom true linkBudget (p.base directory) p.fall with
      | error fault => rfl
      | ok place =>
          dsimp only
          cases tree.entryAt? place <;> rfl

include hnames in
/-- A path names the same from two directories from which its fall begins at one place. -/
theorem find?_text_congr (hopen : tree.IsOpen directory) (hother : tree.IsOpen other)
    (hbase : p.base other = p.base directory) :
    tree.find? other p.text = tree.find? directory p.text := by
  rw [find?_text hnames hopen, find?_text hnames hother, hbase]

include hnames in
/-- A path that falls straight down, meets no link and names something names the same from another
directory exactly if its fall begins at the same place. -/
theorem find?_text_eq_iff (hopen : tree.IsOpen directory) (hother : tree.IsOpen other)
    (hfall : ".." ∉ p.fall) (hfree : tree.FreeOfLinks (p.base directory) p.fall)
    (hfree' : tree.FreeOfLinks (p.base other) p.fall)
    (hfound : (tree.find? directory p.text).isSome = true) :
    tree.find? other p.text = tree.find? directory p.text ↔
      p.base other = p.base directory := by
  refine ⟨?_, find?_text_congr hnames hopen hother⟩
  intro hsame
  obtain ⟨found, hfound⟩ := Option.isSome_iff_exists.mp hfound
  have hplain : ∀ name ∈ p.fall, name ≠ "." ∧ name ≠ ".." := by
    intro name hname
    have hmem : name ∈ p.names := by
      rw [p.names_eq]
      exact List.mem_append_right _ hname
    exact ⟨(hnames name hmem).2.1, fun hdots => hfall (hdots ▸ hname)⟩
  have hbelow : ∀ {start}, tree.IsOpen start → tree.FreeOfLinks (p.base start) p.fall →
      tree.find? start p.text = some found → found.1 = p.base start ++ p.fall := by
    intro start hstart hfree hnamed
    rw [find?_text hnames hstart] at hnamed
    split at hnamed
    · simp at hnamed
    · exact eq_append_of_findBelow? hplain hfree hnamed
  refine (List.append_left_inj p.fall).mp ?_
  rw [← hbelow hopen hfree hfound, ← hbelow hother hfree' (hsame.trans hfound)]

end Text

end FileTree

end FormatLauncher
