/-
# What contents of files do not change

Two trees have the same shape when they differ in nothing but the contents of regular files.
Finding what a path names looks at the shape only, so overwriting a file leaves every path where it
was.  A path that is followed from an open directory leads to a directory or to a file, never to a
link.
-/

import FormatLauncher.FileTree.Walk

namespace FormatLauncher

namespace Entry

@[simp]
theorem isRegular_withContents (e : Entry) (contents : Text.Bytes) :
    (e.withContents contents).isRegular = e.isRegular := by cases e <;> rfl

@[simp]
theorem isExecutable_withContents (e : Entry) (contents : Text.Bytes) :
    (e.withContents contents).isExecutable = e.isExecutable := by cases e <;> rfl

@[simp]
theorem isRunnable_withContents (e : Entry) (contents : Text.Bytes) :
    (e.withContents contents).isRunnable = e.isRunnable := by cases e <;> rfl

@[simp]
theorem isReadable_withContents (e : Entry) (contents : Text.Bytes) :
    (e.withContents contents).isReadable = e.isReadable := by cases e <;> rfl

@[simp]
theorem isWritable_withContents (e : Entry) (contents : Text.Bytes) :
    (e.withContents contents).isWritable = e.isWritable := by cases e <;> rfl

@[simp]
theorem withContents_withContents (e : Entry) (first second : Text.Bytes) :
    (e.withContents first).withContents second = e.withContents second := by cases e <;> rfl

end Entry

namespace FileTree

/-- The trees have the same entries but for the contents of regular files. -/
def SameShape (tree other : FileTree) : Prop :=
  ∀ place, (tree.entryAt? place).map (·.withContents []) =
    (other.entryAt? place).map (·.withContents [])

namespace SameShape

variable {tree other third : FileTree}

theorem refl (tree : FileTree) : tree.SameShape tree := fun _ => rfl

theorem symm (h : tree.SameShape other) : other.SameShape tree := fun place => (h place).symm

theorem trans (h : tree.SameShape other) (h' : other.SameShape third) : tree.SameShape third :=
  fun place => (h place).trans (h' place)

/-- At every place the trees have the same entry, or regular files of one mode. -/
theorem entryAt?_cases (h : tree.SameShape other) (place : Location) :
    other.entryAt? place = tree.entryAt? place ∨
      ∃ e e', tree.entryAt? place = some e ∧ other.entryAt? place = some e' ∧
        e.isRegular = true ∧ e'.isRegular = true ∧ e.withContents [] = e'.withContents [] := by
  have hplace := h place
  cases htree : tree.entryAt? place with
  | none =>
      left
      simpa [htree] using hplace.symm
  | some e =>
      rw [htree] at hplace
      cases hother : other.entryAt? place with
      | none => simp [hother] at hplace
      | some e' =>
          rw [hother] at hplace
          simp only [Option.map_some, Option.some.injEq] at hplace
          by_cases hsame : e' = e
          · exact .inl (by rw [hsame])
          · refine .inr ⟨e, e', rfl, rfl, ?_⟩
            cases e <;> cases e' <;> simp_all [Entry.withContents, Entry.isRegular]

/-- What is no regular file is the same in both trees. -/
theorem entryAt?_eq (h : tree.SameShape other) {place : Location}
    (hregular : ∀ e, tree.entryAt? place = some e → e.isRegular = false) :
    other.entryAt? place = tree.entryAt? place := by
  rcases h.entryAt?_cases place with hsame | ⟨e, _, he, _, hfile, _⟩
  · exact hsame
  · simp [hregular e he] at hfile

/-- Walks lead to the same places in both trees when the walks behind links do. -/
theorem walkNames_eq (h : tree.SameShape other) (followLast : Bool)
    {jump jump' : Location → List String → Except WalkFault Location}
    (hjump : ∀ here names, jump' here names = jump here names) (here : Location)
    (names : List String) :
    other.walkNames followLast jump' here names = tree.walkNames followLast jump here names := by
  -- The cases are those of one step of a walk; only an entry that is read has to be carried over.
  fun_induction walkNames tree followLast jump here names with
  | case1 here => rfl
  | case2 here name rest hhere =>
      rw [walkNames, h.entryAt?_eq (by simp [hhere]), hhere]
  | case3 here rest hhere ih =>
      rw [walkNames, h.entryAt?_eq (by simp [hhere, Entry.isRegular]), hhere]
      simpa using ih
  | case4 here rest hhere hdot ih =>
      rw [walkNames, h.entryAt?_eq (by simp [hhere, Entry.isRegular]), hhere]
      simpa using ih
  | case5 here name rest hhere hdot hup hlong =>
      rw [walkNames, h.entryAt?_eq (by simp [hhere, Entry.isRegular]), hhere]
      simp [hdot, hup, hlong]
  | case6 here name rest hhere hdot hup hlong hnext =>
      rw [walkNames, h.entryAt?_eq (by simp [hhere, Entry.isRegular]), hhere]
      simp only [hdot, hup, hlong, if_false]
      rw [h.entryAt?_eq (by simp [hnext]), hnext]
  | case7 here name rest hhere hdot hup hlong target hnext hlast =>
      rw [walkNames, h.entryAt?_eq (by simp [hhere, Entry.isRegular]), hhere]
      simp only [hdot, hup, hlong, if_false]
      rw [h.entryAt?_eq (by simp [hnext, Entry.isRegular]), hnext]
      simp [hlast]
  | case8 here name rest hhere hdot hup hlong target hnext hlast =>
      rw [walkNames, h.entryAt?_eq (by simp [hhere, Entry.isRegular]), hhere]
      simp only [hdot, hup, hlong, if_false]
      rw [h.entryAt?_eq (by simp [hnext, Entry.isRegular]), hnext]
      simp only [hlast, if_false, hjump]
  | case9 here name rest hhere hdot hup hlong e hlink hnext ih =>
      obtain ⟨e', hnext', hlink'⟩ : ∃ e', other.entryAt? (here ++ [name]) = some e' ∧
          ∀ target, e' ≠ .link target := by
        rcases h.entryAt?_cases (here ++ [name]) with hsame | ⟨_, e', _, he', _, hfile, _⟩
        · exact ⟨e, hsame.trans hnext, hlink⟩
        · exact ⟨e', he', fun target htarget => by simp [htarget, Entry.isRegular] at hfile⟩
      rw [walkNames, h.entryAt?_eq (by simp [hhere, Entry.isRegular]), hhere]
      cases e' with
      | link target => exact absurd rfl (hlink' target)
      | directory => simp [hdot, hup, hlong, hnext', ih]
      | file contents mode => simp [hdot, hup, hlong, hnext', ih]
      | program id mode => simp [hdot, hup, hlong, hnext', ih]
  | case10 here name rest e hdirectory hhere =>
      obtain ⟨e', hhere', hdirectory'⟩ : ∃ e', other.entryAt? here = some e' ∧ e' ≠ .directory := by
        rcases h.entryAt?_cases here with hsame | ⟨_, e', _, he', _, hfile, _⟩
        · exact ⟨e, hsame.trans hhere, hdirectory⟩
        · exact ⟨e', he', fun hsame => by simp [hsame, Entry.isRegular] at hfile⟩
      rw [walkNames, hhere']
      cases e' <;> simp_all

/-- Walks lead to the same places in both trees, and fail for the same reasons. -/
theorem walkFrom_eq (h : tree.SameShape other) (followLast : Bool) (budget : Nat)
    (here : Location) (names : List String) :
    other.walkFrom followLast budget here names = tree.walkFrom followLast budget here names := by
  induction budget generalizing here names with
  | zero => exact h.walkNames_eq followLast (fun _ _ => rfl) here names
  | succ budget ih => exact h.walkNames_eq followLast ih here names

/-- Spellings lead to the same places in both trees. -/
theorem walk_eq (h : tree.SameShape other) (current : Location) (spelling : String) :
    other.walk current spelling = tree.walk current spelling := by
  simp only [walk, h.walkFrom_eq]

/-- A spelling names the same in both trees, up to contents. -/
theorem map_find?_eq (h : tree.SameShape other) {α : Type} {g : Location × Entry → α}
    (hg : ∀ place e, g (place, e.withContents []) = g (place, e)) (current : Location)
    (spelling : String) :
    (other.find? current spelling).map g = (tree.find? current spelling).map g := by
  unfold find? find
  rw [h.walk_eq]
  split
  · rfl
  · cases tree.walk current spelling with
    | error fault => rfl
    | ok place =>
        have hplace := h place
        cases htree : tree.entryAt? place <;> cases hother : other.entryAt? place <;>
          simp only [htree, hother, Option.map_none, Option.map_some, reduceCtorEq,
            Option.some.injEq] at hplace
        · simp [htree, hother, Except.toOption]
        · next e e' =>
            simp [htree, hother, Except.toOption, ← hg place e, ← hg place e', hplace]

end SameShape

/-! ## Where a walk ends -/

/-- The place and everything above it are directories. -/
def IsOpen (tree : FileTree) (place : Location) : Prop :=
  ∀ n, tree.entryAt? (place.take n) = some .directory

theorem isOpen_root (tree : FileTree) : tree.IsOpen [] :=
  fun _ => by simp [entryAt?, isAlwaysDirectory]

namespace IsOpen

variable {tree other : FileTree} {place : Location}

theorem entryAt?_eq (h : tree.IsOpen place) : tree.entryAt? place = some .directory := by
  simpa using h place.length

theorem dropLast (h : tree.IsOpen place) : tree.IsOpen place.dropLast := by
  intro n
  rw [List.dropLast_eq_take, List.take_take]
  exact h _

/-- A directory in an open place is open. -/
theorem child (h : tree.IsOpen place) {name : String}
    (hname : tree.entryAt? (place ++ [name]) = some .directory) :
    tree.IsOpen (place ++ [name]) := by
  intro n
  by_cases hinside : n ≤ place.length
  · rw [List.take_append_of_le_length hinside]
    exact h n
  · rwa [List.take_of_length_le (by simp; omega)]

theorem startOf (h : tree.IsOpen place) (spelling : String) :
    tree.IsOpen (startOf place spelling) := by
  rw [FileTree.startOf]
  split
  · exact tree.isOpen_root
  · exact h

end IsOpen

/-- Where a walk can end: in an open directory, or at a regular file. -/
def IsEnd (tree : FileTree) (place : Location) : Prop :=
  tree.IsOpen place ∨ ∃ e, tree.entryAt? place = some e ∧ e.isRegular = true

/-- What can be an end and is a directory is open. -/
theorem IsEnd.isOpen {tree : FileTree} {place : Location} (h : tree.IsEnd place)
    (hdirectory : tree.entryAt? place = some .directory) : tree.IsOpen place := by
  rcases h with hopen | ⟨e, he, hregular⟩
  · exact hopen
  · obtain rfl : e = .directory := by simpa [hdirectory] using he.symm
    simp [Entry.isRegular] at hregular

/-- A walk that follows every link ends where a walk can end, when the walks behind links do. -/
theorem isEnd_of_walkNames {tree : FileTree}
    {jump : Location → List String → Except WalkFault Location}
    (hjump : ∀ {here names place}, tree.IsEnd here → jump here names = .ok place →
      tree.IsEnd place) {here place : Location} {names : List String} (hhere : tree.IsEnd here)
    (hwalk : tree.walkNames true jump here names = .ok place) : tree.IsEnd place := by
  fun_induction walkNames tree true jump here names with
  | case1 here =>
      obtain rfl : here = place := by simpa using hwalk
      exact hhere
  | case2 => simp at hwalk
  | case3 here rest hdirectory ih => exact ih hhere hwalk
  | case4 here rest hdirectory hdot ih => exact ih (.inl (hhere.isOpen hdirectory).dropLast) hwalk
  | case5 => simp at hwalk
  | case6 => simp at hwalk
  | case7 here name rest hdirectory hdot hup hlong target hnext hlast => simp at hlast
  | case8 here name rest hdirectory hdot hup hlong target hnext hlast =>
      exact hjump (.inl ((hhere.isOpen hdirectory).startOf target)) hwalk
  | case9 here name rest hdirectory hdot hup hlong e hlink hnext ih =>
      refine ih ?_ hwalk
      cases e with
      | directory => exact .inl ((hhere.isOpen hdirectory).child hnext)
      | file contents mode => exact .inr ⟨_, hnext, rfl⟩
      | program id mode => exact .inr ⟨_, hnext, rfl⟩
      | link target => exact absurd rfl (hlink target)
  | case10 => simp at hwalk

/-- A walk that follows every link and starts in an open directory does not end at a link. -/
theorem isEnd_of_walkFrom {tree : FileTree} {budget : Nat} {here place : Location}
    {names : List String} (hhere : tree.IsEnd here)
    (hwalk : tree.walkFrom true budget here names = .ok place) : tree.IsEnd place := by
  induction budget generalizing here names place with
  | zero => exact isEnd_of_walkNames (fun _ hfault => by simp at hfault) hhere hwalk
  | succ budget ih => exact isEnd_of_walkNames ih hhere hwalk

/-- What a spelling names stands at its place, where the walk leads. -/
theorem entryAt?_of_find {tree : FileTree} {current place : Location} {spelling : String}
    {e : Entry}
    (hfind : tree.find current spelling = .ok (place, e)) : tree.entryAt? place = some e := by
  unfold find at hfind
  cases hwalk : tree.walk current spelling with
  | error fault => simp [hwalk] at hfind
  | ok found =>
      cases hentry : tree.entryAt? found with
      | none => simp [hwalk, hentry] at hfind
      | some e' =>
          simp only [hwalk, hentry, Except.ok.injEq, Prod.mk.injEq] at hfind
          rw [← hfind.1, hentry, hfind.2]

/-- From an open directory a spelling that is no directory names a regular file. -/
theorem isRegular_of_find {tree : FileTree} {current place : Location} {spelling : String}
    {e : Entry} (hcurrent : tree.IsOpen current)
    (hfind : tree.find current spelling = .ok (place, e)) (he : e ≠ .directory) :
    e.isRegular = true := by
  unfold find at hfind
  cases hwalk : tree.walk current spelling with
  | error fault => simp [hwalk] at hfind
  | ok found =>
      cases hentry : tree.entryAt? found with
      | none => simp [hwalk, hentry] at hfind
      | some e' =>
          simp only [hwalk, hentry, Except.ok.injEq, Prod.mk.injEq] at hfind
          rcases hfind with ⟨rfl, rfl⟩
          unfold walk at hwalk
          split at hwalk
          · simp at hwalk
          · split at hwalk
            · simp at hwalk
            · obtain hopen | ⟨e, hsame, hregular⟩ :=
                isEnd_of_walkFrom (.inl (hcurrent.startOf spelling)) hwalk
              · exact absurd (by simpa [hentry] using hopen.entryAt?_eq) he
              · obtain rfl : e' = e := by simpa [hentry] using hsame
                exact hregular

/-! ## Overwriting a file -/

/-- The bytes of the file at a place; what is no file has none. -/
def bytesAt (tree : FileTree) (place : Location) : Text.Bytes :=
  ((tree.entryAt? place).bind Entry.contents?).getD []

/-- The tree with other bytes in the file at a place. -/
def overwrite (tree : FileTree) (place : Location) (contents : Text.Bytes) : FileTree :=
  match tree.entryAt? place with
  | some e => tree.put place (e.withContents contents)
  | none => tree

/-- What stands where after a file was overwritten. -/
theorem entryAt?_overwrite (tree : FileTree) (place : Location) (contents : Text.Bytes)
    (other : Location) :
    (tree.overwrite place contents).entryAt? other =
      if other = place then (tree.entryAt? place).map (·.withContents contents)
      else tree.entryAt? other := by
  rw [overwrite]
  cases hentry : tree.entryAt? place with
  | none =>
      by_cases hsame : other = place <;> simp [hsame, hentry]
  | some e =>
      cases halways : isAlwaysDirectory place with
      | false => simp [entryAt?_put, halways]
      | true =>
          -- Nothing but a directory stands here, before and after.
          obtain rfl : Entry.directory = e := by simpa [entryAt?, halways] using hentry
          by_cases hsame : other = place
          · simp [hsame, entryAt?, halways, Entry.withContents]
          · simp [hsame, entryAt?, put, lookup_putEntry]

/-- Overwriting a file keeps the shape of the tree. -/
theorem sameShape_overwrite (tree : FileTree) (place : Location) (contents : Text.Bytes) :
    tree.SameShape (tree.overwrite place contents) := by
  intro other
  rw [entryAt?_overwrite]
  split
  · next hsame =>
      subst hsame
      cases hentry : tree.entryAt? other with
      | none => rfl
      | some e => cases e <;> simp [Entry.withContents]
  · rfl

/-- A regular file that was overwritten has the new bytes. -/
theorem bytesAt_overwrite_self {tree : FileTree} {place : Location} {e : Entry}
    (hentry : tree.entryAt? place = some e) (hregular : e.isRegular = true)
    (contents : Text.Bytes) : (tree.overwrite place contents).bytesAt place = contents := by
  cases e <;>
    simp_all [bytesAt, entryAt?_overwrite, Entry.withContents, Entry.contents?, Entry.isRegular]

/-! ## Trees that agree off some places -/

/-- The trees have one shape, and they differ at most in the files at some places. -/
def AgreesOff (tree : FileTree) (places : Location → Prop) (other : FileTree) : Prop :=
  tree.SameShape other ∧ ∀ place, ¬places place → other.entryAt? place = tree.entryAt? place

namespace AgreesOff

variable {tree other : FileTree} {places : Location → Prop}

theorem refl (tree : FileTree) (places : Location → Prop) : tree.AgreesOff places tree :=
  ⟨.refl tree, fun _ _ => rfl⟩

/-- Overwriting one of the files keeps the agreement. -/
theorem overwrite (h : tree.AgreesOff places other) {found : Location} (hfound : places found)
    (contents : Text.Bytes) : tree.AgreesOff places (other.overwrite found contents) := by
  refine ⟨h.1.trans (other.sameShape_overwrite found contents), ?_⟩
  intro place hplace
  have hne : place ≠ found := fun hsame => hplace (hsame ▸ hfound)
  rw [entryAt?_overwrite, if_neg hne, h.2 place hplace]

/-- Trees that agree off some places agree off more. -/
theorem mono {more : Location → Prop} (h : tree.AgreesOff places other)
    (hmore : ∀ place, places place → more place) : tree.AgreesOff more other :=
  ⟨h.1, fun place hplace => h.2 place fun hin => hplace (hmore place hin)⟩

end AgreesOff

end FileTree

end FormatLauncher
