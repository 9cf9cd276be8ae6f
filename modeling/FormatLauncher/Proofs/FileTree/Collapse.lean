/-
# Dots followed with and without looking

An absolute path is made by following dots lexically: a single dot is dropped and a double dot takes
away the name before it.  A walk follows them in the tree, where a double dot goes up from wherever
the links before it led.  Both lead to the same place if every double dot leaves a directory that is
no link at the place where lexical following has come to.
-/

import FormatLauncher.Proofs.FileTree.Walk
import Mathlib.Data.List.Induction

namespace FormatLauncher

namespace Location

theorem follow_append_singleton (start : Location) (names : List String) (name : String) :
    follow start (names ++ [name]) = stepLexically (follow start names) name := by
  simp [follow]

theorem stepLexically_up (place : Location) : stepLexically place ".." = place.dropLast :=
  if_pos rfl

theorem stepLexically_of_isName {name : String} (hname : Path.IsName name) (hup : name ≠ "..")
    (place : Location) : stepLexically place name = place ++ [name] := by
  simp [stepLexically, hup, hname.1, hname.2.1]

/-- What lexical following leads to is made of plain names. -/
theorem isName_of_mem_follow {start : Location} {names : List String}
    (hstart : ∀ name ∈ start, Path.IsName name ∧ name ≠ "..")
    (hnames : ∀ name ∈ names, Path.IsName name) :
    ∀ name ∈ follow start names, Path.IsName name ∧ name ≠ ".." := by
  induction names generalizing start with
  | nil => exact hstart
  | cons first names ih =>
      have hfirst := hnames first List.mem_cons_self
      refine ih (fun name hname => ?_) fun name hname => hnames name (List.mem_cons_of_mem _ hname)
      by_cases hup : first = ".."
      · rw [hup, stepLexically_up] at hname
        exact hstart name ((List.dropLast_sublist _).subset hname)
      · rw [stepLexically_of_isName hfirst hup, List.mem_append, List.mem_singleton] at hname
        rcases hname with hname | rfl
        · exact hstart name hname
        · exact ⟨hfirst, hup⟩

end Location

namespace FileTree

variable {tree : FileTree}

/-! ## Links -/

theorem link?_eq_none_iff {place : Location} :
    tree.link? place = none ↔ ∀ target, tree.entryAt? place ≠ some (.link target) := by
  unfold link?
  split
  · next target hentry => simp [hentry]
  · next hentry => simpa using hentry

theorem link?_eq_some_iff {place : Location} {target : String} :
    tree.link? place = some target ↔ tree.entryAt? place = some (.link target) := by
  unfold link?
  split
  · next hentry => simp [hentry]
  · next hentry => simpa using hentry target

/-! ## One step of a walk -/

/-- What one name leads to: nowhere, to a place, or to a link. -/
inductive Move
  | fault (fault : WalkFault)
  | place (next : Location)
  | link (target : String)

/-- What a name leads to from a place. -/
def move (tree : FileTree) (here : Location) (name : String) : Move :=
  match tree.entryAt? here with
  | none => .fault .missing
  | some .directory =>
    if name = "." then .place here
    else if name = ".." then .place here.dropLast
    else if nameLimit < name.utf8ByteSize then .fault .nameTooLong
    else
      match tree.entryAt? (here ++ [name]) with
      | none => .fault .missing
      | some (.link target) => .link target
      | some _ => .place (here ++ [name])
  | some _ => .fault .notDirectory

/-- A walk moves on by its first name. -/
theorem walkNames_cons (followLast : Bool)
    (jump : Location → List String → Except WalkFault Location) (here : Location) (name : String)
    (rest : List String) :
    tree.walkNames followLast jump here (name :: rest) =
      match tree.move here name with
      | .fault fault => .error fault
      | .place next => tree.walkNames followLast jump next rest
      | .link target =>
        if rest = [] ∧ ¬followLast then .ok (here ++ [name])
        else jump (startOf here target) (steps target ++ rest) := by
  rw [walkNames, move]
  cases tree.entryAt? here with
  | none => rfl
  | some e =>
      cases e with
      | directory =>
          dsimp only
          by_cases hdot : name = "."
          · simp [hdot]
          · by_cases hup : name = ".."
            · simp [hup]
            · by_cases hlong : nameLimit < name.utf8ByteSize
              · simp [hdot, hup, hlong]
              · simp only [hdot, hup, hlong, if_false]
                cases tree.entryAt? (here ++ [name]) with
                | none => rfl
                | some e => cases e <;> rfl
      | file contents mode => rfl
      | program id mode => rfl
      | link target => rfl

theorem move_dot {here : Location} (hhere : tree.entryAt? here = some .directory) :
    tree.move here "." = .place here := by
  simp [move, hhere]

theorem move_up {here : Location} (hhere : tree.entryAt? here = some .directory) :
    tree.move here ".." = .place here.dropLast := by
  simp [move, hhere]

/-- A plain name of a directory leads to it. -/
theorem move_directory {here : Location} {name : String}
    (hhere : tree.entryAt? here = some .directory) (hdot : name ≠ ".") (hup : name ≠ "..")
    (hshort : name.utf8ByteSize ≤ nameLimit)
    (hnext : tree.entryAt? (here ++ [name]) = some .directory) :
    tree.move here name = .place (here ++ [name]) := by
  simp [move, hhere, hdot, hup, hnext, Nat.not_lt.mpr hshort]

/-- From what is no directory no name leads on, and the fault is the same for all. -/
theorem move_of_ne_directory {here : Location} (hhere : tree.entryAt? here ≠ some .directory) :
    ∃ fault, ∀ name, tree.move here name = .fault fault := by
  unfold move
  cases hentry : tree.entryAt? here with
  | none => exact ⟨_, fun _ => rfl⟩
  | some e => cases e <;> simp_all

/-- All that a name can lead to: nowhere, and from a directory to the directory itself, to the one
above it, to a place below it where there is no link, or to the link there. -/
theorem move_cases (tree : FileTree) (here : Location) (name : String) :
    (∃ fault, fault ≠ .tooManyLinks ∧ tree.move here name = .fault fault) ∨
      tree.entryAt? here = some .directory ∧
        (name = "." ∧ tree.move here name = .place here ∨
          name = ".." ∧ tree.move here name = .place here.dropLast ∨
          name ≠ "." ∧ name ≠ ".." ∧
            (tree.link? (here ++ [name]) = none ∧ tree.move here name = .place (here ++ [name]) ∨
              ∃ target, tree.link? (here ++ [name]) = some target ∧
                tree.move here name = .link target)) := by
  unfold move
  cases hentry : tree.entryAt? here with
  | none => simp
  | some e =>
      cases e with
      | directory =>
          by_cases hdot : name = "."
          · simp [hdot]
          · by_cases hup : name = ".."
            · simp [hup]
            · by_cases hlong : nameLimit < name.utf8ByteSize
              · simp [hdot, hup, hlong]
              · cases hnext : tree.entryAt? (here ++ [name]) with
                | none => simp [hdot, hup, hlong]
                | some e => cases e <;> simp [hdot, hup, hlong, link?, hnext]
      | file contents mode => simp
      | program id mode => simp
      | link target => simp

/-! ## Walking down -/

/-- The place is a directory that can be walked to from the root name by name. -/
structure IsStanding (tree : FileTree) (place : Location) : Prop where
  isOpen : tree.IsOpen place
  isName : ∀ name ∈ place, Path.IsName name ∧ name ≠ ".."
  short : ∀ name ∈ place, name.utf8ByteSize ≤ nameLimit

theorem isStanding_root (tree : FileTree) : tree.IsStanding [] :=
  ⟨tree.isOpen_root, by simp, by simp⟩

/-- Walking down to a standing place goes on from there. -/
theorem IsStanding.walkFrom_append {place : Location} (h : tree.IsStanding place)
    (followLast : Bool) (budget : Nat) (rest : List String) :
    tree.walkFrom followLast budget [] (place ++ rest) =
      tree.walkFrom followLast budget place rest := by
  obtain ⟨jump, hjump⟩ := walkFrom_eq_walkNames tree followLast budget
  rw [hjump]
  suffices hdown : ∀ here names, here ++ names = place →
      tree.walkNames followLast jump here (names ++ rest) =
        tree.walkNames followLast jump place rest from hdown [] place rfl
  intro here names hplace
  induction names generalizing here with
  | nil =>
      rw [List.append_nil] at hplace
      rw [hplace, List.nil_append]
  | cons name names ih =>
      have hmem : name ∈ place := by simp [← hplace]
      have hopen : ∀ n, tree.entryAt? ((here ++ name :: names).take n) = some .directory :=
        hplace ▸ h.isOpen
      have hhere : tree.entryAt? here = some .directory := by simpa using hopen here.length
      have hnext : tree.entryAt? (here ++ [name]) = some .directory := by
        simpa [List.take_append, List.take_of_length_le] using hopen (here.length + 1)
      rw [List.cons_append, walkNames_cons, move_directory hhere (h.isName name hmem).1.2.1
        (h.isName name hmem).2 (h.short name hmem) hnext]
      exact ih (here ++ [name]) (by simpa using hplace)

/-! ## Single dots -/

/-- A single dot before another step changes nothing: both ask for a directory. -/
theorem walkNames_dot_cons {jump : Location → List String → Except WalkFault Location}
    {name : String} {rest : List String}
    (hjump : ∀ here before, jump here (before ++ "." :: name :: rest) =
      jump here (before ++ name :: rest)) (here : Location) (before : List String) :
    tree.walkNames true jump here (before ++ "." :: name :: rest) =
      tree.walkNames true jump here (before ++ name :: rest) := by
  induction before generalizing here with
  | nil =>
      rw [List.nil_append, List.nil_append, walkNames_cons]
      by_cases hhere : tree.entryAt? here = some .directory
      · rw [move_dot hhere]
      · obtain ⟨fault, hfault⟩ := move_of_ne_directory hhere
        rw [walkNames_cons, hfault, hfault]
  | cons first before ih =>
      rw [List.cons_append, List.cons_append, walkNames_cons, walkNames_cons]
      cases tree.move here first with
      | fault fault => rfl
      | place next => exact ih next
      | link target => simp only [← List.append_assoc, hjump, not_true, and_false, if_false]

theorem walkFrom_dot_cons (budget : Nat) (here : Location) (before : List String) (name : String)
    (rest : List String) :
    tree.walkFrom true budget here (before ++ "." :: name :: rest) =
      tree.walkFrom true budget here (before ++ name :: rest) := by
  induction budget generalizing here before with
  | zero => exact walkNames_dot_cons (fun _ _ => rfl) here before
  | succ budget ih => exact walkNames_dot_cons ih here before

/-- Steps without their single dots lead where the steps lead, unless the last one is a dot. -/
theorem walkFrom_filter_dots {names : List String} (hlast : names.getLast? ≠ some ".")
    (budget : Nat) (here : Location) :
    tree.walkFrom true budget here (names.filter (· ≠ ".")) =
      tree.walkFrom true budget here names := by
  suffices hbefore : ∀ before, tree.walkFrom true budget here (before ++ names.filter (· ≠ ".")) =
      tree.walkFrom true budget here (before ++ names) from hbefore []
  induction names with
  | nil => exact fun _ => rfl
  | cons first names ih =>
      intro before
      have hrest : names.getLast? ≠ some "." := by
        cases names with
        | nil => simp
        | cons second names => simpa using hlast
      by_cases hdot : first = "."
      · subst hdot
        cases names with
        | nil => simp at hlast
        | cons second names =>
            rw [walkFrom_dot_cons, ← ih hrest before]
            simp
      · have hkept := ih hrest (before ++ [first])
        simpa [List.filter_cons, hdot] using hkept

/-- A dot at the end asks for a directory. -/
theorem entryAt?_of_walkNames_dot {jump : Location → List String → Except WalkFault Location}
    (hjump : ∀ {here before place}, jump here (before ++ ["."]) = .ok place →
      tree.entryAt? place = some .directory) {here place : Location} {before : List String}
    (hwalk : tree.walkNames true jump here (before ++ ["."]) = .ok place) :
    tree.entryAt? place = some .directory := by
  induction before generalizing here with
  | nil =>
      rw [List.nil_append, walkNames_cons] at hwalk
      by_cases hhere : tree.entryAt? here = some .directory
      · rw [move_dot hhere] at hwalk
        obtain rfl : here = place := by simpa [walkNames] using hwalk
        exact hhere
      · obtain ⟨fault, hfault⟩ := move_of_ne_directory hhere
        simp [hfault] at hwalk
  | cons first before ih =>
      rw [List.cons_append, walkNames_cons] at hwalk
      cases hmove : tree.move here first with
      | fault fault => simp [hmove] at hwalk
      | place next => exact ih (by simpa [hmove] using hwalk)
      | link target => exact hjump (by simpa [hmove, ← List.append_assoc] using hwalk)

theorem entryAt?_of_walkFrom_dot {budget : Nat} {here place : Location} {before : List String}
    (hwalk : tree.walkFrom true budget here (before ++ ["."]) = .ok place) :
    tree.entryAt? place = some .directory := by
  induction budget generalizing here before place with
  | zero => exact entryAt?_of_walkNames_dot (fun hfault => by cases hfault) hwalk
  | succ budget ih => exact entryAt?_of_walkNames_dot ih hwalk

/-! ## Double dots -/

/-- A name and a double dot after it change nothing if the name is that of a directory, and not of
a link to one. -/
theorem walkNames_up {short jump : Location → List String → Except WalkFault Location}
    {name : String} (hdot : name ≠ ".") (hup : name ≠ "..") {rest : List String}
    (hjump : ∀ {here before place}, short here (before ++ [name]) = .ok place →
      tree.entryAt? place = some .directory →
      jump here (before ++ name :: ".." :: rest) = jump here (before ++ rest))
    {here place : Location} {before : List String}
    (hwalk : tree.walkNames false short here (before ++ [name]) = .ok place)
    (hplace : tree.entryAt? place = some .directory) :
    tree.walkNames true jump here (before ++ name :: ".." :: rest) =
      tree.walkNames true jump here (before ++ rest) := by
  induction before generalizing here with
  | nil =>
      rw [List.nil_append, walkNames_cons] at hwalk
      rw [List.nil_append, List.nil_append, walkNames_cons]
      rcases tree.move_cases here name with ⟨fault, -, hmove⟩ | ⟨hhere, hmoves⟩
      · simp [hmove] at hwalk
      rcases hmoves with ⟨hstay, -⟩ | ⟨habove, -⟩ |
        ⟨-, -, ⟨-, hmove⟩ | ⟨target, hlink, hmove⟩⟩
      · exact absurd hstay hdot
      · exact absurd habove hup
      · obtain rfl : here ++ [name] = place := by simpa [hmove, walkNames] using hwalk
        rw [hmove]
        dsimp only
        rw [walkNames_cons, move_up hplace]
        simp
      · -- Where a link is not followed the walk ends at it, and it is no directory.
        obtain rfl : here ++ [name] = place := by simpa [hmove] using hwalk
        simp [link?_eq_some_iff.mp hlink] at hplace
  | cons first before ih =>
      rw [List.cons_append, walkNames_cons] at hwalk
      rw [List.cons_append, List.cons_append, walkNames_cons, walkNames_cons]
      cases hmove : tree.move here first with
      | fault fault => rfl
      | place next => exact ih (by simpa [hmove] using hwalk)
      | link target =>
          have hbehind : short (startOf here target) (steps target ++ before ++ [name]) =
              .ok place := by simpa [hmove] using hwalk
          simpa using hjump hbehind hplace

theorem walkFrom_up {name : String} (hdot : name ≠ ".") (hup : name ≠ "..") {budget : Nat}
    {here place : Location} {before : List String}
    (hwalk : tree.walkFrom false budget here (before ++ [name]) = .ok place)
    (hplace : tree.entryAt? place = some .directory) (rest : List String) :
    tree.walkFrom true budget here (before ++ name :: ".." :: rest) =
      tree.walkFrom true budget here (before ++ rest) := by
  induction budget generalizing here before place with
  | zero => exact walkNames_up hdot hup (fun hfault => by cases hfault) hwalk hplace
  | succ budget ih => exact walkNames_up hdot hup ih hwalk hplace

/-! ## Lexical following -/

/-- Every double dot among the names leaves a directory, and no link, at the place where lexical
following has come to. -/
def LeavesDirectories (tree : FileTree) (start : Location) (names : List String) : Prop :=
  ∀ before rest, names = before ++ ".." :: rest →
    ∃ place, tree.walkFrom false linkBudget [] (Location.follow start before) = .ok place ∧
      tree.entryAt? place = some .directory

/-- Taking away the last name of a directory is a double dot after it, if no link is its name. -/
theorem walkFrom_dropLast {come place : Location}
    (hplain : ∀ name ∈ come, Path.IsName name ∧ name ≠ "..") {budget : Nat}
    (hwalk : tree.walkFrom false budget [] come = .ok place)
    (hplace : tree.entryAt? place = some .directory) (rest : List String) :
    tree.walkFrom true budget [] (come.dropLast ++ rest) =
      tree.walkFrom true budget [] (come ++ ".." :: rest) := by
  induction come using List.reverseRecOn with
  | nil =>
      -- The root has nothing above it.
      obtain ⟨jump, hjump⟩ := walkFrom_eq_walkNames tree true budget
      rw [hjump, List.nil_append, walkNames_cons, move_up tree.isOpen_root.entryAt?_eq]
      rfl
  | append_singleton above last =>
      have hlast := hplain last (by simp)
      rw [List.dropLast_concat, List.append_assoc, List.singleton_append,
        walkFrom_up hlast.1.2.1 hlast.2 hwalk hplace]

/-- Walking from a standing place leads where walking down the place of lexical following leads, if
every double dot on the way leaves a directory. -/
theorem walkFrom_follow {start : Location} (hstart : tree.IsStanding start) {names : List String}
    (hnames : ∀ name ∈ names, Path.IsName name) (hleaves : tree.LeavesDirectories start names) :
    tree.walkFrom true linkBudget [] (Location.follow start names) =
      tree.walkFrom true linkBudget start names := by
  suffices hrest : ∀ before rest, names = before ++ rest →
      tree.walkFrom true linkBudget [] (Location.follow start before ++ rest) =
        tree.walkFrom true linkBudget start (before ++ rest) by
    simpa using hrest names [] (by simp)
  -- From the front: each name is moved from what is walked to what has been followed.
  intro before
  induction before using List.reverseRecOn with
  | nil => exact fun rest _ => hstart.walkFrom_append true linkBudget rest
  | append_singleton before name ih =>
      intro rest hsplit
      rw [List.append_assoc, List.singleton_append] at hsplit ⊢
      rw [← ih (name :: rest) hsplit, Location.follow_append_singleton]
      by_cases hup : name = ".."
      · subst hup
        obtain ⟨place, hwalk, hplace⟩ := hleaves before rest hsplit
        have hbefore : ∀ other ∈ before, Path.IsName other := fun other hother =>
          hnames other (by simp [hsplit, hother])
        have hplain := Location.isName_of_mem_follow hstart.isName hbefore
        rw [Location.stepLexically_up, walkFrom_dropLast hplain hwalk hplace]
      · have hname := hnames name (by simp [hsplit])
        rw [Location.stepLexically_of_isName hname hup, List.append_assoc, List.singleton_append]

end FileTree

end FormatLauncher
