/-
# What a program is started with

A command that starts is a program of the world, in the directory that was asked for.  An
interpreter may put words before the arguments that were given, and never after them.
-/

import FormatLauncher.Proofs.Action
import FormatLauncher.Launch

namespace FormatLauncher.Launch

/-- What the program does with some input, in a file tree. -/
def Ready.finish? (ready : Ready) (input : Text.Bytes) (tree : FileTree) : Option Finish :=
  ready.program ⟨ready.directory, ready.arguments, input⟩ tree

/-- How the start of the program is remembered. -/
def Ready.run (ready : Ready) (finished : Bool) : Run :=
  ⟨ready.command, ready.directory, ready.arguments, finished⟩

/-- The program leaves the files as they are, whatever its input. -/
def Ready.LeavesFiles (ready : Ready) (tree : FileTree) : Prop :=
  ∀ input finish, ready.finish? input tree = some finish → finish.files = tree

/-- Whether and how a command starts depends on the scene. -/
theorem start_eq_of_scene_eq {w other : World} (hscene : w.scene = other.scene)
    (command : String) (arguments : List String) (directory : Option String) :
    start w command arguments directory = start other command arguments directory :=
  show start w.scene command arguments directory = start other.scene command arguments directory by
    rw [hscene]

/-- The arguments that were given stand at the end of those that are handed over. -/
theorem exists_of_openFile {tree : FileTree} {directory : Location} {depth : Nat} {file : String}
    {arguments : List String} {opened : Nat × String × List String}
    (h : openFile tree directory depth file arguments = .ok opened) :
    ∃ before, opened.2.2 = before ++ arguments := by
  fun_induction openFile tree directory depth file arguments with
  | case1 => simp at h
  | case2 => simp at h
  | case3 depth file arguments id mode _ hdepth =>
      refine ⟨[], ?_⟩
      rw [← Except.ok.inj h]
      rfl
  | case4 => simp at h
  | case5 => simp at h
  | case6 => simp at h
  | case7 => simp at h
  | case8 => simp at h
  | case9 file arguments contents mode _ interpreter rest _ _ depth ih =>
      obtain ⟨before, hbefore⟩ := ih h
      exact ⟨before ++ rest ++ [file], by simp [hbefore]⟩
  | case10 => simp at h

/-- Of several files that are tried, the one that opens was opened. -/
theorem exists_of_openFirst {α : Type} {openOne : String → Except FileRefusal α}
    {refused : List FileRefusal} {files : List String} {opened : α}
    (h : openFirst openOne refused files = .ok opened) :
    ∃ file ∈ files, openOne file = .ok opened := by
  fun_induction openFirst openOne refused files with
  | case1 => simp at h
  | case2 refused file rest found hfound => exact ⟨file, List.mem_cons_self, hfound.trans h⟩
  | case3 refused file rest refusal hrefusal ih =>
      obtain ⟨other, hmem, hopened⟩ := ih h
      exact ⟨other, List.mem_cons_of_mem _ hmem, hopened⟩

/-- A directory that was asked for is what its spelling names. -/
theorem find_of_startDirectory {w : World} {spelling : String} {place : Location}
    (h : startDirectory w (some spelling) = .ok place) :
    w.files.find w.directory spelling = .ok (place, .directory) := by
  unfold startDirectory at h
  dsimp only at h
  split at h
  · simp at h
  · next found hfound =>
      obtain rfl : found = place := Except.ok.inj h
      exact hfound
  · simp at h

/-- What starts is a program of the world, in the directory that was asked for, and the arguments
that were given stand at the end of its own. -/
theorem start_eq_ok {w : World} {command : String} {arguments : List String}
    {directory : Option String} {ready : Ready}
    (h : start w command arguments directory = .ok ready) :
    (∃ id, ready.program = w.programs id) ∧
      startDirectory w directory = .ok ready.directory ∧
      ∃ before, ready.arguments = before ++ arguments := by
  rw [start] at h
  split at h
  · simp at h
  · split at h
    · simp at h
    · next place hplace =>
        dsimp only at h
        split at h
        · simp at h
        · next id name handed hopened =>
            obtain ⟨file, -, hfile⟩ := exists_of_openFirst hopened
            obtain rfl := Except.ok.inj h
            refine ⟨⟨id, rfl⟩, hplace, ?_⟩
            unfold openWith at hfile
            cases hrunnable : runnable w.files place file with
            | error refusal => simp [hrunnable, bind, Except.bind] at hfile
            | ok e =>
                simp only [hrunnable, bind, Except.bind] at hfile
                split at hfile
                · exact exists_of_openFile hfile
                · simp [throw, throwThe, MonadExceptOf.throw] at hfile

/-- Where no program writes files, nothing that starts does. -/
theorem Ready.leavesFiles_of_programs {w : World}
    (hprograms : ∀ id call tree finish, w.programs id call tree = some finish →
      finish.files = tree)
    {command : String} {arguments : List String} {directory : Option String} {ready : Ready}
    (hstart : start w command arguments directory = .ok ready) : ready.LeavesFiles w.files := by
  intro input finish hfinish
  obtain ⟨⟨id, hprogram⟩, -, -⟩ := start_eq_ok hstart
  rw [finish?, hprogram] at hfinish
  exact hprograms id _ _ finish hfinish

end FormatLauncher.Launch
