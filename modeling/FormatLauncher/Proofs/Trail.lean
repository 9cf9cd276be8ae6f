/-
# What starting a program looks at

The files that starting a command opens are its trail: the file of the command, and the interpreters
that first lines name, one after the other.  Only files that may be run are opened.  A command
starts the same in two trees of one shape that agree on its trail.
-/

import FormatLauncher.Proofs.FileTree.Shape
import FormatLauncher.Proofs.Launch

namespace FormatLauncher

namespace Launch

/-- The place of a file, if it is opened to be run. -/
def opened (tree : FileTree) (directory : Location) (file : String) : List Location :=
  match tree.find directory file with
  | .ok (place, e) => if e.isRunnable then [place] else []
  | .error _ => []

/-- The interpreter that the first line of a file names. -/
def interpreter? (tree : FileTree) (directory : Location) (file : String) : Option String :=
  match tree.find directory file with
  | .ok (_, .file contents _) => (interpreterLine? contents).bind List.head?
  | _ => none

/-- The places that are opened from a file on, as far as interpreters are followed. -/
def trailFrom (tree : FileTree) (directory : Location) : (depth : Nat) → (file : String) →
    List Location
  | 0, file => opened tree directory file
  | depth + 1, file =>
    opened tree directory file ++
      ((interpreter? tree directory file).map (trailFrom tree directory depth)).getD []

/-- The places that starting a command opens. -/
def trail (w : World) (command : String) (directory : Option String) : List Location :=
  match startDirectory w directory with
  | .error _ => []
  | .ok place =>
    (candidates w.environment command).flatMap (trailFrom w.files place (interpreterDepth + 1))

section Stable

variable {tree other : FileTree}

/-- Only files that may be run are opened. -/
theorem isRunnable_of_mem_opened {directory place : Location} {file : String}
    (h : place ∈ opened tree directory file) :
    ∃ e, tree.entryAt? place = some e ∧ e.isRunnable = true := by
  rw [opened] at h
  split at h
  · next found e hfind =>
      split at h
      · next hrunnable =>
          obtain rfl : place = found := by simpa using h
          exact ⟨e, FileTree.entryAt?_of_find hfind, hrunnable⟩
      · simp at h
  · simp at h

theorem isRunnable_of_mem_trailFrom {directory place : Location} {depth : Nat} {file : String}
    (h : place ∈ trailFrom tree directory depth file) :
    ∃ e, tree.entryAt? place = some e ∧ e.isRunnable = true := by
  induction depth generalizing file with
  | zero => exact isRunnable_of_mem_opened h
  | succ depth ih =>
      rcases List.mem_append.mp h with hfirst | hrest
      · exact isRunnable_of_mem_opened hfirst
      · cases hinterpreter : interpreter? tree directory file with
        | none => simp [hinterpreter] at hrest
        | some interpreter => exact ih (by simpa [hinterpreter] using hrest)

/-- Everything on a trail may be run. -/
theorem isRunnable_of_mem_trail {w : World} {command : String} {directory : Option String}
    {place : Location} (h : place ∈ trail w command directory) :
    ∃ e, w.files.entryAt? place = some e ∧ e.isRunnable = true := by
  rw [trail] at h
  split at h
  · simp at h
  · obtain ⟨file, -, hfile⟩ := List.mem_flatMap.mp h
    exact isRunnable_of_mem_trailFrom hfile

/-- What is run under the name of a file is the same in trees that agree on what is opened. -/
theorem runnable_eq (hshape : tree.SameShape other) {directory : Location} {file : String}
    (hsame : ∀ place ∈ opened tree directory file, other.entryAt? place = tree.entryAt? place) :
    runnable other directory file = runnable tree directory file := by
  unfold opened at hsame
  unfold runnable FileTree.find at *
  rw [hshape.walk_eq]
  cases hwalk : tree.walk directory file with
  | error fault => rfl
  | ok place =>
      rw [hwalk] at hsame
      rcases hshape.entryAt?_cases place with heq | ⟨e, e', he, he', -, -, hcontents⟩
      · simp [heq]
      · by_cases hrunnable : e.isRunnable = true
        · have := hsame place (by simp [he, hrunnable])
          simp [this]
        · have hrunnable' : e'.isRunnable = false := by
            cases e <;> cases e' <;> simp_all [Entry.withContents, Entry.isRunnable]
          simp [he, he', hrunnable, hrunnable']

/-- The trail goes on from the interpreter that the first line of a file names. -/
theorem mem_trailFrom_of_interpreter {directory place : Location} {file interpreter : String}
    {contents : Text.Bytes} {mode depth : Nat} {rest : List String}
    (hrunnable : runnable tree directory file = .ok (.file contents mode))
    (hline : interpreterLine? contents = some (interpreter :: rest))
    (hplace : place ∈ trailFrom tree directory depth interpreter) :
    place ∈ trailFrom tree directory (depth + 1) file := by
  have hinterpreter : interpreter? tree directory file = some interpreter := by
    unfold runnable at hrunnable
    rw [interpreter?]
    cases hfind : tree.find directory file with
    | error fault => simp [hfind] at hrunnable
    | ok found =>
        rcases found with ⟨place, e⟩
        simp only [hfind] at hrunnable
        split at hrunnable
        · obtain rfl : e = .file contents mode := Except.ok.inj hrunnable
          simp [hline]
        · simp at hrunnable
  rw [trailFrom, hinterpreter]
  exact List.mem_append_right _ hplace

/-- One step of opening a file: what counts is the file itself, and what is done about the
interpreter that it names. -/
theorem openFile_congr {directory : Location} {depth : Nat} {file : String}
    {arguments : List String}
    (hfirst : runnable other directory file = runnable tree directory file)
    (hnext : ∀ {contents mode interpreter rest},
      runnable tree directory file = .ok (.file contents mode) →
      interpreterLine? contents = some (interpreter :: rest) →
      match depth with
      | 0 => runnable other directory interpreter = runnable tree directory interpreter
      | depth + 1 => ∀ arguments, openFile other directory depth interpreter arguments =
          openFile tree directory depth interpreter arguments) :
    openFile other directory depth file arguments =
      openFile tree directory depth file arguments := by
  unfold openFile
  rw [hfirst]
  cases hrunnable : runnable tree directory file with
  | error refusal => rfl
  | ok e =>
      cases e with
      | program id mode => rfl
      | directory => rfl
      | link target => rfl
      | file contents mode =>
          dsimp only
          cases hline : interpreterLine? contents with
          | none => rfl
          | some words =>
              cases words with
              | nil => rfl
              | cons interpreter rest =>
                  have hstep := hnext hrunnable hline
                  by_cases hempty : interpreter = ""
                  · subst hempty
                    rfl
                  · cases depth <;> dsimp only at hstep <;> split <;> simp_all

/-- The program in a file is the same in trees of one shape that agree on the trail. -/
theorem openFile_eq (hshape : tree.SameShape other) {directory : Location} {depth : Nat}
    {file : String} (arguments : List String)
    (hsame : ∀ place ∈ trailFrom tree directory (depth + 1) file,
      other.entryAt? place = tree.entryAt? place) :
    openFile other directory depth file arguments =
      openFile tree directory depth file arguments := by
  induction depth generalizing file arguments with
  | zero =>
      refine openFile_congr (runnable_eq hshape fun place h =>
        hsame place (List.mem_append_left _ h)) fun hrunnable hline => ?_
      exact runnable_eq hshape fun place h =>
        hsame place (mem_trailFrom_of_interpreter hrunnable hline h)
  | succ depth ih =>
      refine openFile_congr (runnable_eq hshape fun place h =>
        hsame place (List.mem_append_left _ h)) fun hrunnable hline arguments => ?_
      exact ih arguments fun place h =>
        hsame place (mem_trailFrom_of_interpreter hrunnable hline h)

/-- Trying files in turn depends on what comes of each. -/
theorem openFirst_congr {α : Type} {openOne openOne' : String → Except FileRefusal α}
    {files : List String} (h : ∀ file ∈ files, openOne' file = openOne file)
    (refused : List FileRefusal) :
    openFirst openOne' refused files = openFirst openOne refused files := by
  induction files generalizing refused with
  | nil => rfl
  | cons file rest ih =>
      have hrest := fun refused =>
        ih (fun file hfile => h file (List.mem_cons_of_mem _ hfile)) refused
      simp [openFirst, h file List.mem_cons_self, hrest]

theorem startDirectory_eq {w other : World} (hshape : w.files.SameShape other.files)
    (hdirectory : other.directory = w.directory) (directory : Option String) :
    startDirectory other directory = startDirectory w directory := by
  cases directory with
  | none => exact congrArg Except.ok hdirectory
  | some spelling =>
      unfold startDirectory FileTree.find
      dsimp only
      rw [hdirectory, hshape.walk_eq]
      cases w.files.walk w.directory spelling with
      | error fault => rfl
      | ok place =>
          rcases hshape.entryAt?_cases place with heq | ⟨e, e', he, he', hfile, hfile', -⟩
          · simp [heq]
          · cases e <;> cases e' <;> simp_all [Entry.isRegular]

/-- Whether and how a command starts depends on the shape of the tree and on the files of its
trail. -/
theorem start_eq_of_trail {w other : World} (hshape : w.files.SameShape other.files)
    (hscene : other.scene = (w.withFiles other.files).scene) {command : String}
    {directory : Option String}
    (hsame : ∀ place ∈ trail w command directory,
      other.files.entryAt? place = w.files.entryAt? place) (arguments : List String) :
    start other command arguments directory = start w command arguments directory := by
  have hdirectory : other.directory = w.directory := by
    simpa using World.directory_eq_of_scene_eq hscene
  obtain ⟨hprograms, henvironment⟩ := World.programs_and_environment_of_scene_eq hscene
  rw [World.programs_withFiles] at hprograms
  rw [World.environment_withFiles] at henvironment
  unfold start
  rw [startDirectory_eq hshape hdirectory, henvironment, hprograms]
  unfold trail at hsame
  cases hplace : startDirectory w directory with
  | error cause => rfl
  | ok place =>
      rw [hplace] at hsame
      have hopen : ∀ file ∈ candidates w.environment command,
          openWith other.files place (fits w.environment (command :: arguments)) arguments file =
            openWith w.files place (fits w.environment (command :: arguments)) arguments file := by
        intro file hfile
        have htrail : ∀ there ∈ trailFrom w.files place (interpreterDepth + 1) file,
            other.files.entryAt? there = w.files.entryAt? there :=
          fun there h => hsame there (List.mem_flatMap.mpr ⟨file, hfile, h⟩)
        unfold openWith
        rw [openFile_eq hshape arguments htrail,
          runnable_eq hshape fun there h => htrail there (List.mem_append_left _ h)]
      dsimp only
      rw [openFirst_congr hopen]

end Stable

end Launch

end FormatLauncher
