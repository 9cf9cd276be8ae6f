/-
# The file that was meant

The check of a command looks at an absolute path in which dots were followed lexically.  The
operating system follows the file of the command as it is spelled.  Where every double dot leaves a
directory and no link, the two find the same, unless the spelling asks for a directory or one of the
spellings is not admitted at all.
-/

import FormatLauncher.Proofs.Availability
import FormatLauncher.Proofs.FileTree.Collapse

namespace FormatLauncher

namespace FileTree

variable {tree : FileTree}

/-- The operating system follows the spelling: it is not empty, holds no NUL, and is not too
long. -/
def IsAdmitted (spelling : String) : Prop :=
  spelling ≠ "" ∧ Spelling.hasNul spelling = false ∧ spelling.utf8ByteSize ≤ spellingLimit

instance (spelling : String) : Decidable (IsAdmitted spelling) :=
  inferInstanceAs (Decidable (_ ∧ _ ∧ _))

/-- The spelling ends in a slash or a dot, so that it can name nothing but a directory. -/
def AsksForDirectory (spelling : String) : Prop := (steps spelling).getLast? = some "."

instance (spelling : String) : Decidable (AsksForDirectory spelling) :=
  inferInstanceAs (Decidable (_ = _))

/-- What a spelling names is found down its steps, if it is admitted. -/
theorem find?_eq (tree : FileTree) (current : Location) (spelling : String) :
    tree.find? current spelling =
      if IsAdmitted spelling then tree.findBelow? (startOf current spelling) (steps spelling)
      else none := by
  unfold find? find walk IsAdmitted
  by_cases hnul : Spelling.hasNul spelling = true
  · simp [hnul]
  · by_cases hempty : spelling = ""
    · simp [hempty, Except.toOption]
    · by_cases hlong : spellingLimit < spelling.utf8ByteSize
      · simp [hnul, hempty, hlong, Nat.not_le.mpr hlong, Except.toOption]
      · simp only [hnul, hempty, hlong, Nat.not_lt.mp hlong, ne_eq, not_false_eq_true, and_self,
          if_true, Bool.false_eq_true, if_false, findBelow?]
        cases tree.walkFrom true linkBudget (startOf current spelling) (steps spelling) with
        | error fault => rfl
        | ok place =>
            dsimp only
            cases tree.entryAt? place <;> rfl

/-- What asks for a directory names no regular file. -/
theorem not_asksForDirectory_of_isRegular {current place : Location} {spelling : String}
    {e : Entry} (hfound : tree.find? current spelling = some (place, e))
    (hregular : e.isRegular = true) : ¬AsksForDirectory spelling := by
  intro hasks
  obtain ⟨before, hsteps⟩ := List.getLast?_eq_some_iff.mp hasks
  rw [find?_eq, hsteps, findBelow?] at hfound
  split at hfound
  · split at hfound
    · cases hfound
    · next found hwalk =>
        rw [entryAt?_of_walkFrom_dot hwalk] at hfound
        obtain ⟨-, rfl⟩ : found = place ∧ Entry.directory = e := by simpa using hfound
        cases hregular
  · cases hfound

/-- The steps of a spelling that asks for no directory are its names and single dots. -/
theorem filter_steps {spelling : String} (hasks : ¬AsksForDirectory spelling) :
    (steps spelling).filter (· ≠ ".") = (Path.parse spelling).names := by
  unfold AsksForDirectory steps at *
  dsimp only at *
  split at hasks
  · simp at hasks
  · next hlast => simp [hlast, Path.parse, Bool.and_comm]

/-- The names of a spelling that asks for no directory lead where its steps lead. -/
theorem findBelow?_names {spelling : String} (hasks : ¬AsksForDirectory spelling)
    (here : Location) :
    tree.findBelow? here (Path.parse spelling).names = tree.findBelow? here (steps spelling) := by
  rw [← filter_steps hasks, findBelow?, findBelow?, walkFrom_filter_dots hasks]

/-- The absolute path of a spelling is where lexical following leads from where its steps start. -/
theorem absolute_names (current : Location) (spelling : String) :
    (Spelling.absolute current spelling).isAbsolute = true ∧
      (Spelling.absolute current spelling).names =
        Location.follow (startOf current spelling) (Path.parse spelling).names := by
  unfold Spelling.absolute startOf
  dsimp only
  split
  · next habsolute => exact ⟨habsolute, rfl⟩
  · exact ⟨rfl, rfl⟩

/-- The absolute path of a spelling, if it is admitted, names what is found down the names of the
spelling, if every double dot leaves a directory. -/
theorem find?_absolute {current : Location} {spelling : String}
    (hstart : tree.IsStanding (startOf current spelling))
    (hleaves : tree.LeavesDirectories (startOf current spelling) (Path.parse spelling).names) :
    tree.find? current (Spelling.absolute current spelling).text =
      if IsAdmitted (Spelling.absolute current spelling).text then
        tree.findBelow? (startOf current spelling) (Path.parse spelling).names
      else none := by
  obtain ⟨habsolute, hfollow⟩ := absolute_names current spelling
  have hparsed : ∀ name ∈ (Path.parse spelling).names, Path.IsName name :=
    fun _ hname => Path.isName_of_mem_parse hname
  have hplain : ∀ name ∈ (Spelling.absolute current spelling).names, Path.IsName name :=
    fun name hname =>
      (Location.isName_of_mem_follow hstart.isName hparsed name (hfollow ▸ hname)).1
  generalize Spelling.absolute current spelling = p at *
  have hroot : startOf current p.text = [] := by
    rw [startOf, Path.isAbsolute_parse_text hplain, habsolute, if_pos rfl]
  have hsteps : tree.walkFrom true linkBudget [] (steps p.text) =
      tree.walkFrom true linkBudget [] p.names := by
    rw [Path.steps_text hplain]
    split
    · next hempty =>
        obtain ⟨jump, hjump⟩ := walkFrom_eq_walkNames tree true linkBudget
        rw [walkFrom_dot tree.isOpen_root, hempty, hjump, walkNames]
    · rfl
  rw [find?_eq, hroot, findBelow?, findBelow?, hsteps, hfollow, walkFrom_follow hstart hparsed
    hleaves]

end FileTree

namespace Locator

open Action FileTree

/-- What a check answers is as meant: it passes exactly if the file is a regular one with an execute
bit, and then the path that is answered names that very file. -/
def IsAsMeant (w : World) (file path : String) (passes : Bool) : Prop :=
  (passes = true ↔ IsExecutableFile w file) ∧
    (passes = true → w.files.find? w.directory path = w.files.find? w.directory file)

/-- A check of a relative path in a current directory that has lost its name fails. -/
theorem result_check_of_lost {w : World} {command file : String}
    (hfile : fileOf? w command = some file) (hrelative : (Path.parse file).isAbsolute = false)
    (hlost : w.directory.isLost = true) :
    ((check .slash command).outcome w).1 = .error (.system .noCurrentDirectory) := by
  rw [result_check_eq, hfile]
  simp [checkedFile, absolute, hrelative, Location.named, hlost, Except.map]

/-- Any other check of a file answers with its absolute path and whether that is an executable
file. -/
theorem result_check_of_file {w : World} {command file : String}
    (hfile : fileOf? w command = some file)
    (hnamed : ¬((Path.parse file).isAbsolute = false ∧ w.directory.isLost = true)) :
    ∃ passes, ((check .slash command).outcome w).1 =
        .ok ((Spelling.absolute w.directory file).text, passes) ∧
      (passes = true ↔ IsExecutableFile w (Spelling.absolute w.directory file).text) := by
  have habsolute : absolute w file = .ok (Spelling.absolute w.directory file) := by
    cases hroot : (Path.parse file).isAbsolute with
    | true => rw [absolute, if_pos hroot, Spelling.absolute_of_isAbsolute hroot]
    | false => exact absolute_eq_ok (by simpa [hroot] using hnamed) file
  refine ⟨(checkFile .slash w (Spelling.absolute w.directory file).text).1, ?_,
    checkFile_eq_true_iff⟩
  rw [result_check_eq, hfile]
  simp [checkedFile, habsolute, Except.map]

/-- An executable file has an admitted spelling. -/
theorem IsExecutableFile.isAdmitted {w : World} {path : String} (h : IsExecutableFile w path) :
    IsAdmitted path := by
  rcases h with ⟨place, e, hfound, -⟩
  rw [find?_eq] at hfound
  by_contra hadmitted
  simp [hadmitted] at hfound

/-- Spellings that name the same name the same executable file. -/
theorem isExecutableFile_congr {w : World} {path other : String}
    (hsame : w.files.find? w.directory path = w.files.find? w.directory other) :
    IsExecutableFile w path ↔ IsExecutableFile w other := by
  rw [IsExecutableFile, IsExecutableFile, hsame]

/-- What a check answers for a file whose double dots leave directories is as meant exactly if a
spelling that passes is admitted and asks for no directory, and the path of an executable file is
admitted. -/
theorem isAsMeant_iff {w : World} {file : String}
    (hstart : w.files.IsStanding (startOf w.directory file))
    (hleaves : w.files.LeavesDirectories (startOf w.directory file) (Path.parse file).names)
    {passes : Bool}
    (hpasses : passes = true ↔
      IsExecutableFile w (Spelling.absolute w.directory file).text) :
    IsAsMeant w file (Spelling.absolute w.directory file).text passes ↔
      (passes = true → IsAdmitted file ∧ ¬AsksForDirectory file) ∧
        (IsExecutableFile w file → IsAdmitted (Spelling.absolute w.directory file).text) := by
  have habsolute := find?_absolute hstart hleaves
  generalize (Spelling.absolute w.directory file).text = path at *
  by_cases hasks : AsksForDirectory file
  · have hnone : ¬IsExecutableFile w file := fun ⟨_, _, hfound, hregular, _⟩ =>
      not_asksForDirectory_of_isRegular hfound hregular hasks
    cases passes <;> simp [IsAsMeant, hnone, hasks]
  · rw [findBelow?_names hasks] at habsolute
    have hsame : IsAdmitted path → IsAdmitted file →
        w.files.find? w.directory path = w.files.find? w.directory file := fun hpath hfile => by
      rw [habsolute, find?_eq, if_pos hpath, if_pos hfile]
    constructor
    · rintro ⟨hmeant, -⟩
      exact ⟨fun hpass => ⟨(hmeant.mp hpass).isAdmitted, hasks⟩,
        fun hfile => (hpasses.mp (hmeant.mpr hfile)).isAdmitted⟩
    · rintro ⟨hpass, hfile⟩
      have hnames : passes = true →
          w.files.find? w.directory path = w.files.find? w.directory file :=
        fun h => hsame (hpasses.mp h).isAdmitted (hpass h).1
      refine ⟨⟨fun h => (isExecutableFile_congr (hnames h)).mp (hpasses.mp h), fun h => ?_⟩, hnames⟩
      exact hpasses.mpr ((isExecutableFile_congr (hsame (hfile h) h.isAdmitted)).mpr h)

/-- What the check of a command answers, in a current directory that stands or has lost its name.  A
command without a file is refused.  A relative path in a lost directory fails.  Any other file is
answered with its absolute path, and it passes exactly if that is an executable file.  If every
double dot in its spelling leaves a directory and no link, then this is as meant, but for a spelling
that passes and yet asks for a directory or is not admitted, and for an executable file whose path
is not admitted. -/
theorem check_as_meant {w : World}
    (hcurrent : w.directory.isLost = false → w.files.IsStanding w.directory) (command : String) :
    let answer := ((check .slash command).outcome w).1
    (fileOf? w command = none → answer = .ok (command, false)) ∧
    ∀ file, fileOf? w command = some file →
      let isLost := (Path.parse file).isAbsolute = false ∧ w.directory.isLost = true
      let path := (Spelling.absolute w.directory file).text
      (isLost → answer = .error (.system .noCurrentDirectory)) ∧
      (¬isLost → ∃ passes, answer = .ok (path, passes) ∧
        (passes = true ↔ IsExecutableFile w path) ∧
        (w.files.LeavesDirectories (startOf w.directory file) (Path.parse file).names →
          (IsAsMeant w file path passes ↔
            (passes = true → IsAdmitted file ∧ ¬AsksForDirectory file) ∧
              (IsExecutableFile w file → IsAdmitted path)))) := by
  intro answer
  refine ⟨fun hnone => ?_, fun file hfile => ?_⟩
  · change ((check .slash command).outcome w).1 = _
    rw [result_check_eq, hnone]
  · refine ⟨fun hlost => result_check_of_lost hfile hlost.1 hlost.2, fun hnamed => ?_⟩
    obtain ⟨passes, hanswer, hpasses⟩ := result_check_of_file hfile hnamed
    refine ⟨passes, hanswer, hpasses, fun hleaves => isAsMeant_iff ?_ hleaves hpasses⟩
    rw [startOf]
    split
    · exact isStanding_root _
    · next hroot => exact hcurrent (by simpa [hroot] using hnamed)

/-- A world with a program below a directory, another one at the root, and a link at the root to a
directory next to the first. -/
def linkedWorld : World where
  files := ⟨[(["a"], .directory), (["a", "b"], .directory), (["a", "sqlfmt"], .program 0 0o755),
    (["link"], .link "/a/b"), (["sqlfmt"], .program 1 0o755)]⟩
  programs := fun _ _ tree => some ⟨0, [], [], tree⟩
  environment := []
  directory := []
  log := []
  runs := []

/-- A double dot after a directory finds the program that was meant; after the link it finds the
other one. -/
theorem check_as_meant_link :
    ((check .slash "a/b/../sqlfmt").outcome linkedWorld).1 = .ok ("/a/sqlfmt", true) ∧
      IsAsMeant linkedWorld "a/b/../sqlfmt" "/a/sqlfmt" true ∧
      ((check .slash "link/../sqlfmt").outcome linkedWorld).1 = .ok ("/sqlfmt", true) ∧
      ¬IsAsMeant linkedWorld "link/../sqlfmt" "/sqlfmt" true := by
  have hplain : ((check .slash "a/b/../sqlfmt").outcome linkedWorld).1 =
      .ok ("/a/sqlfmt", true) := by decide +kernel
  have hlink : ((check .slash "link/../sqlfmt").outcome linkedWorld).1 =
      .ok ("/sqlfmt", true) := by decide +kernel
  have hother : linkedWorld.files.find? linkedWorld.directory "/sqlfmt" ≠
      linkedWorld.files.find? linkedWorld.directory "link/../sqlfmt" := by decide +kernel
  refine ⟨hplain, ?_, hlink, fun hmeant => hother (hmeant.2 rfl)⟩
  have hnames : (Path.parse "a/b/../sqlfmt").names = ["a", "b", "..", "sqlfmt"] := by decide
  have hleaves : linkedWorld.files.LeavesDirectories [] (Path.parse "a/b/../sqlfmt").names := by
    rintro before rest hsplit
    obtain rfl : before = ["a", "b"] := by
      rw [hnames] at hsplit
      rcases before with _ | ⟨first, _ | ⟨second, _ | ⟨third, _ | ⟨fourth, _⟩⟩⟩⟩ <;>
        simp_all
    exact ⟨["a", "b"], by decide +kernel, by decide⟩
  obtain ⟨passes, hanswer, -, hmeant⟩ := ((check_as_meant (w := linkedWorld)
    (fun _ => isStanding_root _) "a/b/../sqlfmt").2 _ rfl).2 (by decide)
  obtain ⟨hpath, rfl⟩ := Prod.mk.inj (Except.ok.inj (hplain.symm.trans hanswer))
  rw [hpath]
  exact (hmeant hleaves).mpr ⟨fun _ => ⟨by decide, by decide⟩, fun _ => by decide⟩

end Locator

end FormatLauncher
