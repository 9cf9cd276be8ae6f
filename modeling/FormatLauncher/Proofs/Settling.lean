/-
# Formatting settles

A batch reads a file, prints its text anew and writes it back.  If printing it once more changes
nothing, then a second batch reads what the first one wrote, is planned and located as the first one
was, and finds every file unchanged.
-/

import FormatLauncher.Proofs.AnyOrder
import FormatLauncher.Proofs.WrittenBack

namespace FormatLauncher.Formatter

open Action

/-! ## What was written back -/

section Written

variable {f : Formatter} {w : World} {write : Bool} {schedule : Schedule}

/-- Settling files makes and removes no links. -/
theorem linkCount_foldl_settled (written : List Path) (tree : FileTree) :
    (written.foldl (f.settled w write schedule) tree).linkCount = tree.linkCount := by
  have hfirst (tree : FileTree) (file : Path) :
      (f.settled w write schedule tree file).linkCount = tree.linkCount := by
    unfold settled
    split
    · unfold writtenBack
      split
      · exact Contents.linkCount_written w file _ tree
      · rfl
    · rfl
  induction written generalizing tree with
  | nil => rfl
  | cons file rest ih => rw [List.foldl_cons, ih, hfirst]

/-- A file that formatting does not change is not written back. -/
theorem settled_of_unchanged {file : Path} (h : f.resultAlone w write schedule file = .ok false)
    (tree : FileTree) : f.settled w write schedule tree file = tree := by
  obtain ⟨⟨before, after⟩, halone, hback⟩ := except_bind_eq_ok.mp h
  obtain rfl : after = before := by simpa using (resultBack_eq_ok.mp hback).1
  rw [settled, halone]
  simp [writtenBack]

end Written

/-! ## A batch of files that come to something -/

section Done

variable {f : Formatter} {w : World} {files : List Path} {schedule : Schedule}

/-- A batch of files that each come to something by themselves does not fail.  If it is done in its
turns, every file has its own result; files of the batch were settled, and nothing else changed. -/
theorem outcome_formatFilesInTurns_of_ok (hindifferent : f.IndifferentTo w files)
    {write : Bool}
    (hok : ∀ file ∈ files, ∃ changed, f.resultAlone w write schedule file = .ok changed)
    (turns : List Turn) :
    ∃ done later, ∃ written : List Path,
      (f.formatFilesInTurns files turns write schedule).outcome w = (.ok done, later) ∧
      (∀ results ∈ done,
        results = files.map fun file => ⟨file, f.resultAlone w write schedule file⟩) ∧
      (∀ file ∈ written, file ∈ files) ∧
      later.scene = (w.withFiles (written.foldl (f.settled w write schedule) w.files)).scene := by
  have hnone : ∀ file ∈ files, escaping? (f.resultAlone w write schedule file) = none := by
    intro file hfile
    obtain ⟨changed, hchanged⟩ := hok file hfile
    rw [hchanged]
    rfl
  obtain ⟨-, records, hplan⟩ | ⟨file, hfile, failure, _, hfailure, -⟩ :=
    f.outcome_planFiles_cases files w
  · obtain ⟨⟨cache, stages⟩, written, later, hturns, hsound⟩ := sound_takeTurns hindifferent
      (sound_start write schedule (v := w.logging records) (by simp)) turns
    rw [formatFilesInTurns, outcome_bind_of_ok hplan, outcome_bind_of_ok hturns]
    cases hresults : Progress.results? ⟨cache, stages⟩ with
    | none => exact ⟨none, later, written, rfl, by simp, hsound.within, hsound.scene⟩
    | some results =>
        obtain rfl := results?_eq_some hresults
        obtain ⟨rfl, -⟩ := hsound.of_stagesOfResults
        refine ⟨some _, later, written, ?_, fun _ hmem => (Option.mem_some_iff.mp hmem).symm,
          hsound.within, hsound.scene⟩
        dsimp only
        split
        · next failure hescapes =>
            obtain ⟨_, hr, hfailure⟩ := List.exists_of_findSome?_eq_some hescapes
            obtain ⟨file, hfile, rfl⟩ := List.mem_map.mp hr
            cases (hnone file hfile).symm.trans hfailure
        · rfl
  · have hescapes := escaping?_resultAlone_of_draft hfailure write schedule
    cases (hnone file hfile).symm.trans hescapes

/-- A batch of files that formatting does not change leaves every file as it is. -/
theorem outcome_formatFilesInTurns_of_unchanged (hindifferent : f.IndifferentTo w files)
    {write : Bool} (hunchanged : ∀ file ∈ files, f.resultAlone w write schedule file = .ok false)
    (turns : List Turn) :
    ∃ done later, (f.formatFilesInTurns files turns write schedule).outcome w =
        (.ok done, later) ∧
      (∀ results ∈ done, results = files.map fun file => ⟨file, .ok false⟩) ∧
      later.files = w.files := by
  obtain ⟨done, later, written, hdone, hresults, hwithin, hscene⟩ :=
    outcome_formatFilesInTurns_of_ok hindifferent
      (fun file hfile => ⟨false, hunchanged file hfile⟩) turns
  refine ⟨done, later, hdone, fun results hmem => ?_, ?_⟩
  · rw [hresults results hmem]
    exact List.map_congr_left fun file hfile => by rw [hunchanged file hfile]
  · rw [World.files_eq_of_scene_eq hscene, World.files_withFiles]
    refine List.foldlRecOn (motive := (· = w.files)) written _ rfl fun tree htree file hfile => ?_
    rw [settled_of_unchanged (hunchanged file (hwithin file hfile)), htree]

/-- Worked off in order, such a batch returns. -/
theorem outcome_formatFiles_of_unchanged (hindifferent : f.IndifferentTo w files)
    {write : Bool}
    (hunchanged : ∀ file ∈ files, f.resultAlone w write schedule file = .ok false) :
    ∃ later, (f.formatFiles files write schedule).outcome w =
        (.ok (files.map fun file => ⟨file, .ok false⟩), later) ∧ later.files = w.files := by
  obtain ⟨done, later, hdone, hresults, hfiles⟩ := outcome_formatFilesInTurns_of_unchanged
    hindifferent hunchanged (turnsInOrder files.length)
  rw [formatFilesInTurns_turnsInOrder, outcome_map] at hdone
  rcases hbatch : (f.formatFiles files write schedule).outcome w with ⟨failure | results, last⟩
  · simp [hbatch, Except.map] at hdone
  · obtain ⟨rfl, rfl⟩ : some results = done ∧ last = later := by
      simpa [hbatch, Except.map] using hdone
    exact ⟨last, by rw [hresults results rfl], hfiles⟩

end Done

/-! ## A transform that settles -/

/-- By itself the formatter makes of what a file holds a transform of that, and of this the
transform once more, which is the same.  The first schedule is for the one, the second for the
other. -/
structure Settles (f : Formatter) (w : World) (files : List Path)
    (transform : Location → String → String) (first second : Schedule) : Prop where
  once : ∀ {file found before}, file ∈ files → Contents.place w file = .ok found →
    readText w file = .ok before →
      ((f.formatText before (some file.text) first).outcome w).1 = .ok (transform found before)
  twice : ∀ {file found before}, file ∈ files → Contents.place w file = .ok found →
    readText w file = .ok before →
      ((f.formatText (transform found before) (some file.text) second).outcome w).1 =
        .ok (transform found (transform found before))
  idempotent : ∀ {file found before}, file ∈ files → Contents.place w file = .ok found →
    readText w file = .ok before →
      transform found (transform found before) = transform found before

section Settles

variable {f : Formatter} {w later : World} {names : List String}
  {transform : Location → String → String} {first second : Schedule}

/-- Where the transform settles, a file by itself comes to the transform of what it holds. -/
theorem Settles.alone_eq (hsettles : f.Settles w (names.map Path.parse) transform first second)
    (hleaves : f.LeavesFiles w) {file : Path} {found : Location} {before : String}
    (hfile : file ∈ names.map Path.parse) (hplace : Contents.place w file = .ok found)
    (hread : readText w file = .ok before) :
    f.alone w first file = .ok (before, transform found before) := by
  obtain ⟨name, -, rfl⟩ := List.mem_map.mp hfile
  have halone := alone_eq_formatText hleaves (Path.parse name).text first
  rw [Path.parse_text_parse, hread] at halone
  rw [halone, Except.bind, hsettles.once hfile hplace hread]
  rfl

theorem FileResult.exists_eq_ok_of_isOk {r : FileResult} (h : r.isOk = true) :
    ∃ changed, r.outcome = .ok changed := by
  cases houtcome : r.outcome with
  | error failure => simp [FileResult.isOk, houtcome, Except.toOption] at h
  | ok changed => exact ⟨changed, rfl⟩

/-- What is read by one path is read by every path to the same place. -/
theorem readText_of_place_eq {w : World} {file other : Path} {text : String}
    (hplace : Contents.place w other = Contents.place w file)
    (hread : readText w file = .ok text) : readText w other = .ok text := by
  obtain ⟨bytes, hbytes, htext⟩ := readText_eq_ok hread
  obtain ⟨found, hfound, hthere, hreadable⟩ := Contents.exists_place_of_read hbytes
  have hother : Contents.read w other = .ok bytes := by
    rw [Contents.read_eq, hplace, hfound, Except.bind, if_pos hreadable, hthere]
  simp only [readText, hother, htext]

/-- After a batch that wrote back, a file that came to something reads as the transform of what it
held. -/
theorem Settles.readText_later (hopen : w.IsOpen) (hleaves : f.LeavesFiles w)
    (hsettles : f.Settles w (names.map Path.parse) transform first second) {written : List Path}
    (hwithin : ∀ file ∈ written, file ∈ names.map Path.parse)
    (hscene : later.scene =
      (w.withFiles (written.foldl (f.settled w true first) w.files)).scene)
    {file : Path} {found : Location} {before : String} (hfile : file ∈ written)
    (hplace : Contents.place w file = .ok found) (hread : readText w file = .ok before)
    (hwritable : transform found before ≠ before →
      Contents.writing w file (Text.Utf8.encode (transform found before)) = .ok ()) :
    readText later file = .ok (transform found before) := by
  have halone {other : Path} (hother : other ∈ written)
      (hfound : Contents.place w other = .ok found) :
      f.alone w first other = .ok (before, transform found before) :=
    hsettles.alone_eq hleaves (hwithin other hother) hfound
      (readText_of_place_eq (hfound.trans hplace.symm) hread)
  obtain ⟨original, horiginal, hdecode⟩ := readText_eq_ok hread
  -- With the file settled alone it reads as it should; what else was settled leaves it so.
  have hsettled : Contents.read (w.withFiles (f.settled w true first w.files file)) file =
      .ok (Text.Utf8.encode (transform found before)) :=
    read_of_settled hopen horiginal hdecode (Text.Utf8.decode_encode _) (halone hfile hplace)
      hwritable rfl
  have hagrees := agreesOff_foldl_settled (f := f) (.refl w.files (places w _)) hwithin true first
  have hentry : later.files.entryAt? found =
      (f.settled w true first w.files file).entryAt? found := by
    rw [World.files_eq_of_scene_eq hscene, World.files_withFiles,
      entryAt?_foldl_settled_same hplace fun other hother hfound => by
        rw [halone hother hfound, halone hfile hplace],
      if_pos ⟨file, hfile, hplace⟩]
  have hsame : Contents.read later file = .ok (Text.Utf8.encode (transform found before)) := by
    rw [← hsettled]
    have hself := agreesOff_settled (f := f) (.refl w.files (places w _))
      (hwithin file hfile) true first
    have hfiles := World.files_eq_of_scene_eq hscene
    have hthere := place_eq_of_scene_eq hself.1
      (v := w.withFiles (f.settled w true first w.files file)) rfl file
    have hdirectory := World.directory_eq_of_scene_eq hscene
    have hstorage := World.storage_eq_of_scene_eq hscene
    refine Contents.read_eq_of_entryAt?_eq (w := w.withFiles (f.settled w true first w.files file))
      (by rw [hfiles]; exact hself.1.symm.trans hagrees.1) hdirectory hstorage file
      fun place hplace' => ?_
    obtain rfl : found = place := by simpa [hthere, hplace] using hplace'
    exact hentry
  simp only [readText, hsame, Text.Utf8.decode_encode]

/-- Formatting settles.  If the formatter's transform of what a file holds is a fixed point of the
transform, then a batch that wrote back and in which no file failed, whatever its turns, leaves a
world in which formatting the files once more, writing or not, finds every one of them unchanged,
and leaves every file as it is. -/
theorem formatting_settles (hopen : w.IsOpen) (hsteady : f.SteadyFor w (names.map Path.parse))
    (hsettles : f.Settles w (names.map Path.parse) transform first second)
    {turns : List Turn} {results : List FileResult}
    (hfirst : (f.formatFilesInTurns (names.map Path.parse) turns true first).outcome w =
      (.ok (some results), later))
    (hok : ∀ r ∈ results, r.isOk = true) :
    let files := names.map Path.parse
    let unchanged : List FileResult := files.map fun file => ⟨file, .ok false⟩
    ∀ write,
      (∃ after, (f.formatFiles files write second).outcome later = (.ok unchanged, after) ∧
        after.files = later.files) ∧
      ∀ turns, ∃ done after,
        (f.formatFilesInTurns files turns write second).outcome later = (.ok done, after) ∧
        (∀ again ∈ done, again = unchanged) ∧ after.files = later.files := by
  intro files unchanged write
  obtain ⟨rfl, written, hwithin, hwritten, hscene⟩ := formatFilesInTurns_eq_ok hsteady hfirst
  have hagrees := agreesOff_foldl_settled (f := f) (.refl w.files (places w _)) hwithin true first
  have hunchanged : ∀ file ∈ files, f.resultAlone later write second file = .ok false := by
    intro file hfile
    obtain ⟨changed, hchanged⟩ : ∃ changed, f.resultAlone w true first file = .ok changed :=
      FileResult.exists_eq_ok_of_isOk (hok _ (List.mem_map_of_mem hfile))
    obtain ⟨⟨before, after⟩, halone, hback⟩ := except_bind_eq_ok.mp hchanged
    obtain ⟨found, hplace⟩ := exists_place_of_alone halone
    have hread := readText_of_alone halone
    obtain rfl : transform found before = after := (Prod.mk.inj (Except.ok.inj
      ((hsettles.alone_eq hsteady.leaves hfile hplace hread).symm.trans halone))).2
    have hlater := hsettles.readText_later hopen hsteady.leaves hwithin hscene
      (hwritten file hfile _ halone) hplace hread fun hne => (resultBack_eq_ok.mp hback).2 hne rfl
    obtain ⟨name, -, rfl⟩ := List.mem_map.mp hfile
    have hagain := alone_eq_formatText (hsteady.leavesFiles_later hagrees hscene)
      (Path.parse name).text second
    rw [Path.parse_text_parse, hlater, Except.bind, hsteady.formatText_eq hagrees hscene
      (linkCount_foldl_settled written w.files), hsettles.twice hfile hplace hread,
      hsettles.idempotent hfile hplace hread] at hagain
    rw [resultAlone, hagain]
    simp [Except.map, Except.bind, resultBack]
  have hindifferent := hsteady.indifferentTo.later hagrees hscene
  exact ⟨outcome_formatFiles_of_unchanged hindifferent hunchanged, fun turns =>
    outcome_formatFilesInTurns_of_unchanged hindifferent hunchanged turns⟩

end Settles

/-- Whether a transform settles can be found out file by file. -/
theorem settles_of_files {f : Formatter} {w : World} {files : List Path}
    {transform : Location → String → String} {first second : Schedule}
    (hfiles : ∀ file ∈ files, ∀ found ∈ (Contents.place w file).toOption,
      ∀ before ∈ (readText w file).toOption,
        ((f.formatText before (some file.text) first).outcome w).1 = .ok (transform found before) ∧
        ((f.formatText (transform found before) (some file.text) second).outcome w).1 =
          .ok (transform found (transform found before)) ∧
        transform found (transform found before) = transform found before) :
    f.Settles w files transform first second := by
  have hfile {file : Path} {found : Location} {before : String} (hmem : file ∈ files)
      (hplace : Contents.place w file = .ok found) (hread : readText w file = .ok before) :=
    hfiles file hmem found (by rw [hplace]; rfl) before (by rw [hread]; rfl)
  exact {
    once := fun hmem hplace hread => (hfile hmem hplace hread).1
    twice := fun hmem hplace hread => (hfile hmem hplace hread).2.1
    idempotent := fun hmem hplace hread => (hfile hmem hplace hread).2.2 }

/-- A text without its spaces. -/
def withoutSpaces (text : String) : String := String.ofList (text.toList.filter (· ≠ ' '))

/-- A world with a formatter that leaves out spaces, a file with a space, and a link to it. -/
def spacedWorld : World where
  files := ⟨[(["bin"], .directory), (["bin", "sqlfmt"], .program 0 0o755),
    (["a.sql"], .file [0x61, 0x20, 0x62] 0o644), (["b.sql"], .link "a.sql")]⟩
  programs := fun _ call tree => some ⟨0, call.input.filter (· ≠ 0x20), [], tree⟩
  environment := [("PATH", "/bin")]
  directory := []
  log := []
  runs := []

/-- A file that is formatted under two names, and twice under one of them, is not changed again. -/
theorem formatting_settles_spaces :
    let files := ["a.sql", "b.sql", "a.sql"].map Path.parse
    ∃ results later after,
      (unlimited.formatFilesInTurns files
        [.locate 0, .print 0, .print 1, .write 1, .print 2, .write 0, .write 2] true
          .quiet).outcome spacedWorld = (.ok (some results), later) ∧
      results.map FileResult.isChanged = [true, true, true] ∧
      (Contents.read later (Path.parse "b.sql")).toOption = some [0x61, 0x62] ∧
      (unlimited.formatFiles files true .quiet).outcome later =
        (.ok (files.map fun file => ⟨file, .ok false⟩), after) ∧
      after.files = later.files := by
  intro files
  have hsteady : unlimited.SteadyFor spacedWorld files :=
    steadyFor_of_files (fun _ _ _ _ => rfl) (by decide +kernel) _
  have hsettles : unlimited.Settles spacedWorld files (fun _ => withoutSpaces) .quiet .quiet :=
    settles_of_files (by decide +kernel)
  have hopen : spacedWorld.IsOpen := FileTree.isOpen_root _
  have hreturns : ((unlimited.formatFilesInTurns files
      [.locate 0, .print 0, .print 1, .write 1, .print 2, .write 0, .write 2] true
        .quiet).outcome spacedWorld).1.toOption.join.map
          (fun results => (results.map FileResult.isChanged, results.all FileResult.isOk)) =
            some ([true, true, true], true) := by decide +kernel
  have hread : (Contents.read ((unlimited.formatFilesInTurns files
      [.locate 0, .print 0, .print 1, .write 1, .print 2, .write 0, .write 2] true
        .quiet).outcome spacedWorld).2 (Path.parse "b.sql")).toOption = some [0x61, 0x62] := by
    decide +kernel
  rcases houtcome : (unlimited.formatFilesInTurns files
      [.locate 0, .print 0, .print 1, .write 1, .print 2, .write 0, .write 2] true
        .quiet).outcome spacedWorld with ⟨failure | (_ | results), later⟩
  · rw [houtcome] at hreturns
    cases hreturns
  · rw [houtcome] at hreturns
    cases hreturns
  · rw [houtcome] at hreturns hread
    obtain ⟨hchanged, hok⟩ := Prod.mk.inj (Option.some.inj hreturns)
    obtain ⟨⟨after, hagain, hkept⟩, -⟩ :=
      formatting_settles hopen hsteady hsettles houtcome (List.all_eq_true.mp hok) true
    exact ⟨results, later, after, rfl, hchanged, hread, hagain, hkept⟩

end FormatLauncher.Formatter
