/-
# Checking is a dry run

Files can be checked, which announces what formatting would change, or formatted.  The two differ in
whether files are written while other tasks of the batch are still on their way.  A formatter that
is a filter for the files does not see this: what comes of a file is told from the world of the
start, so both batches have the same results, in whatever order their tasks take turns, and a report
depends on nothing else.  Only a change that cannot be written is announced by the one, and is a
failure of the other.
-/

import FormatLauncher.Proofs.AnyOrder
import FormatLauncher.Proofs.Report

namespace FormatLauncher

namespace Formatter

open Action

/-! ## The log does not matter -/

/-- A formatter that is a filter for a batch stays one while the log grows. -/
theorem SteadyFor.logging {f : Formatter} {w : World} {files : List Path} (h : f.SteadyFor w files)
    (records : List LogRecord) : f.SteadyFor (w.logging records) files := by
  have hcommands {folder : Option Folder} {plan : Plan} {command : String}
      (hlogged : f.Commands (w.logging records) folder plan command) :
      f.Commands w folder plan command := hlogged.of_scene_eq (by simp)
  have hstart (command : String) (arguments : List String) (directory : Option String) :=
    Launch.start_eq_of_scene_eq (w.scene_logging records) command arguments directory
  exact {
    leaves := h.leaves.of_scene_eq (by simp)
    apart := fun hlogged => h.apart (hcommands hlogged)
    steady := fun hlogged hready => h.steady (hcommands hlogged) (hstart _ _ _ ▸ hready)
    queryApart := fun hlogged => h.queryApart (hcommands hlogged)
    querySteady := fun hlogged hready => h.querySteady (hcommands hlogged) (hstart _ _ _ ▸ hready) }

/-- What comes of a file by itself does not depend on the log. -/
theorem resultAlone_logging (f : Formatter) (w : World) (records : List LogRecord) (write : Bool)
    (schedule : Schedule) (file : Path) :
    f.resultAlone (w.logging records) write schedule file =
      f.resultAlone w write schedule file := by
  have hscene : (w.logging records).scene = w.scene := by simp
  have hprinted (draft : Draft) :
      f.printed (w.logging records) schedule draft = f.printed w schedule draft := by
    rw [printed, printed, (Locator.ignoresHistory_locate draft.plan.query f.probeLimit schedule
      _ _ hscene).1]
    congr 1
    funext resolved
    rw [((f.reads_invocation draft.plan resolved).ignoresHistory _ _ hscene).1]
    congr 1
    funext invocation
    exact (Execution.ignoresHistory_asFilter _ _ _ _ _ _ hscene).1
  have halone : f.alone (w.logging records) schedule file = f.alone w schedule file := by
    rw [alone, alone, ((f.reads_draft file).ignoresHistory _ _ hscene).1]
    simp only [hprinted]
  rw [resultAlone, resultAlone, halone]
  rfl

/-! ## Changes that cannot be written -/

/-- Formatting changes the file, and writing the change fails. -/
def Unwritten (f : Formatter) (w : World) (file : Path) (failure : Failure) : Prop :=
  ∃ before after, f.alone w .quiet file = .ok (before, after) ∧ after ≠ before ∧
    Contents.writing w file (Text.Utf8.encode after) = .error failure

/-- What came of a file when it was checked foretells what came of it when it was formatted: that is
the same, or the file was to change and could not be written. -/
def Foretells (f : Formatter) (w : World) (checked formatted : FileResult) : Prop :=
  formatted = checked ∨
    checked.outcome = .ok true ∧
      ∃ failure, f.Unwritten w checked.file failure ∧ formatted = ⟨checked.file, .error failure⟩

section Unwritten

variable {f : Formatter} {w : World} {file : Path} {failure : Failure}

/-- A change that cannot be written is announced, and is a failure. -/
theorem resultAlone_of_unwritten (h : f.Unwritten w file failure) :
    f.resultAlone w false .quiet file = .ok true ∧
      f.resultAlone w true .quiet file = .error failure := by
  obtain ⟨before, after, halone, hne, hwriting⟩ := h
  rw [resultAlone, resultAlone, halone]
  simp [Except.bind, resultBack, hne, hwriting, Except.map]

/-- Otherwise writing makes no difference for what comes of a file. -/
theorem resultAlone_of_written (h : ∀ failure, ¬f.Unwritten w file failure) (write : Bool) :
    f.resultAlone w write .quiet file = f.resultAlone w false .quiet file := by
  rw [resultAlone, resultAlone]
  rcases halone : f.alone w .quiet file with failure | ⟨before, after⟩
  · rfl
  · refine (resultBack_eq_ok.mpr ⟨rfl, fun hne _ => ?_⟩).trans
      (resultBack_eq_ok.mpr ⟨rfl, by simp⟩).symm
    cases hwriting : Contents.writing w file (Text.Utf8.encode after) with
    | ok done => rfl
    | error failure => exact absurd ⟨before, after, halone, hne, hwriting⟩ (h failure)

/-- That a change cannot be written is a failure of its file, which a batch collects. -/
theorem Unwritten.isCollected (h : f.Unwritten w file failure) : failure.isCollected = true := by
  obtain ⟨before, after, halone, -, hwriting⟩ := h
  obtain ⟨found, hplace⟩ := exists_place_of_alone halone
  obtain hnowhere | ⟨cause, rfl⟩ := Contents.writing_eq_error hwriting
  · cases hnowhere.symm.trans hplace
  · rfl

/-- Whether what comes of a file ends a batch does not depend on whether it is written. -/
theorem escaping?_resultAlone (f : Formatter) (w : World) (write : Bool) (file : Path) :
    escaping? (f.resultAlone w write .quiet file) =
      escaping? (f.resultAlone w false .quiet file) := by
  by_cases hwritten : ∀ failure, ¬f.Unwritten w file failure
  · rw [resultAlone_of_written hwritten]
  · simp only [not_forall, not_not] at hwritten
    obtain ⟨failure, hunwritten⟩ := hwritten
    obtain ⟨hchecked, hformatted⟩ := resultAlone_of_unwritten hunwritten
    cases write with
    | false => rfl
    | true => simp [hchecked, hformatted, escaping?, hunwritten.isCollected]

/-- Checking foretells formatting, file by file. -/
theorem foretells_resultAlone (f : Formatter) (w : World) (file : Path) :
    f.Foretells w ⟨file, f.resultAlone w false .quiet file⟩
      ⟨file, f.resultAlone w true .quiet file⟩ := by
  by_cases hwritten : ∀ failure, ¬f.Unwritten w file failure
  · exact .inl (by rw [resultAlone_of_written hwritten])
  · simp only [not_forall, not_not] at hwritten
    obtain ⟨failure, hunwritten⟩ := hwritten
    obtain ⟨hchecked, hformatted⟩ := resultAlone_of_unwritten hunwritten
    exact .inr ⟨hchecked, failure, hunwritten, by rw [hformatted]⟩

end Unwritten

/-! ## A batch that writes nothing -/

/-- A file that is only checked is not written back. -/
theorem settled_of_check (f : Formatter) (w : World) (schedule : Schedule) (tree : FileTree)
    (file : Path) : f.settled w false schedule tree file = tree := by
  rw [settled]
  split <;> simp [writtenBack]

/-- Checking leaves every file as it is, in whatever order the tasks take turns, and whether or not
the batch comes to an end. -/
theorem files_formatFilesInTurns_check {f : Formatter} {w : World} {files : List Path}
    (hsteady : f.SteadyFor w files) (turns : List Turn) (schedule : Schedule) :
    ((f.formatFilesInTurns files turns false schedule).outcome w).2.files = w.files := by
  have hkept (written : List Path) :
      written.foldl (f.settled w false schedule) w.files = w.files := by
    induction written with
    | nil => rfl
    | cons file rest ih => rw [List.foldl_cons, settled_of_check, ih]
  obtain ⟨-, records, hplan⟩ | ⟨_, -, failure, later, -, hplan, hscene⟩ :=
    f.outcome_planFiles_cases files w
  · obtain ⟨progress, written, last, hturns, hsound⟩ :=
      sound_takeTurns hsteady.indifferentTo
        (sound_start false schedule (v := w.logging records) (by simp)) turns
    have hlast : last.files = w.files := by
      rw [World.files_eq_of_scene_eq hsound.scene, World.files_withFiles, hkept]
    rw [formatFilesInTurns, outcome_bind_of_ok hplan, outcome_bind_of_ok hturns]
    cases progress.results? with
    | none => exact hlast
    | some results =>
        dsimp only
        split <;> exact hlast
  · rw [formatFilesInTurns, outcome_bind_of_error hplan]
    exact World.files_eq_of_scene_eq hscene

/-- Checking files side by side leaves every file as it is. -/
theorem files_formatFiles_check {f : Formatter} {w : World} {files : List Path}
    (hsteady : f.SteadyFor w files) (schedule : Schedule) :
    ((f.formatFiles files false schedule).outcome w).2.files = w.files := by
  have hturns := files_formatFilesInTurns_check hsteady (turnsInOrder files.length) schedule
  rwa [formatFilesInTurns_turnsInOrder, outcome_map] at hturns

end Formatter

namespace CommandLine

open Formatter (FileResult)

/-! ## The two sessions -/

/-- Where the configuration makes no formatter, every session that is to format stops alike, and the
files stay as they are. -/
theorem run_session_of_not_makes {general : General} {w : World}
    (hnone : ∀ f, ¬general.Makes w f) :
    ∃ ended : Ended, ended.world.files = w.files ∧
      ∀ {arguments : List String} {task : FormatTask}, Asks arguments general (.format task) →
        ∀ input, (session arguments input).run w = ended := by
  obtain ⟨result, printed, records, hconfigured, -⟩ := outcome_configured general ⟨"", ""⟩ w
  rcases result with stop | ⟨config, settings⟩
  · refine ⟨⟨printed, some stop, w.logging records⟩, rfl, fun hasks input => ?_⟩
    rw [Session.run_eq, session_eq hasks, Session.outcome_bind, hconfigured]
  · cases hmake : Formatter.make w settings general.interpreters Tool.sqlfmt with
    | ok f => exact absurd ⟨config, settings, by rw [hconfigured], hmake⟩ (hnone f)
    | error failure =>
        refine ⟨⟨printed, some (.failed failure), w.logging records⟩, rfl, fun hasks input => ?_⟩
        rw [Session.run_eq, session_eq hasks, Session.outcome_bind_of_ok hconfigured]
        simp only [carryOut, format]
        rw [Session.outcome_bind, outcome_formatter, make_logging, hmake]
        rfl

section Runs

variable {w : World} {general : General} {f : Formatter} {names : List String}

/-- What a session that is to format files comes to: it ends with a failure of the batch, or it
reports for every file what comes of it by itself.  If it only checks, the files stay as they
are. -/
theorem run_session_files (hmakes : general.Makes w f)
    (hsteady : f.SteadyFor w (names.map Path.parse)) (hnames : inputMark ∉ names) {check : Bool}
    {arguments : List String} {document : Option String}
    (hasks : Asks arguments general (.format ⟨names, check, false, document⟩)) (input : String) :
    let files := names.map Path.parse
    let ended := (session arguments input).run w
    (check = true → ended.world.files = w.files) ∧
      ((∃ file ∈ files, Formatter.escaping? (f.resultAlone w (!check) .quiet file) ≠ none) ∧
          ended.failure?.isSome = true ∨
        (∀ file ∈ files, Formatter.escaping? (f.resultAlone w (!check) .quiet file) = none) ∧
          Reports check (files.map fun file => ⟨file, f.resultAlone w (!check) .quiet file⟩)
            ended) := by
  intro files ended
  obtain ⟨s, records, -, hformatter, hrun⟩ := run_session hasks hmakes input
  have hsteady' := hsteady.logging records
  have hended : ended = (formatFiles f names check).run (w.logging records) :=
    hrun.trans (run_format_files hformatter hnames check document)
  have hkept (hcheck : check = true) : ((f.formatFiles files (!check) .quiet).outcome
      (w.logging records)).2.files = w.files := by
    subst hcheck
    exact Formatter.files_formatFiles_check hsteady' .quiet
  have hcases := Formatter.outcome_formatFiles hsteady'.toFiltersFor (!check) .quiet
  simp only [Formatter.resultAlone_logging] at hcases
  rcases hbatch : (f.formatFiles files (!check) .quiet).outcome (w.logging records) with
    ⟨failure | results, later⟩
  · rw [hbatch] at hkept
    rw [hended, run_formatFiles_of_error hbatch]
    refine ⟨hkept, .inl ⟨?_, rfl⟩⟩
    obtain ⟨file, hfile, cause, hcause, -⟩ | ⟨-, last, hreturns, -⟩ := hcases
    · exact ⟨file, hfile, by simp [hcause]⟩
    · cases hreturns.symm.trans hbatch
  · rw [hbatch] at hkept
    obtain ⟨hreports, records', hlogged⟩ := reports_formatFiles hbatch
    rw [hended]
    refine ⟨fun hcheck => by rw [hlogged]; exact hkept hcheck, .inr ?_⟩
    obtain ⟨file, hfile, cause, -, hfails⟩ | ⟨hnone, last, hreturns, -⟩ := hcases
    · cases hfails.symm.trans (congrArg Prod.fst hbatch)
    · obtain rfl := Except.ok.inj (congrArg Prod.fst (hreturns.symm.trans hbatch))
      exact ⟨hnone, hreports⟩

/-- Whenever a batch of these files returns, in whatever order its tasks take turns, the session
that checks or formats as the batch does reports its results, one for each file. -/
theorem reports_of_formatFilesInTurns (hmakes : general.Makes w f)
    (hsteady : f.SteadyFor w (names.map Path.parse)) (hnames : inputMark ∉ names) {check : Bool}
    {arguments : List String} {document : Option String}
    (hasks : Asks arguments general (.format ⟨names, check, false, document⟩)) (input : String)
    {turns : List Formatter.Turn} {results : List FileResult} {later : World}
    (hreturns : (f.formatFilesInTurns (names.map Path.parse) turns (!check) .quiet).outcome w =
      (.ok (some results), later)) :
    results = (names.map Path.parse).map (fun file =>
        ⟨file, f.resultAlone w (!check) .quiet file⟩) ∧
      Reports check results ((session arguments input).run w) := by
  obtain ⟨rfl, -⟩ := Formatter.formatFilesInTurns_eq_ok hsteady hreturns
  -- A failure that escapes would have kept the batch from returning.
  obtain ⟨-, hnone, -⟩ := Formatter.takeTurns_of_formatFilesInTurns hreturns
  obtain ⟨-, hcases⟩ := run_session_files hmakes hsteady hnames hasks input
  exact ⟨rfl, (hcases.resolve_left fun ⟨⟨file, hfile, hescapes⟩, _⟩ =>
    hescapes (hnone ⟨file, _⟩ (List.mem_map_of_mem hfile))).2⟩

/-- How many results a summary counts. -/
def counted (results : List FileResult) : Nat :=
  results.countP (·.isChanged) + results.countP (·.isUnchanged) +
    results.countP fun r => !r.isOk

/-- Checking files is a dry run of formatting them.  It leaves every file as it is, in whatever
order the tasks of the batch take turns.  Where there is no formatter, both sessions stop alike.
Otherwise both batches return or neither does.  Whenever a batch that checks and one that formats
return, in whatever orders, the sessions report their results, one for each file, and count the
files in full.  The results are the same but for the files that are to change and cannot be written:
those are announced by the one session, and fail in the other.  If there are none, then both
sessions list the same changed files and show the same failures. -/
theorem check_is_dry_run (hnames : inputMark ∉ names)
    {checkArguments arguments : List String} {document document' : Option String}
    (hcheck : Asks checkArguments general (.format ⟨names, true, false, document⟩))
    (hformat : Asks arguments general (.format ⟨names, false, false, document'⟩))
    (hsteady : ∀ f, general.Makes w f → f.SteadyFor w (names.map Path.parse)) (input : String) :
    let files := names.map Path.parse
    let dry := (session checkArguments input).run w
    let real := (session arguments input).run w
    dry.world.files = w.files ∧
      ((∀ f, ¬general.Makes w f) → dry = real) ∧
      ∀ f, general.Makes w f →
        (∀ turns, ((f.formatFilesInTurns files turns false .quiet).outcome w).2.files =
          w.files) ∧
        (dry.failure?.isSome = true ∧ real.failure?.isSome = true ∨
          ∀ write, ∃ results, ((f.formatFiles files write .quiet).outcome w).1 = .ok results) ∧
        ∀ turns turns' checked formatted later later',
          (f.formatFilesInTurns files turns false .quiet).outcome w =
              (.ok (some checked), later) →
          (f.formatFilesInTurns files turns' true .quiet).outcome w =
              (.ok (some formatted), later') →
            Reports true checked dry ∧ Reports false formatted real ∧
            checked.map FileResult.file = files ∧ formatted.map FileResult.file = files ∧
            counted checked = names.length ∧ counted formatted = names.length ∧
            List.Forall₂ (f.Foretells w) checked formatted ∧
            ((∀ file ∈ files, ∀ failure, ¬f.Unwritten w file failure) →
              formatted = checked ∧ dry.screen.errors = real.screen.errors) := by
  intro files dry real
  refine ⟨?_, ?_, ?_⟩
  · by_cases hmakes : ∃ f, general.Makes w f
    · obtain ⟨f, hmakes⟩ := hmakes
      exact (run_session_files hmakes (hsteady f hmakes) hnames hcheck input).1 rfl
    · obtain ⟨ended, hfiles, hall⟩ := run_session_of_not_makes (not_exists.mp hmakes)
      exact (congrArg (·.world.files) (hall hcheck input)).trans hfiles
  · intro hnone
    obtain ⟨ended, -, hall⟩ := run_session_of_not_makes hnone
    exact (hall hcheck input).trans (hall hformat input).symm
  intro f hmakes
  have hfilter := hsteady f hmakes
  refine ⟨fun turns => Formatter.files_formatFilesInTurns_check hfilter turns .quiet, ?_, ?_⟩
  · obtain ⟨-, hdry⟩ := run_session_files hmakes hfilter hnames hcheck input
    obtain ⟨-, hreal⟩ := run_session_files hmakes hfilter hnames hformat input
    simp only [Formatter.escaping?_resultAlone] at hdry hreal
    obtain ⟨⟨file, hfile, hescapes⟩, hfails⟩ | ⟨hnone, -⟩ := hdry
    · obtain ⟨-, hfails'⟩ | ⟨hnone, -⟩ := hreal
      · exact .inl ⟨hfails, hfails'⟩
      · exact absurd (hnone file hfile) hescapes
    · refine .inr fun write => ?_
      obtain ⟨file, hfile, failure, hfailure, -⟩ | ⟨-, later, hreturns, -⟩ :=
        Formatter.outcome_formatFiles hfilter.toFiltersFor write .quiet
      · rw [Formatter.escaping?_resultAlone, hnone file hfile] at hfailure
        cases hfailure
      · exact ⟨_, congrArg Prod.fst hreturns⟩
  · intro turns turns' checked formatted later later' hchecked hformatted
    obtain ⟨rfl, hdry⟩ := reports_of_formatFilesInTurns hmakes hfilter hnames hcheck input hchecked
    obtain ⟨rfl, hreal⟩ :=
      reports_of_formatFilesInTurns hmakes hfilter hnames hformat input hformatted
    have hfiles (write : Bool) : (files.map fun file =>
        (⟨file, f.resultAlone w write .quiet file⟩ : FileResult)).map FileResult.file = files := by
      rw [List.map_map]
      exact List.map_id _
    have hcounted (write : Bool) : counted (files.map fun file =>
        (⟨file, f.resultAlone w write .quiet file⟩ : FileResult)) = names.length := by
      rw [counted, countP_add_countP_add_countP, List.length_map, List.length_map]
    refine ⟨hdry, hreal, hfiles false, hfiles true, hcounted false, hcounted true, ?_, ?_⟩
    · rw [List.forall₂_map_left_iff, List.forall₂_map_right_iff]
      exact List.forall₂_same.mpr fun file _ => f.foretells_resultAlone w file
    · intro hwritten
      have hsame : (files.map fun file => (⟨file, f.resultAlone w true .quiet file⟩ : FileResult)) =
          files.map fun file => ⟨file, f.resultAlone w false .quiet file⟩ :=
        List.map_congr_left fun file hfile => by
          rw [Formatter.resultAlone_of_written (hwritten file hfile)]
      exact ⟨hsame, hdry.errors_eq (hsame ▸ hreal)⟩

end Runs

/-- A world with a formatter that prints backwards, a file that this changes, one that it does not
change, and one that it would change and that nobody may write. -/
def mixedWorld : World where
  files := ⟨[(["bin"], .directory), (["bin", "sqlfmt"], .program 0 0o755),
    (["a.sql"], .file [0x61, 0x62] 0o644), (["b.sql"], .file [0x61, 0x61] 0o644),
    (["d.sql"], .file [0x61, 0x62] 0o444)]⟩
  programs := fun _ => Formatter.backwards
  environment := [("HOME", "/")]
  directory := []
  log := []
  runs := []
  storage := ⟨false, fun _ _ => none⟩

/-- A file that is changed and listed twice, one that is not changed, one that is missing, and one
that cannot be written. -/
def mixedNames : List String := ["a.sql", "b.sql", "a.sql", "c.sql", "d.sql"]

/-- A file that is listed twice is announced twice by both sessions, although the one that formats
has written it back in between; and one that cannot be written is announced, and fails. -/
theorem check_is_dry_run_mixed :
    let dry := (session ("format" :: "--check" :: mixedNames) "").run mixedWorld
    let real := (session ("format" :: mixedNames) "").run mixedWorld
    dry.world.files = mixedWorld.files ∧
      dry.screen.output = "Would reformat a.sql\nWould reformat a.sql\nWould reformat d.sql\n" ++
        "3 file(s) would be reformatted, 1 unchanged, 1 failed\n" ∧
      real.screen.output = "✓ Reformatted a.sql\n✓ Reformatted a.sql\n" ++
        "2 file(s) reformatted, 1 unchanged, 2 failed\n" := by
  intro dry real
  have hsteady : ∀ f, General.Makes ⟨none, none, false⟩ mixedWorld f →
      f.SteadyFor mixedWorld (mixedNames.map Path.parse) :=
    fun f _ => Formatter.steadyFor_of_files (fun _ _ _ _ => rfl) (by decide +kernel) f
  have hmakes : General.Makes ⟨none, none, false⟩ mixedWorld bareFormatter :=
    makes_of_configured (by decide +kernel) (by decide +kernel)
  have hcheck : Asks ("format" :: "--check" :: mixedNames) ⟨none, none, false⟩
      (.format ⟨mixedNames, true, false, none⟩) :=
    ⟨.format, "--check" :: mixedNames, by rfl, by decide, by rfl⟩
  have hformat : Asks ("format" :: mixedNames) ⟨none, none, false⟩
      (.format ⟨mixedNames, false, false, none⟩) :=
    ⟨.format, mixedNames, by rfl, by decide, by rfl⟩
  obtain ⟨hkept, -, hall⟩ := check_is_dry_run (by decide) hcheck hformat hsteady ""
  obtain ⟨-, -, hreports⟩ := hall bareFormatter hmakes
  -- In these turns the second task of the first file runs after the first one has written.
  have hdone (write : Bool) : ((bareFormatter.formatFilesInTurns (mixedNames.map Path.parse)
      (Formatter.turnsInOrder 5) write .quiet).outcome mixedWorld).1.toOption.join.map
        (fun results => (changedFiles results, results.countP (·.isChanged),
          results.countP (·.isUnchanged), results.countP fun r => !r.isOk)) =
      some (if write then ([Path.parse "a.sql", Path.parse "a.sql"], 2, 1, 2)
        else ([Path.parse "a.sql", Path.parse "a.sql", Path.parse "d.sql"], 3, 1, 1)) := by
    cases write <;> decide +kernel
  have hreturns (write : Bool) : ∃ results later, (bareFormatter.formatFilesInTurns
      (mixedNames.map Path.parse) (Formatter.turnsInOrder 5) write .quiet).outcome mixedWorld =
        (.ok (some results), later) := by
    rcases houtcome : (bareFormatter.formatFilesInTurns (mixedNames.map Path.parse)
      (Formatter.turnsInOrder 5) write .quiet).outcome mixedWorld with
      ⟨failure | (_ | results), later⟩
    · simpa [houtcome, Except.toOption] using hdone write
    · simpa [houtcome, Except.toOption] using hdone write
    · exact ⟨results, later, rfl⟩
  obtain ⟨checked, later, hchecked⟩ := hreturns false
  obtain ⟨formatted, later', hformatted⟩ := hreturns true
  obtain ⟨hdry, hreal, -⟩ := hreports _ _ _ _ _ _ hchecked hformatted
  have hsome (results : List FileResult) (hkeeps : results.countP (·.isUnchanged) = 1) :
      ¬MissingForAll results := by
    rintro ⟨-, hmissing⟩
    obtain ⟨r, hr, hkeeps⟩ := List.countP_pos_iff.mp (by omega : 0 < results.countP
      (·.isUnchanged))
    obtain ⟨failure, houtcome, -⟩ := hmissing r hr
    simp [FileResult.isUnchanged, FileResult.isOk, houtcome, Except.toOption] at hkeeps
  have hlisted := hdone false
  have hlisted' := hdone true
  simp only [hchecked, hformatted, Except.toOption, Option.join_some, Option.map_some,
    Option.some.injEq, Prod.mk.injEq, if_true, Bool.false_eq_true, if_false] at hlisted hlisted'
  obtain ⟨hchanged, hchanges, hunchanged, hfailed⟩ := hlisted
  obtain ⟨hchanged', hchanges', hunchanged', hfailed'⟩ := hlisted'
  refine ⟨hkept, ?_, ?_⟩
  · rw [hdry.listed (hsome checked hunchanged), hchanged, hchanges, hunchanged, hfailed,
      announcements]
    simp only [List.map_cons, List.map_nil]
    rw [Console.plain_of_notMem (by decide), Console.plain_of_notMem (by decide)]
    rfl
  · rw [hreal.listed (hsome formatted hunchanged'), hchanged', hchanges', hunchanged', hfailed',
      announcements]
    simp only [List.map_cons, List.map_nil]
    rw [Console.plain_of_notMem (by decide)]
    rfl

/-- A world like that one with another formatter, which may look at the files and change them. -/
def meddledWorld (program : Program) : World :=
  { mixedWorld with programs := fun _ => program, storage := .ample }

/-- What the formatter must not do, and what must not be denied: checking writes a file if asking
the formatter for its version does; a formatter that prints what another file holds backwards finds
it changed by the one session and not by the other; and a file that nobody may write is announced by
the one session, and fails in the other. -/
theorem check_is_no_dry_run :
    let scribbling := meddledWorld fun call tree =>
      some ⟨0, call.input, [], if call.arguments = ["--version"] then
        tree.overwrite ["a.sql"] [] else tree⟩
    let peeking := meddledWorld fun _ tree =>
      some ⟨0, (tree.bytesAt ["a.sql"]).reverse, [], tree⟩
    ((session ["format", "--check", "a.sql"] "").run scribbling).world.files.bytesAt ["a.sql"] ≠
        scribbling.files.bytesAt ["a.sql"] ∧
      ((session ["format", "--check", "a.sql", "d.sql"] "").run peeking).screen.output =
        "Would reformat a.sql\nWould reformat d.sql\n" ++
          "2 file(s) would be reformatted, 0 unchanged, 0 failed\n" ∧
      ((session ["format", "a.sql", "d.sql"] "").run peeking).screen.output =
        "✓ Reformatted a.sql\n1 file(s) reformatted, 1 unchanged, 0 failed\n" ∧
      ((session ["format", "--check", "d.sql"] "").run mixedWorld).screen =
        ⟨"Would reformat d.sql\n1 file(s) would be reformatted, 0 unchanged, 0 failed\n", ""⟩ ∧
      ((session ["format", "d.sql"] "").run mixedWorld).screen =
        ⟨"0 file(s) reformatted, 0 unchanged, 1 failed\n",
          "✗ d.sql\nError: [Errno 13] Permission denied: 'd.sql'\n"⟩ := by
  decide +kernel

end CommandLine

end FormatLauncher
