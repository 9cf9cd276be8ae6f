/-
# What formatting in place names

The formatter is given the files as the caller spelled them, and it is started in the folder of the
first of them.  So a target is the caller's file when the place where its fall begins is the same
from both directories: for an absolute target always, and for a target that falls straight down
without meeting a link only then.
-/

import FormatLauncher.Proofs.FileTree.Walk
import FormatLauncher.Proofs.Preparing

namespace FormatLauncher.Formatter

open Action

theorem reads_announceAll (files : List Path) :
    (forIn files PUnit.unit fun file _ => do
      announce file.text
      pure (ForInStep.yield PUnit.unit) : Action PUnit).Reads := by
  induction files with
  | nil => exact reads_pure _
  | cons file rest ih =>
      rw [List.forIn_cons, bind_assoc]
      exact (reads_announce _).bind fun _ => by simpa using ih

/-- In-place work starts what it says, or nothing. -/
theorem runs_inPlace (command : String) (arguments targets : List String)
    (terms : Execution.Terms) (w : World) :
    ((Execution.inPlace command arguments targets terms).outcome w).2.runs = w.runs ∨
      ∃ ready finished,
        Launch.start w command (arguments ++ targets) terms.directory = .ok ready ∧
        ((Execution.inPlace command arguments targets terms).outcome w).2.runs =
          w.runs ++ [ready.run finished] := by
  cases hstart : Launch.start w command (arguments ++ targets) terms.directory with
  | error refusal =>
      obtain ⟨_, hw⟩ := Execution.outcome_inPlace_of_refused hstart
      exact .inl (by simp [hw])
  | ok ready =>
      obtain ⟨announced, _, hw⟩ := Execution.outcome_inPlace_of_started hstart
      obtain ⟨finished, hruns⟩ :=
        Locator.runs_supervise ready [] terms.limit terms.schedule (w.logging announced)
      exact .inr ⟨ready, finished, rfl, by simpa [hw] using hruns⟩

/-- A request in place that starts a second program starts what was prepared for the folder of the
first file, with the files as its last arguments. -/
theorem formatInPlace_prepared {f : Formatter} {first : Path} {rest : List Path}
    {schedule : Schedule} {w : World} {query run : Run}
    (hruns : ((f.formatInPlace (first :: rest) schedule).outcome w).2.runs =
      w.runs ++ [query, run]) :
    ∃ folder invocation ready finished,
      ((f.folderFor (some first)).outcome w).1 = .ok folder ∧
      ((f.prepare folder schedule).outcome w).1 = .ok invocation ∧
      Launch.start ((f.prepare folder schedule).outcome w).2 invocation.command
        (invocation.arguments ++ (first :: rest).map Path.text) invocation.directory = .ok ready ∧
      run = ready.run finished := by
  -- Whatever ends before the formatter is started has too few runs.
  have hstarts {runs : List Run} (hle : runs.length ≤ 1) :
      w.runs ++ [query, run] ≠ w.runs ++ runs := by
    intro hsame
    have hlength := congrArg List.length hsame
    simp at hlength
    omega
  have hempty : w.runs ++ [query, run] ≠ w.runs := by simp
  unfold formatInPlace at hruns
  obtain ⟨_, announced, -, hannounced⟩ := (reads_announceAll (first :: rest)).bind_of_runs
    fun hsame => hempty (hruns.symm.trans hsame)
  rw [hannounced] at hruns
  obtain ⟨folder, chosen, hfolder, hchosen⟩ := (f.reads_folderFor (some first)).bind_of_runs
    fun hsame => hempty (hruns.symm.trans hsame)
  rw [hchosen, World.logging_logging, outcome_bind] at hruns
  obtain ⟨-, prepareRuns, hprepared, hle⟩ :=
    f.startsAtMost_prepare folder schedule (w.logging (announced ++ chosen))
  obtain ⟨hinvocation, hscene⟩ :=
    f.ignoresHistory_prepare folder schedule (w.logging (announced ++ chosen)) w (by simp)
  rcases hprepare : (f.prepare folder schedule).outcome (w.logging (announced ++ chosen)) with
    ⟨failure | invocation, prepared⟩
  · rw [hprepare] at hruns hprepared
    exact absurd (hruns.symm.trans hprepared) (hstarts hle)
  · rw [hprepare] at hruns hinvocation hscene
    obtain ⟨_, _, -, -, query', hquery⟩ := outcome_prepare_eq_ok hprepare
    rcases runs_inPlace invocation.command invocation.arguments ((first :: rest).map Path.text)
      (f.terms invocation schedule) prepared with hsame | ⟨ready, finished, hstart, hready⟩
    · exact absurd (hruns.symm.trans (hsame.trans hquery)) (hstarts (by simp))
    · dsimp only at hruns
      rw [hready, hquery] at hruns
      refine ⟨folder, invocation, ready, finished, ?_, hinvocation.symm, ?_, ?_⟩
      · rw [← hfolder]
        exact ((f.reads_folderFor (some first)).ignoresHistory _ _ (by simp)).1
      · rw [← Launch.start_eq_of_scene_eq hscene]
        exact hstart
      · simp at hruns
        exact hruns.2.symm

/-- A request in place that starts a second program starts the formatter, with the files as its last
arguments. -/
theorem formatInPlace_started {f : Formatter} {first : Path} {rest : List Path}
    {schedule : Schedule} {w : World} {query run : Run}
    (hruns : ((f.formatInPlace (first :: rest) schedule).outcome w).2.runs =
      w.runs ++ [query, run]) :
    ∃ folder plan command prepared ready finished,
      ((f.folderFor (some first)).outcome w).1 = .ok folder ∧ f.Commands w folder plan command ∧
      prepared.directory = w.directory ∧
      Launch.start prepared command (plan.arguments ++ (first :: rest).map Path.text)
        (plan.invocationOf command).directory = .ok ready ∧ run = ready.run finished := by
  obtain ⟨folder, invocation, ready, finished, hfolder, hprepare, hstart, hrun⟩ :=
    formatInPlace_prepared hruns
  obtain ⟨plan, command, hcommands, rfl, -⟩ := outcome_prepare_eq_ok (Prod.ext hprepare rfl)
  exact ⟨folder, plan, command, _, ready, finished, hfolder, hcommands,
    (f.startsAtMost_prepare folder schedule w).1, hstart, hrun⟩

/-- What a request in place hands over.  The formatter is started with the paths as its last
arguments, in the folder of the first path, or in the current directory if it has none.  In every
tree in which both directories are there, a target whose fall begins at the same place from both
names what the caller named; and of the targets that fall straight down without a link and name
something, no others do. -/
theorem formatInPlace_targets {f : Formatter} {paths : List String} {schedule : Schedule}
    {w : World} {query run : Run}
    (hruns : ((f.formatInPlace (paths.map Path.parse) schedule).outcome w).2.runs =
      w.runs ++ [query, run]) :
    (∃ before, run.arguments = before ++ (paths.map Path.parse).map Path.text) ∧
      (∃ folder, ((f.folderFor (paths.head?.map Path.parse)).outcome w).1 = .ok folder ∧
        match folder with
        | none => run.directory = w.directory
        | some folder => ∃ tree : FileTree,
          tree.find w.directory folder.place.text = .ok (run.directory, .directory)) ∧
      ∀ path ∈ paths.map Path.parse, ∀ tree : FileTree,
        tree.IsOpen w.directory → tree.IsOpen run.directory →
        (path.base run.directory = path.base w.directory →
          tree.find? run.directory path.text = tree.find? w.directory path.text) ∧
        (".." ∉ path.fall → tree.FreeOfLinks (path.base w.directory) path.fall →
          tree.FreeOfLinks (path.base run.directory) path.fall →
          (tree.find? w.directory path.text).isSome = true →
          (tree.find? run.directory path.text = tree.find? w.directory path.text ↔
            path.base run.directory = path.base w.directory)) := by
  cases paths with
  | nil =>
      have hlength := congrArg List.length hruns
      simp [formatInPlace] at hlength
  | cons first rest =>
      obtain ⟨folder, plan, command, prepared, ready, finished, hfolder, hcommands, hdirectory,
        hstart, rfl⟩ := formatInPlace_started hruns
      obtain ⟨-, hplace, before, hbefore⟩ := Launch.start_eq_ok hstart
      refine ⟨⟨before ++ plan.arguments, by simp [Launch.Ready.run, hbefore]⟩,
        ⟨folder, hfolder, ?_⟩, fun path hpath tree hopen hopen' => ?_⟩
      · have hplan := (folder_and_tool_of_plan hcommands.1).1
        rw [Plan.invocationOf, hplan] at hplace
        rw [← hdirectory]
        cases folder with
        | none => exact (Except.ok.inj hplace).symm
        | some folder => exact ⟨prepared.files, Launch.find_of_startDirectory hplace⟩
      · have hnames : ∀ name ∈ path.names, Path.IsName name := by
          obtain ⟨spelling, -, rfl⟩ := List.mem_map.mp hpath
          exact fun _ => Path.isName_of_mem_parse
        exact ⟨FileTree.find?_text_congr hnames hopen hopen', fun hfall hfree hfree' hfound =>
          FileTree.find?_text_eq_iff hnames hopen hopen' hfall hfree hfree' hfound⟩

/-- A world with a workspace folder that holds one file, and a formatter outside it. -/
def folderWorld : World where
  files := ⟨[(["bin"], .directory), (["bin", "sqlfmt"], .program 0 0o755), (["proj"], .directory),
    (["proj", "a.sql"], .file [] 0o644)]⟩
  programs := fun _ _ tree => some ⟨0, [], [], tree⟩
  environment := []
  directory := []
  log := []
  runs := []

/-- A formatter with that workspace folder, with no limits. -/
def folderFormatter : Formatter where
  settings := { Settings.default with probeLimit := none }
  workspace := ⟨some ["proj"], []⟩
  interpreters := .given []
  environment := none
  tool := .sqlfmt

/-- A relative target that leads into a workspace folder is not what the caller named. -/
theorem formatInPlace_targets_missed :
    ∃ query run : Run,
      ((folderFormatter.formatInPlace (["proj/a.sql"].map Path.parse) .quiet).outcome
        folderWorld).2.runs = folderWorld.runs ++ [query, run] ∧
      folderWorld.files.find? run.directory (Path.parse "proj/a.sql").text ≠
        folderWorld.files.find? folderWorld.directory (Path.parse "proj/a.sql").text := by
  have hruns : ((folderFormatter.formatInPlace (["proj/a.sql"].map Path.parse) .quiet).outcome
      folderWorld).2.runs = folderWorld.runs ++ [⟨"/bin/sqlfmt", [], ["--version"], true⟩,
        ⟨"/bin/sqlfmt", ["proj"], ["proj/a.sql"], true⟩] := by decide +kernel
  refine ⟨_, _, hruns, ?_⟩
  have hfree := FileTree.freeOfLinks_of_linkCount (by decide : folderWorld.files.linkCount = 0)
  have hopen : folderWorld.files.IsOpen ["proj"] :=
    (FileTree.isOpen_root folderWorld.files).child (by decide)
  have hexact := ((formatInPlace_targets hruns).2.2 (Path.parse "proj/a.sql") (by simp)
    folderWorld.files (FileTree.isOpen_root _) hopen).2 (by decide +kernel) (hfree _ _) (hfree _ _)
    (by decide +kernel)
  rw [Ne, hexact]
  decide +kernel

end FormatLauncher.Formatter
