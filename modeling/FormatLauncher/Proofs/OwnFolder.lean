/-
# For which folder the formatter is run

A process is made from what a folder provides: its working directory, the text that stands for the
workspace folder, the interpreters and with them the command and the arguments.  As a filter the
formatter is run for one file, and it is made for the folder of that file, in a batch as well.  In
place it is run for all files at once, and it is made for the folder of the first one.
-/

import FormatLauncher.Proofs.AnyOrder
import FormatLauncher.Proofs.Verified
import FormatLauncher.Proofs.Workspace

namespace FormatLauncher.Formatter

open Action

/-- How a process is made: the context and the interpreters that its command and its arguments are
found with, and what is run. -/
structure Making where
  context : Placeholder.Context
  interpreter : Option (List String)
  invocation : Invocation

/-- What preparing for a folder computes in a world. -/
structure MakesFor (f : Formatter) (w : World) (schedule : Schedule) (folder : Option Folder)
    (making : Making) : Prop where
  surroundings : ((f.surroundings folder).outcome w).1 = .ok (making.context, making.interpreter)
  invocation : ((f.prepare folder schedule).outcome w).1 = .ok making.invocation

/-- The process that is made this way was started, with these arguments after its own. -/
def Making.Starts (making : Making) (v : World) (following : List String) (run : Run) : Prop :=
  ∃ ready finished, Launch.start v making.invocation.command
    (making.invocation.arguments ++ following) making.invocation.directory = .ok ready ∧
      run = ready.run finished

/-- A run is made for a folder. -/
def RunFor (f : Formatter) (w : World) (schedule : Schedule) (folder : Option Folder)
    (following : List String) (run : Run) : Prop :=
  ∃ making, f.MakesFor w schedule folder making ∧
    making.Starts ((f.prepare folder schedule).outcome w).2 following run

/-- Whatever is prepared is made of the surroundings of its folder. -/
theorem exists_makesFor {f : Formatter} {w : World} {schedule : Schedule} {folder : Option Folder}
    {invocation : Invocation} (h : ((f.prepare folder schedule).outcome w).1 = .ok invocation) :
    ∃ making, making.invocation = invocation ∧ f.MakesFor w schedule folder making := by
  obtain ⟨plan, command, hcommands, -, -⟩ := outcome_prepare_eq_ok (Prod.ext h rfl)
  obtain ⟨context, interpreter, _, hsurroundings, -⟩ := plan_eq_ok hcommands.1
  exact ⟨⟨context, interpreter, invocation⟩, rfl, hsurroundings, h⟩

/-- The working directory and the text for the workspace folder are the place of the folder. -/
theorem MakesFor.place {f : Formatter} {w : World} {schedule : Schedule} {folder : Option Folder}
    {making : Making} (h : f.MakesFor w schedule folder making) :
    making.invocation.directory = folder.map (·.place.text) ∧
      making.context.root = folder.map (·.place.text) := by
  obtain ⟨plan, command, hcommands, hinvocation, -⟩ :=
    outcome_prepare_eq_ok (Prod.ext h.invocation rfl)
  obtain ⟨_, -, hcontext⟩ := surroundings_eq_ok h.surroundings
  constructor
  · rw [hinvocation, Plan.invocationOf, (folder_and_tool_of_plan hcommands.1).1]
  · rw [hcontext]

/-- Folders at one place provide the same. -/
theorem surroundings_congr (f : Formatter) {folder other : Option Folder}
    (hplace : folder.map Folder.place = other.map Folder.place) :
    f.surroundings folder = f.surroundings other := by
  have hmap {α : Type} (g : Location → α) :
      folder.map (fun folder => g folder.place) = other.map (fun folder => g folder.place) := by
    simpa [Function.comp_def] using congrArg (Option.map g) hplace
  simp only [surroundings, hmap Path.ofLocation, hmap Location.text]

/-- What is computed for a folder depends on its place only. -/
theorem MakesFor.congr {f : Formatter} {w : World} {schedule : Schedule}
    {folder other : Option Folder} {making : Making} (h : f.MakesFor w schedule folder making)
    (hplace : folder.map Folder.place = other.map Folder.place) :
    f.MakesFor w schedule other making := by
  have hsurroundings := surroundings_congr f hplace
  have hdirectory : folder.map (·.place.text) = other.map (·.place.text) := by
    simpa [Function.comp_def] using congrArg (Option.map Location.text) hplace
  refine ⟨hsurroundings ▸ h.surroundings, ?_⟩
  rw [← h.invocation, result_prepare, result_prepare, result_plan, result_plan, hsurroundings]
  cases ((f.surroundings other).outcome w).1 with
  | error failure => rfl
  | ok known =>
      rcases known with ⟨context, interpreter⟩
      dsimp only [Except.bind]
      cases ((Placeholder.resolve f.settings.arguments context interpreter
          f.settings.strict).outcome w).1 with
      | error failure => rfl
      | ok arguments => simp only [Except.map, Plan.invocationOf, hdirectory]

/-- Places that are made of names are told apart by their texts. -/
theorem place_eq_of_text_eq {place other : Location} (hplace : ∀ name ∈ place, Path.IsName name)
    (hother : ∀ name ∈ other, Path.IsName name) (htext : place.text = other.text) :
    place = other := by
  have hparse := congrArg Path.parse htext
  rw [Location.text, Location.text, Path.parse_text (p := .ofLocation place) hplace,
    Path.parse_text (p := .ofLocation other) hother] at hparse
  exact congrArg Path.names hparse

/-! ## As a filter -/

/-- A filter that succeeds was started once. -/
theorem runs_asFilter {command : String} {arguments : List String} {text after : String}
    {terms : Execution.Terms} {w : World}
    (h : ((Execution.asFilter command arguments text terms).outcome w).1 = .ok after) :
    ∃ ready finished,
      Launch.start w command (arguments ++ [Execution.inputMark]) terms.directory = .ok ready ∧
      ((Execution.asFilter command arguments text terms).outcome w).2.runs =
        w.runs ++ [ready.run finished] := by
  obtain ⟨ready, _, hstart, -⟩ := Execution.asFilter_eq_ok h
  obtain ⟨announced, _, hw⟩ := Execution.outcome_asFilter_of_started hstart text
  obtain ⟨finished, hruns⟩ := Locator.runs_supervise ready (Text.Utf8.encode text) terms.limit
    terms.schedule (w.logging announced)
  exact ⟨ready, finished, hstart, by simpa [hw] using hruns⟩

/-- A filter is started once at most. -/
theorem startsAtMost_asFilter (command : String) (arguments : List String) (text : String)
    (terms : Execution.Terms) :
    (Execution.asFilter command arguments text terms).StartsAtMost 1 := by
  intro w
  cases hstart : Launch.start w command (arguments ++ [Execution.inputMark]) terms.directory with
  | error refusal =>
      obtain ⟨_, hw⟩ := Execution.outcome_asFilter_of_refused hstart text
      exact ⟨by simp [hw], [], by simp [hw]⟩
  | ok ready =>
      obtain ⟨announced, _, hw⟩ := Execution.outcome_asFilter_of_started hstart text
      have hsupervise := Locator.startsAtMost_supervise ready (Text.Utf8.encode text) terms.limit
        terms.schedule (w.logging announced)
      simpa [hw] using hsupervise

/-- The formatter is started once at most for a planned file. -/
theorem startsAtMost_print (f : Formatter) (draft : Draft) (located : Locator.Outcome)
    (schedule : Schedule) : (f.print draft located schedule).StartsAtMost 1 :=
  ((reads_ofExcept located).startsAtMost 0).bind fun resolved =>
    ((f.reads_invocation draft.plan resolved).startsAtMost 0).bind fun _ =>
      startsAtMost_asFilter _ _ _ _

/-- Writing back starts nothing. -/
theorem runs_writeBack (file : Path) (before after : String) (write : Bool) (w : World) :
    ((writeBack file before after write).outcome w).2.runs = w.runs := by
  rw [writeBack]
  split
  · rfl
  · cases write with
    | false => rfl
    | true =>
        simp only [if_true, outcome_bind, outcome_get, outcome_ofExcept]
        rcases Contents.write w file (Text.Utf8.encode after) with ⟨_ | _, _⟩ <;> rfl

/-- A text that is formatted is formatted by a process that is made for the folder of its
document. -/
theorem runFor_formatText {f : Formatter} {text after : String} {document : Option String}
    {schedule : Schedule} {w : World}
    (h : ((f.formatText text document schedule).outcome w).1 = .ok after) :
    ∃ folder query run, f.workspace.folderFor w (document.map Path.parse) = .ok folder ∧
      ((f.formatText text document schedule).outcome w).2.runs = w.runs ++ [query, run] ∧
      f.RunFor w schedule folder [Execution.inputMark] run := by
  obtain ⟨announced, hannounce⟩ : ∃ announced, (announce (document.getD inputName)).outcome w =
      (.ok (), w.logging announced) := ⟨_, rfl⟩
  rw [formatText, outcome_bind, hannounce] at h ⊢
  dsimp only at h ⊢
  rw [outcome_bind, outcome_folderFor] at h ⊢
  cases hfolder : f.workspace.folderFor (w.logging announced) (document.map Path.parse) with
  | error failure => simp [hfolder] at h
  | ok folder =>
      obtain ⟨hinvocation, hscene⟩ :=
        f.ignoresHistory_prepare folder schedule (w.logging announced) w (by simp)
      simp only [hfolder, outcome_bind] at h ⊢
      rcases hprepare : (f.prepare folder schedule).outcome (w.logging announced) with
        ⟨failure | invocation, prepared⟩
      · simp [hprepare] at h
      · simp only [hprepare] at h hinvocation hscene ⊢
        obtain ⟨_, _, -, -, query, hquery⟩ := outcome_prepare_eq_ok hprepare
        obtain ⟨ready, finished, hstart, hruns⟩ := runs_asFilter h
        obtain ⟨making, rfl, hmaking⟩ := exists_makesFor hinvocation.symm
        refine ⟨folder, query, ready.run finished, hfolder, ?_, making, hmaking, ready, finished,
          ?_, rfl⟩
        · simp [hruns, hquery]
        · rw [← Launch.start_eq_of_scene_eq hscene]
          exact hstart

/-- A file that is formatted is formatted by a process that is made for its folder. -/
theorem runFor_formatFile {f : Formatter} {name : String} {write changed : Bool}
    {schedule : Schedule} {w : World}
    (h : ((f.formatFile (Path.parse name) write schedule).outcome w).1 = .ok changed) :
    ∃ folder query run, f.workspace.folderFor w (some (Path.parse name)) = .ok folder ∧
      ((f.formatFile (Path.parse name) write schedule).outcome w).2.runs =
        w.runs ++ [query, run] ∧
      f.RunFor w schedule folder [Execution.inputMark] run := by
  rw [formatFile, outcome_get_bind, outcome_ofExcept_bind] at h ⊢
  cases hread : readText w (Path.parse name) with
  | error failure => simp [hread] at h
  | ok before =>
      simp only [hread, outcome_bind] at h ⊢
      rcases hformat : (f.formatText before (some (Path.parse name).text) schedule).outcome w with
        ⟨failure | after, formatted⟩
      · simp [hformat] at h
      · obtain ⟨folder, query, run, hfolder, hruns, hrun⟩ :=
          runFor_formatText (congrArg Prod.fst hformat)
        rw [hformat] at hruns
        rw [Option.map_some, Path.parse_text_parse] at hfolder
        exact ⟨folder, query, run, hfolder, by simpa [runs_writeBack] using hruns, hrun⟩

/-! ## In a batch -/

/-- One of some runs is made for the folder of a file. -/
def Served (f : Formatter) (w : World) (schedule : Schedule) (runs : List Run) (file : Path) :
    Prop :=
  ∃ folder run, f.workspace.folderFor w (some file) = .ok folder ∧ run ∈ runs ∧
    f.RunFor w schedule folder [Execution.inputMark] run

/-- A file that the formatter printed something for was served. -/
def Stage.Served (f : Formatter) (w : World) (schedule : Schedule) (runs : List Run) (file : Path) :
    Stage → Prop
  | .planned _ => True
  | .printed _ _ => f.Served w schedule runs file
  | .settled outcome => ∀ changed, outcome = .ok changed → f.Served w schedule runs file

/-- The files of a batch were served by these runs. -/
def Progress.Served (f : Formatter) (w : World) (schedule : Schedule) (runs : List Run)
    (progress : Progress) : Prop :=
  ∀ file (stage : Stage), (file, stage) ∈ progress.stages → stage.Served f w schedule runs file

section Batch

variable {f : Formatter} {w v : World} {files written : List Path} {write : Bool}
  {schedule : Schedule} {runs more : List Run} {progress : Progress}

theorem Served.mono {file : Path} (h : f.Served w schedule runs file) :
    f.Served w schedule (runs ++ more) file := by
  obtain ⟨folder, run, hfolder, hrun, hfor⟩ := h
  exact ⟨folder, run, hfolder, List.mem_append_left _ hrun, hfor⟩

theorem Stage.Served.mono {file : Path} {stage : Stage} (h : stage.Served f w schedule runs file) :
    stage.Served f w schedule (runs ++ more) file := by
  cases stage with
  | planned draft => trivial
  | printed before after => exact Formatter.Served.mono h
  | settled outcome => exact fun changed hchanged => (h changed hchanged).mono

/-- A file comes to another stage, and some more programs were started. -/
theorem Progress.Served.put (h : progress.Served f w schedule runs) {n : Nat} {file : Path}
    {new : Stage} (hnew : new.Served f w schedule (runs ++ more) file) :
    (progress.put n file new).Served f w schedule (runs ++ more) := by
  intro other stage hmem
  obtain hmem | heq := List.mem_or_eq_of_mem_set hmem
  · exact (h other stage hmem).mono
  · obtain ⟨rfl, rfl⟩ := Prod.mk.inj heq
    exact hnew

/-- At the start of a batch nothing was printed for any file. -/
theorem served_start (drafts : List (Path × Except Failure Draft)) :
    (Progress.start drafts).Served f w schedule runs := by
  intro file stage hmem
  obtain ⟨⟨_, draft⟩, -, hsame⟩ := List.mem_map.mp hmem
  obtain ⟨rfl, rfl⟩ := Prod.mk.inj hsame
  cases draft with
  | ok draft => trivial
  | error failure => exact fun _ hchanged => by cases hchanged

/-- A draft is made from the folder of its file. -/
theorem folder_of_draft {file : Path} {draft : Draft}
    (h : ((f.draft file).outcome w).1 = .ok draft) :
    ∃ folder, f.workspace.folderFor w (some file) = .ok folder ∧
      ((f.plan folder).outcome w).1 = .ok draft.plan := by
  rw [result_draft] at h
  obtain ⟨_, -, h⟩ := except_bind_eq_ok.mp h
  obtain ⟨folder, hfolder, h⟩ := except_bind_eq_ok.mp h
  obtain ⟨plan, hplan, rfl⟩ := except_map_eq_ok.mp h
  exact ⟨folder, hfolder, hplan⟩

variable (hsteady : f.SteadyFor w files)

include hsteady in
/-- What is printed for a file of a batch is printed by a process that is made for its folder. -/
theorem runFor_print (hsound : progress.Sound f w files write schedule written v) {file : Path}
    {draft : Draft} (hdraft : ((f.draft file).outcome w).1 = .ok draft) {after : String}
    (hprint : ((f.print draft (Locator.Cache.alone w f.probeLimit schedule draft.plan.query)
      schedule).outcome v).1 = .ok after) :
    ∃ folder run, f.workspace.folderFor w (some file) = .ok folder ∧
      ((f.print draft (Locator.Cache.alone w f.probeLimit schedule draft.plan.query)
        schedule).outcome v).2.runs = v.runs ++ [run] ∧
      f.RunFor w schedule folder [Execution.inputMark] run := by
  obtain ⟨folder, hfolder, hplan⟩ := folder_of_draft hdraft
  rw [print, outcome_ofExcept_bind, Locator.Cache.alone] at hprint ⊢
  cases hlocated : ((Locator.locate draft.plan.query f.probeLimit schedule).outcome w).1 with
  | error failure => simp [hlocated] at hprint
  | ok resolved =>
      obtain ⟨records, hv⟩ := f.answers_invocation draft.plan resolved v
      simp only [hlocated, outcome_bind, hv] at hprint ⊢
      cases havailable : resolved.isAvailable with
      | false => simp [havailable] at hprint
      | true =>
          simp only [havailable, if_true] at hprint ⊢
          obtain ⟨ready, finished, hstart, hruns⟩ := runs_asFilter hprint
          have hcommands : f.Commands w folder draft.plan resolved.path :=
            ⟨hplan, (Locator.locate_eq_available (Prod.ext hlocated rfl) havailable).1⟩
          have hprepare : ((f.prepare folder schedule).outcome w).1 =
              .ok (draft.plan.invocationOf resolved.path) := by
            simp [result_prepare, hplan, hlocated, havailable, Except.bind]
          obtain ⟨making, hmaking, hmakes⟩ := exists_makesFor hprepare
          refine ⟨folder, ready.run finished, hfolder, hruns, making, hmakes, ready, finished, ?_,
            rfl⟩
          -- Neither the files written back so far nor the version query keep it from starting.
          rw [hmaking, Launch.start_eq_of_scene_eq
            (keepsScene_prepare hsteady.leaves folder schedule w rfl), ← hstart]
          exact (start_eq_of_agreesOff hsteady.toFiltersFor hsound.agreesOff hcommands
            (by simpa using hsound.scene) _).symm

/-- Locating a query leaves the files of a batch served. -/
theorem served_takeTurn_locate (h : progress.Served f w schedule runs)
    (hruns : v.runs = w.runs ++ runs) {n : Nat} {file : Path} {draft : Draft}
    (hstage : progress.stages[n]? = some (file, .planned draft)) {progress' : Progress}
    {later : World}
    (hturn : (f.takeTurn write schedule progress (.locate n)).outcome v = (.ok progress', later)) :
    ∃ runs', later.runs = w.runs ++ runs' ∧ progress'.Served f w schedule runs' := by
  simp only [takeTurn, hstage] at hturn
  obtain ⟨⟨outcome, cache⟩, between, hlocate, hpure⟩ := outcome_bind_eq_ok.mp hturn
  obtain ⟨rfl, rfl⟩ : { progress with cache } = progress' ∧ between = later := by
    simpa using hpure
  obtain ⟨more, hmore⟩ : ∃ more, between.runs = v.runs ++ more := by
    obtain ⟨known, -, houtcome⟩ | ⟨-, after, houtcome, -⟩ :=
      progress.cache.outcome_locate_cases draft.plan.query f.probeLimit schedule v
    · rw [houtcome] at hlocate
      obtain rfl : v = between := congrArg Prod.snd hlocate
      exact ⟨[], by simp⟩
    · rw [houtcome] at hlocate
      obtain rfl : _ = between := congrArg Prod.snd hlocate
      obtain ⟨-, more, hmore, -⟩ :=
        Locator.startsAtMost_locate draft.plan.query f.probeLimit schedule v
      exact ⟨more, hmore⟩
  exact ⟨runs ++ more, by rw [hmore, hruns, List.append_assoc],
    fun file stage hmem => (h file stage hmem).mono⟩

include hsteady in
/-- Running the formatter for a file serves it, if something was printed. -/
theorem served_takeTurn_print (hsound : progress.Sound f w files write schedule written v)
    (h : progress.Served f w schedule runs) (hruns : v.runs = w.runs ++ runs) {n : Nat}
    {file : Path} {draft : Draft} (hstage : progress.stages[n]? = some (file, .planned draft))
    {located : Locator.Outcome}
    (hknown : progress.cache.outcome? draft.plan.query.key = some located) {progress' : Progress}
    {later : World}
    (hturn : (f.takeTurn write schedule progress (.print n)).outcome v = (.ok progress', later)) :
    ∃ runs', later.runs = w.runs ++ runs' ∧ progress'.Served f w schedule runs' := by
  obtain ⟨-, hdraft⟩ := hsound.mem_of_stage hstage
  obtain ⟨folder, -, hplan⟩ := folder_of_draft hdraft
  obtain rfl := hsound.known folder draft.plan hplan located hknown
  obtain ⟨records, hcollecting⟩ := outcome_collecting file (f.print draft
    (Locator.Cache.alone w f.probeLimit schedule draft.plan.query) schedule) v
  simp only [takeTurn, hstage, hknown, outcome_bind, hcollecting, outcome_pure, Prod.mk.injEq,
    Except.ok.injEq] at hturn
  obtain ⟨rfl, rfl⟩ := hturn
  cases hprint : ((f.print draft (Locator.Cache.alone w f.probeLimit schedule draft.plan.query)
      schedule).outcome v).1 with
  | error failure =>
      obtain ⟨-, more, hmore, -⟩ := f.startsAtMost_print draft
        (Locator.Cache.alone w f.probeLimit schedule draft.plan.query) schedule v
      exact ⟨runs ++ more, by simp [hmore, hruns],
        h.put fun changed hchanged => by cases hchanged⟩
  | ok after =>
      obtain ⟨folder, run, hfolder, hrun, hfor⟩ := runFor_print hsteady hsound hdraft hprint
      exact ⟨runs ++ [run], by simp [hrun, hruns], h.put ⟨folder, run, hfolder, by simp, hfor⟩⟩

/-- Writing back leaves the files of a batch served. -/
theorem served_takeTurn_write (h : progress.Served f w schedule runs)
    (hruns : v.runs = w.runs ++ runs) {n : Nat} {file : Path} {before after : String}
    (hstage : progress.stages[n]? = some (file, .printed before after)) {progress' : Progress}
    {later : World}
    (hturn : (f.takeTurn write schedule progress (.write n)).outcome v = (.ok progress', later)) :
    ∃ runs', later.runs = w.runs ++ runs' ∧ progress'.Served f w schedule runs' := by
  obtain ⟨records, hcollecting⟩ :=
    outcome_collecting file (writeBack file before after write) v
  simp only [takeTurn, hstage, outcome_bind, hcollecting, outcome_pure, Prod.mk.injEq,
    Except.ok.injEq] at hturn
  obtain ⟨rfl, rfl⟩ := hturn
  have hserved : f.Served w schedule runs file :=
    h file (.printed before after) (List.mem_of_getElem? hstage)
  refine ⟨runs ++ [], by simp [runs_writeBack, hruns], h.put fun changed _ => hserved.mono⟩

include hsteady in
/-- One step: whatever turn comes next, the files of a batch are served by its runs. -/
theorem served_takeTurn (hsound : progress.Sound f w files write schedule written v)
    (h : progress.Served f w schedule runs) (hruns : v.runs = w.runs ++ runs) (turn : Turn)
    {progress' : Progress} {later : World}
    (hturn : (f.takeTurn write schedule progress turn).outcome v = (.ok progress', later)) :
    ∃ runs', later.runs = w.runs ++ runs' ∧ progress'.Served f w schedule runs' := by
  by_cases hready : turn.Ready progress
  · cases hready with
    | locate hstage => exact served_takeTurn_locate h hruns hstage hturn
    | print hstage hknown =>
        exact served_takeTurn_print hsteady hsound h hruns hstage hknown hturn
    | write hstage => exact served_takeTurn_write h hruns hstage hturn
  · rw [takeTurn_of_not_ready hready] at hturn
    obtain ⟨rfl, rfl⟩ : progress = progress' ∧ v = later := by simpa using hturn
    exact ⟨runs, hruns, h⟩

include hsteady in
/-- Whatever turns are taken, the files of a batch are served by its runs, by induction on the
turns. -/
theorem served_takeTurns (hsound : progress.Sound f w files write schedule written v)
    (h : progress.Served f w schedule runs) (hruns : v.runs = w.runs ++ runs) (turns : List Turn)
    {progress' : Progress} {later : World}
    (hturns : (f.takeTurns write schedule progress turns).outcome v = (.ok progress', later)) :
    ∃ runs', later.runs = w.runs ++ runs' ∧ progress'.Served f w schedule runs' := by
  induction turns generalizing progress written v runs with
  | nil =>
      obtain ⟨rfl, rfl⟩ : progress = progress' ∧ v = later := by simpa [takeTurns] using hturns
      exact ⟨runs, hruns, h⟩
  | cons turn turns ih =>
      obtain ⟨between, settled, taken, htaken, hbetween⟩ :=
        sound_takeTurn hsteady.indifferentTo hsound turn
      obtain ⟨more, hmore, hserved⟩ := served_takeTurn hsteady hsound h hruns turn htaken
      rw [takeTurns, outcome_bind, htaken] at hturns
      exact ih hbetween hserved hmore hturns

/-- The files of a batch that come to something are served by its runs. -/
theorem served_formatFilesInTurns (hsteady : f.SteadyFor w files) {turns : List Turn}
    {results : List FileResult} {later : World}
    (h : (f.formatFilesInTurns files turns write schedule).outcome w =
      (.ok (some results), later)) :
    ∃ runs, later.runs = w.runs ++ runs ∧
      ∀ r ∈ results, ∀ changed, r.outcome = .ok changed → f.Served w schedule runs r.file := by
  obtain ⟨-, -, records, cache, -, hturns⟩ := takeTurns_of_formatFilesInTurns h
  have hstarted : (w.logging records).runs = w.runs ++ [] := by simp
  obtain ⟨runs, hruns, hserved⟩ := served_takeTurns hsteady
    (sound_start write schedule (v := w.logging records) (by simp)) (served_start _) hstarted turns
    hturns
  exact ⟨runs, hruns, fun r hr => hserved r.file (.settled r.outcome) (List.mem_map_of_mem hr)⟩

end Batch

/-! ## In place -/

/-- Files that are changed in place are changed by a process that is made for the folder of the
first one. -/
theorem makesFor_formatInPlace {f : Formatter} {files : List Path} {schedule : Schedule} {w : World}
    {query run : Run}
    (hruns : ((f.formatInPlace files schedule).outcome w).2.runs = w.runs ++ [query, run]) :
    ∃ folder making, f.workspace.folderFor w files.head? = .ok folder ∧
      f.MakesFor w schedule folder making ∧
      making.Starts ((f.prepare folder schedule).outcome w).2 (files.map Path.text) run := by
  cases files with
  | nil =>
      have hlength := congrArg List.length hruns
      simp [formatInPlace] at hlength
  | cons first rest =>
      obtain ⟨folder, invocation, ready, finished, hfolder, hprepare, hstart, rfl⟩ :=
        formatInPlace_prepared hruns
      obtain ⟨making, rfl, hmaking⟩ := exists_makesFor hprepare
      rw [outcome_folderFor] at hfolder
      exact ⟨folder, making, hfolder, hmaking, ready, finished, hstart, rfl⟩

/-- The folder of a document is one of the workspace's. -/
theorem mem_allFolders_of_folderFor {workspace : Workspace} {w : World} {document : Option Path}
    {folder : Folder} (h : workspace.folderFor w document = .ok (some folder)) :
    folder ∈ workspace.allFolders := by
  cases document with
  | none => simp [Workspace.folderFor] at h
  | some path =>
      rw [Workspace.folderFor] at h
      split at h
      · simp at h
      · exact (Workspace.contains_of_folderAt (Except.ok.inj h)).1

/-- What is made for the folder of one document is made for the folder of another one exactly if the
two are at one place. -/
theorem MakesFor.iff_place {f : Formatter} {w : World} {schedule : Schedule}
    (hplaces : ∀ folder ∈ f.workspace.allFolders, ∀ name ∈ folder.place, Path.IsName name)
    {document other : Option Path} {folder own : Option Folder} {making : Making}
    (hfolder : f.workspace.folderFor w document = .ok folder)
    (hown : f.workspace.folderFor w other = .ok own)
    (hmaking : f.MakesFor w schedule folder making) :
    f.MakesFor w schedule own making ↔ own.map Folder.place = folder.map Folder.place := by
  constructor
  · intro hmakes
    have htext : own.map (·.place.text) = folder.map (·.place.text) :=
      hmakes.place.2.symm.trans hmaking.place.2
    cases own with
    | none =>
        cases folder with
        | none => rfl
        | some folder => simp at htext
    | some own =>
        cases folder with
        | none => simp at htext
        | some folder =>
            exact congrArg some (place_eq_of_text_eq
              (hplaces own (mem_allFolders_of_folderFor hown))
              (hplaces folder (mem_allFolders_of_folderFor hfolder)) (by simpa using htext))
  · exact fun hplace => hmaking.congr hplace.symm

/-- For which folder the formatter is run.  As a filter it is run for every file by itself, in a
batch as well, and then what is run is what preparing for the folder of this very file computes.  In
place it is run once for all files, and what is run is what preparing for the folder of the first
one computes; for another file that is what preparing for its own folder computes exactly if both
folders are at one place. -/
theorem made_for_own_folder {f : Formatter} {w : World}
    (hplaces : ∀ folder ∈ f.workspace.allFolders, ∀ name ∈ folder.place, Path.IsName name)
    (names : List String) (schedule : Schedule) :
    let files := names.map Path.parse
    (∀ file ∈ files, ∀ write changed,
      ((f.formatFile file write schedule).outcome w).1 = .ok changed →
        ∃ folder query run, f.workspace.folderFor w (some file) = .ok folder ∧
          ((f.formatFile file write schedule).outcome w).2.runs = w.runs ++ [query, run] ∧
          f.RunFor w schedule folder [Execution.inputMark] run) ∧
    (f.SteadyFor w files → ∀ turns write results later,
      (f.formatFilesInTurns files turns write schedule).outcome w = (.ok (some results), later) →
        ∃ runs, later.runs = w.runs ++ runs ∧
          ∀ r ∈ results, ∀ changed, r.outcome = .ok changed →
            ∃ folder run, f.workspace.folderFor w (some r.file) = .ok folder ∧ run ∈ runs ∧
              f.RunFor w schedule folder [Execution.inputMark] run) ∧
    ∀ query run,
      ((f.formatInPlace files schedule).outcome w).2.runs = w.runs ++ [query, run] →
        ∃ folder making, f.workspace.folderFor w files.head? = .ok folder ∧
          f.MakesFor w schedule folder making ∧
          making.Starts ((f.prepare folder schedule).outcome w).2 (files.map Path.text) run ∧
          ∀ file ∈ files, ∀ own, f.workspace.folderFor w (some file) = .ok own →
            (f.MakesFor w schedule own making ↔
              own.map Folder.place = folder.map Folder.place) := by
  intro files
  refine ⟨?_, ?_, ?_⟩
  · intro file hfile write changed hchanged
    obtain ⟨name, -, rfl⟩ := List.mem_map.mp hfile
    exact runFor_formatFile hchanged
  · intro hsteady turns write results later hreturns
    exact served_formatFilesInTurns hsteady hreturns
  · intro query run hruns
    obtain ⟨folder, making, hfolder, hmaking, hstarts⟩ := makesFor_formatInPlace hruns
    exact ⟨folder, making, hfolder, hmaking, hstarts, fun file _ own hown =>
      hmaking.iff_place hplaces hfolder hown⟩

/-- A world with two workspace folders, each with a formatter and a file of its own. -/
def twoFolderWorld : World where
  files := ⟨[(["a"], .directory), (["a", "sqlfmt"], .program 0 0o755),
    (["a", "x.sql"], .file [] 0o644), (["b"], .directory), (["b", "sqlfmt"], .program 0 0o755),
    (["b", "y.sql"], .file [] 0o644)]⟩
  programs := fun _ _ tree => some ⟨0, [], [], tree⟩
  environment := []
  directory := []
  log := []
  runs := []

/-- The formatter of the workspace folder, with no limits. -/
def folderwise : Formatter where
  settings := { Settings.default with
    path := some (Placeholder.token "workspaceFolder" ++ "/sqlfmt")
    probeLimit := none }
  workspace := ⟨none, [⟨"a", ["a"]⟩, ⟨"b", ["b"]⟩]⟩
  interpreters := .given []
  environment := none
  tool := .sqlfmt

/-- Of files in two folders, the second is formatted by a process that is not made for its
folder. -/
theorem made_for_own_folder_two_folders :
    ∃ query run making,
      ((folderwise.formatInPlace (["/a/x.sql", "/b/y.sql"].map Path.parse) .quiet).outcome
        twoFolderWorld).2.runs = [query, run] ∧
      making.Starts ((folderwise.prepare (some ⟨"a", ["a"]⟩) .quiet).outcome twoFolderWorld).2
        ["/a/x.sql", "/b/y.sql"] run ∧
      folderwise.workspace.folderFor twoFolderWorld (some (Path.parse "/b/y.sql")) =
        .ok (some ⟨"b", ["b"]⟩) ∧
      ¬folderwise.MakesFor twoFolderWorld .quiet (some ⟨"b", ["b"]⟩) making := by
  have hruns : ((folderwise.formatInPlace (["/a/x.sql", "/b/y.sql"].map Path.parse) .quiet).outcome
      twoFolderWorld).2.runs = twoFolderWorld.runs ++ [⟨"/a/sqlfmt", [], ["--version"], true⟩,
        ⟨"/a/sqlfmt", ["a"], ["/a/x.sql", "/b/y.sql"], true⟩] := by decide +kernel
  have hfirst : folderwise.workspace.folderFor twoFolderWorld (some (Path.parse "/a/x.sql")) =
      .ok (some ⟨"a", ["a"]⟩) := by decide +kernel
  have hsecond : folderwise.workspace.folderFor twoFolderWorld (some (Path.parse "/b/y.sql")) =
      .ok (some ⟨"b", ["b"]⟩) := by decide +kernel
  have hplaces : ∀ folder ∈ folderwise.workspace.allFolders, ∀ name ∈ folder.place,
      Path.IsName name := by
    unfold Path.IsName
    decide +kernel
  obtain ⟨-, -, hinPlace⟩ :=
    made_for_own_folder (w := twoFolderWorld) hplaces ["/a/x.sql", "/b/y.sql"] .quiet
  obtain ⟨folder, making, hfolder, -, hstarts, hown⟩ := hinPlace _ _ hruns
  obtain rfl : some ⟨"a", ["a"]⟩ = folder := Except.ok.inj (hfirst.symm.trans hfolder)
  refine ⟨_, _, making, hruns, hstarts, hsecond, ?_⟩
  rw [hown (Path.parse "/b/y.sql") (by simp) _ hsecond]
  decide

end FormatLauncher.Formatter
