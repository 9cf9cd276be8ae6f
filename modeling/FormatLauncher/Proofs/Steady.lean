/-
# What does not depend on the contents of files

Finding the formatter looks at names, kinds and modes of files, never at what files hold.  What its
programs do may depend on that.  If it does not for the files of a batch, then at every moment of
the batch, whatever was written back so far, a query comes to what it comes to at the start.
-/

import FormatLauncher.Proofs.Batch

namespace FormatLauncher

open Action

/-- The worlds differ at most in their history and in the contents of regular files. -/
structure World.SameShape (w other : World) : Prop where
  files : w.files.SameShape other.files
  scene : other.scene = (w.withFiles other.files).scene

theorem World.SameShape.directory_eq {w other : World} (h : w.SameShape other) :
    other.directory = w.directory := by
  simpa using World.directory_eq_of_scene_eq h.scene

theorem World.SameShape.logging {w other : World} (h : w.SameShape other)
    (first second : List LogRecord) : (w.logging first).SameShape (other.logging second) :=
  ⟨h.files, h.scene⟩

namespace Action

variable {α β : Type}

/-- What comes of the action does not depend on the contents of files. -/
def IgnoresContents (action : Action α) : Prop :=
  ∀ w other, w.SameShape other → (action.outcome other).1 = (action.outcome w).1

theorem Answers.ignoresContents {action : Action α} {answer : Except Failure α}
    (h : action.Answers answer) : action.IgnoresContents := by
  intro w other _
  obtain ⟨_, hw⟩ := h w
  obtain ⟨_, hother⟩ := h other
  rw [hw, hother]

theorem ignoresContents_pure (x : α) : (pure x : Action α).IgnoresContents :=
  (answers_pure x).ignoresContents

theorem ignoresContents_say (level : Level) (text : String) : (say level text).IgnoresContents :=
  (answers_say level text).ignoresContents

theorem ignoresContents_ofExcept (value : Except Failure α) :
    (Action.ofExcept value).IgnoresContents := fun _ _ _ => by simp

theorem ignoresContents_sayAll (records : List LogRecord) : (sayAll records).IgnoresContents :=
  fun _ _ _ => rfl

/-- A sequence of actions that ignore contents does so when the first one only reads. -/
theorem IgnoresContents.bind {action : Action α} {next : α → Action β}
    (haction : action.IgnoresContents) (hreads : action.Reads)
    (hnext : ∀ x, (next x).IgnoresContents) : (action >>= next).IgnoresContents := by
  intro w other hshape
  have hsame := haction w other hshape
  obtain ⟨first, hw⟩ := hreads.outcome_eq w
  obtain ⟨second, hother⟩ := hreads.outcome_eq other
  rw [outcome_bind, outcome_bind, hw, hother, hsame]
  cases (action.outcome w).1 with
  | error failure => rfl
  | ok x => exact hnext x _ _ (hshape.logging first second)

/-- Looking at the world ignores contents when what follows looks at none. -/
theorem ignoresContents_get_bind {next : World → Action α}
    (hsame : ∀ w other, w.SameShape other → next other = next w)
    (hnext : ∀ w, (next w).IgnoresContents) : (get >>= next).IgnoresContents := by
  intro w other hshape
  rw [outcome_get_bind, outcome_get_bind, hsame w other hshape]
  exact hnext w w other hshape

end Action

/-- What comes of placeholders does not depend on the world. -/
theorem Placeholder.answers_resolve (values : List String) (context : Context)
    (interpreter : Option (List String)) (strict : Bool) :
    let expansion := expandAll values context interpreter
    (resolve values context interpreter strict).Answers
      (if strict = true → expansion.leftovers = [] then .ok expansion.texts
        else .error (.configuration (.unresolved expansion.leftovers))) := by
  intro expansion
  split
  · next hknown => exact Expansion.answers_settle hknown
  · next hunknown =>
      obtain ⟨rfl, hleftovers⟩ := Classical.not_imp.mp hunknown
      intro w
      refine ⟨[], ?_⟩
      have hleft : (expandAll values context interpreter).leftovers ≠ [] := hleftovers
      simp [resolve, Expansion.settle, hleft, expansion]

namespace Locator

variable {w other : World}

theorem pathExists_of_sameShape (h : w.SameShape other) (spelling : String) :
    other.files.pathExists other.directory spelling =
      w.files.pathExists w.directory spelling := by
  have hfound := h.files.map_find?_eq (g := fun _ => ()) (fun _ _ => rfl) w.directory spelling
  rw [FileTree.pathExists, FileTree.pathExists, h.directory_eq]
  simpa using congrArg Option.isSome hfound

theorem findSibling_of_sameShape (h : w.SameShape other) (convention : Spelling.Convention)
    (interpreter : List String) (binary : String) :
    findSibling convention other interpreter binary =
      findSibling convention w interpreter binary := by
  rw [findSibling, findSibling, funext (pathExists_of_sameShape h)]

/-- What a spelling leads to can be run whatever files hold. -/
theorem isRunnable_find?_of_sameShape (h : w.SameShape other) (spelling : String) :
    (match other.files.find? other.directory spelling with
      | some (_, e) => e.isRunnable
      | none => false) =
    (match w.files.find? w.directory spelling with
      | some (_, e) => e.isRunnable
      | none => false) := by
  have hfound := h.files.map_find?_eq (g := fun named => named.2.isRunnable) (by simp) w.directory
    spelling
  rw [h.directory_eq]
  cases htree : w.files.find? w.directory spelling <;>
    cases hother : other.files.find? w.directory spelling <;> simp_all

theorem searchPath?_of_sameShape (h : w.SameShape other) (name : String) :
    searchPath? other name = searchPath? w name := by
  have henvironment : other.environment = w.environment := by
    simpa using (World.programs_and_environment_of_scene_eq h.scene).2
  unfold searchPath?
  rw [henvironment]
  dsimp only
  split
  · rfl
  · congr 1
    exact funext (isRunnable_find?_of_sameShape h)

theorem checkFile_of_sameShape (h : w.SameShape other) (convention : Spelling.Convention)
    (path : String) : checkFile convention other path = checkFile convention w path := by
  have hfound := h.files.map_find?_eq
    (g := fun named => (named.2.isRegular, named.2.isExecutable)) (by simp) w.directory path
  rw [checkFile, checkFile, h.directory_eq]
  cases htree : w.files.find? w.directory path <;>
    cases hother : other.files.find? w.directory path <;> simp_all

theorem ignoresContents_sibling (interpreter : Option (List String)) (tool : Tool) : (do
    if let some sibling := findSibling .slash (← get) (interpreter.getD []) tool.binary then
      Action.say .debug ("Found " ++ tool.binary ++ " next to interpreter: " ++ sibling)
      return sibling
    return tool.binary : Action String).IgnoresContents := by
  apply ignoresContents_get_bind
  · intro w other hshape
    rw [findSibling_of_sameShape hshape]
  · intro w
    split
    · exact (ignoresContents_say _ _).bind (reads_say _ _) fun _ => ignoresContents_pure _
    · exact ignoresContents_pure _

theorem ignoresContents_candidate (configured : Option String) (context : Placeholder.Context)
    (interpreter : Option (List String)) (tool : Tool) (strict : Bool) :
    (candidate configured context interpreter tool strict).IgnoresContents := by
  rw [candidate]
  split
  · next path _ =>
      have hresolve := Placeholder.answers_resolve [path] context interpreter strict
      apply hresolve.ignoresContents.bind hresolve.reads
      intro texts
      split
      · exact ignoresContents_pure _
      · exact ignoresContents_sibling _ _
  · exact ignoresContents_sibling _ _

/-- Where a command leads, and whether its file passes the checks, does not depend on contents. -/
theorem ignoresContents_check (convention : Spelling.Convention) (command : String) :
    (check convention command).IgnoresContents := by
  rw [check]
  apply ignoresContents_get_bind
  · intro w other hshape
    simp only [searchPath?_of_sameShape hshape, checkFile_of_sameShape hshape, absolute,
      hshape.directory_eq]
  · intro w
    dsimp only
    split
    · exact (ignoresContents_say _ _).bind (reads_say _ _) fun _ => ignoresContents_pure _
    · refine (ignoresContents_ofExcept _).bind (reads_ofExcept _) fun path => ?_
      exact (ignoresContents_sayAll _).bind (reads_sayAll _) fun _ => ignoresContents_pure _

/-- So inspecting a query does not depend on them. -/
theorem ignoresContents_inspect (q : Query) : (inspect q).IgnoresContents :=
  (ignoresContents_candidate _ _ _ _ _).bind (reads_candidate _ _ _ _ _) fun _ =>
    ignoresContents_check _ _

/-- What supervision sees depends on the files only as what the program does depends on them. -/
theorem result_supervise_congr {ready : Launch.Ready} {input : Text.Bytes} {w other : World}
    (hfinish : ready.finish? input other.files =
      (ready.finish? input w.files).map fun finish => { finish with files := other.files })
    (limit : Option Seconds) (schedule : Schedule) :
    ((supervise ready input limit schedule).outcome other).1 =
      ((supervise ready input limit schedule).outcome w).1.map fun (ending, finished) =>
        (ending, finished.map fun finish => { finish with files := other.files }) := by
  rw [outcome_supervise, outcome_supervise, hfinish, Option.isSome_map]
  split
  · rfl
  · split
    · rfl
    · next watch _ => cases watch.completed <;> rfl

/-- A version query is judged by its exit code alone. -/
theorem probeVerdict_map (limit : Option Seconds) (ending : Ending) (finished : Option Finish)
    (tree : FileTree) :
    probeVerdict limit (ending, finished.map fun finish => { finish with files := tree }) =
      probeVerdict limit (ending, finished) := by
  cases ending <;> cases finished <;> rfl

/-- What comes of a version query is the same where its program starts alike and does the same. -/
theorem result_probe_congr {w other : World} {path : String} {arguments : List String}
    (hstart : Launch.start other path arguments none = Launch.start w path arguments none)
    (hfinish : ∀ ready, Launch.start w path arguments none = .ok ready →
      ready.finish? [] other.files =
        (ready.finish? [] w.files).map fun finish => { finish with files := other.files })
    (limit : Option Seconds) (schedule : Schedule) :
    ((probe path arguments limit schedule).outcome other).1 =
      ((probe path arguments limit schedule).outcome w).1 := by
  cases hready : Launch.start w path arguments none with
  | error refusal =>
      obtain ⟨_, hother⟩ := outcome_probe_of_refused (hstart.trans hready) limit schedule
      obtain ⟨_, hw⟩ := outcome_probe_of_refused hready limit schedule
      rw [hother, hw]
  | ok ready =>
      obtain ⟨_, hother⟩ := outcome_probe_of_started (hstart.trans hready) limit schedule
      obtain ⟨_, hw⟩ := outcome_probe_of_started hready limit schedule
      rw [hother, hw]
      dsimp only
      rw [result_supervise_congr (hfinish ready hready)]
      cases ((supervise ready [] (probeLimit limit) (probeSchedule schedule)).outcome w).1 with
      | error failure => rfl
      | ok seen => exact probeVerdict_map limit seen.1 seen.2 other.files

end Locator

namespace Formatter

/-- The formatter is a filter at every moment of a batch: what is more, no file of the batch is
opened to start its version query, and what comes of that does not depend on what the files of the
batch hold. -/
structure SteadyFor (f : Formatter) (w : World) (files : List Path) : Prop
    extends f.FiltersFor w files where
  queryApart : ∀ {folder plan command}, f.Commands w folder plan command →
    ∀ place ∈ Launch.trail w command none, ¬places w files place
  querySteady : ∀ {folder plan command ready}, f.Commands w folder plan command →
    Launch.start w command f.tool.versionArguments none = .ok ready →
    ∀ tree, w.files.AgreesOff (places w files) tree → ∀ input,
      ready.finish? input tree =
        (ready.finish? input w.files).map fun finish => { finish with files := tree }

/-- Where programs print what they print whatever the files hold, and write none, every formatter is
such a filter for files that cannot be run. -/
theorem steadyFor_of_programs {w : World}
    (hprograms : ∀ id call tree other, w.programs id call other =
      (w.programs id call tree).map fun finish => { finish with files := other })
    {files : List Path}
    (hfiles : ∀ place, places w files place → ∀ e, w.files.entryAt? place = some e →
      e.isRunnable = false) (f : Formatter) : f.SteadyFor w files where
  toFiltersFor := filtersFor_of_programs hprograms hfiles f
  queryApart _ place hplace hin := by
    obtain ⟨e, hentry, hrunnable⟩ := Launch.isRunnable_of_mem_trail hplace
    simp [hfiles place hin e hentry] at hrunnable
  querySteady _ hstart tree _ input := by
    obtain ⟨⟨id, hprogram⟩, -, -⟩ := Launch.start_eq_ok hstart
    rw [Launch.Ready.finish?, Launch.Ready.finish?, hprogram]
    exact hprograms id _ _ tree

/-- The same, where the files can be looked up one by one. -/
theorem steadyFor_of_files {w : World}
    (hprograms : ∀ id call tree other, w.programs id call other =
      (w.programs id call tree).map fun finish => { finish with files := other })
    {files : List Path}
    (hfiles : ∀ file ∈ files, ∀ found ∈ (Contents.place w file).toOption,
      ∀ e ∈ w.files.entryAt? found, e.isRunnable = false) (f : Formatter) :
    f.SteadyFor w files := by
  refine steadyFor_of_programs hprograms ?_ f
  rintro found ⟨file, hfile, hplace⟩ e hentry
  exact hfiles file hfile found (by rw [hplace]; rfl) e hentry

section Locate

variable {f : Formatter} {w : World} {files : List Path} (hsteady : f.SteadyFor w files)
  {tree : FileTree} (hagrees : w.files.AgreesOff (places w files) tree)

include hsteady hagrees in
/-- In the middle of a batch a version query starts as it does at the start. -/
theorem start_query_eq {folder : Option Folder} {plan : Plan} {command : String}
    (hcommands : f.Commands w folder plan command) {v : World}
    (hscene : v.scene = (w.withFiles tree).scene) :
    Launch.start v command f.tool.versionArguments none =
      Launch.start w command f.tool.versionArguments none := by
  have hfiles : v.files = tree := by
    simpa using World.files_eq_of_scene_eq hscene
  refine Launch.start_eq_of_trail (hfiles ▸ hagrees.1) (hfiles ▸ hscene) (fun place hplace => ?_) _
  rw [hfiles]
  exact hagrees.2 place (hsteady.queryApart hcommands place hplace)

include hagrees in
/-- Inspecting a query does not look at what the files of a batch hold. -/
theorem inspect_eq_of_agreesOff (q : Locator.Query) {v : World}
    (hscene : v.scene = (w.withFiles tree).scene) :
    ((Locator.inspect q).outcome v).1 = ((Locator.inspect q).outcome w).1 := by
  have hfiles : v.files = tree := by
    simpa using World.files_eq_of_scene_eq hscene
  exact Locator.ignoresContents_inspect q w v ⟨hfiles ▸ hagrees.1, by rw [hscene, hfiles]⟩

include hsteady hagrees in
/-- A command that a plan comes to answers in the middle of a batch as it does at the start. -/
theorem probe_eq_of_agreesOff {folder : Option Folder} {plan : Plan} {command : String}
    (hcommands : f.Commands w folder plan command) {v : World}
    (hscene : v.scene = (w.withFiles tree).scene) (first first' : List LogRecord)
    (schedule : Schedule) :
    ((Locator.probe command f.tool.versionArguments f.probeLimit schedule).outcome
        (v.logging first)).1 =
      ((Locator.probe command f.tool.versionArguments f.probeLimit schedule).outcome
        (w.logging first')).1 := by
  have hfiles : v.files = tree := by
    simpa using World.files_eq_of_scene_eq hscene
  refine Locator.result_probe_congr ?_ (fun ready hready => ?_) f.probeLimit schedule
  · exact start_query_eq hsteady hagrees hcommands hscene
  · have hquery := hsteady.querySteady hcommands hready tree hagrees []
    simpa [hfiles] using hquery

include hsteady hagrees in
/-- In the middle of a batch a plan's query comes to what it comes to at the start, and locating
leaves the files as they are. -/
theorem outcome_locate_of_agreesOff {folder : Option Folder} {plan : Plan}
    (hplan : ((f.plan folder).outcome w).1 = .ok plan) {v : World}
    (hscene : v.scene = (w.withFiles tree).scene) (schedule : Schedule) :
    ((Locator.locate plan.query f.probeLimit schedule).outcome v).1 =
        Locator.Cache.alone w f.probeLimit schedule plan.query ∧
      ((Locator.locate plan.query f.probeLimit schedule).outcome v).2.scene =
        (w.withFiles tree).scene := by
  have htool : plan.query.toolOrUsual = f.tool := (folder_and_tool_of_plan hplan).2
  have hinspected := inspect_eq_of_agreesOff hagrees plan.query hscene
  constructor
  · rw [Locator.Cache.alone]
    cases hinspect : ((Locator.inspect plan.query).outcome w).1 with
    | error failure =>
        obtain ⟨_, hv⟩ := Locator.outcome_locate_of_error (hinspected.trans hinspect)
          f.probeLimit schedule
        obtain ⟨_, hw⟩ := Locator.outcome_locate_of_error hinspect f.probeLimit schedule
        rw [hv, hw]
    | ok inspected =>
        rcases inspected with ⟨command, passes⟩
        cases passes with
        | false =>
            obtain ⟨_, hv⟩ := Locator.outcome_locate_of_failing (hinspected.trans hinspect)
              f.probeLimit schedule
            obtain ⟨_, hw⟩ := Locator.outcome_locate_of_failing hinspect f.probeLimit schedule
            rw [hv, hw]
        | true =>
            have hcommands : f.Commands w folder plan command := ⟨hplan, hinspect⟩
            obtain ⟨first, _, hv⟩ := Locator.outcome_locate_of_passing
              (hinspected.trans hinspect) f.probeLimit schedule
            obtain ⟨first', _, hw⟩ := Locator.outcome_locate_of_passing hinspect f.probeLimit
              schedule
            rw [hv, hw, htool]
            dsimp only
            rw [probe_eq_of_agreesOff hsteady hagrees hcommands hscene first first' schedule]
  · refine Locator.keepsScene_locate (s := w.withFiles tree) ?_ f.probeLimit schedule v hscene
    intro command hinspect ready hready input finish hfinish
    have hcommands : f.Commands w folder plan command :=
      ⟨hplan, (inspect_eq_of_agreesOff hagrees plan.query rfl).symm.trans hinspect⟩
    rw [htool, start_query_eq hsteady hagrees hcommands rfl] at hready
    rw [World.files_withFiles, hsteady.querySteady hcommands hready tree hagrees input] at hfinish
    obtain ⟨_, -, rfl⟩ := Option.map_eq_some_iff.mp hfinish
    rfl

end Locate

/-- In a tree of the same shape every query that was planned in the world comes to what it comes to
there, the formatter prints what it prints there, and it leaves the tree as it is. -/
structure WorksAlike (f : Formatter) (w : World) (tree : FileTree) : Prop
    extends f.PrintsAlike w tree where
  locates : ∀ {folder plan}, ((f.plan folder).outcome w).1 = .ok plan →
    ∀ {v : World}, v.scene = (w.withFiles tree).scene → ∀ schedule : Schedule,
      let action := Locator.locate plan.query f.probeLimit schedule
      (action.outcome v).1 = Locator.Cache.alone w f.probeLimit schedule plan.query ∧
        (action.outcome v).2.scene = (w.withFiles tree).scene

/-- The formatter works as at the start whatever the files of a batch hold. -/
def IndifferentTo (f : Formatter) (w : World) (files : List Path) : Prop :=
  ∀ tree, w.files.AgreesOff (places w files) tree → f.WorksAlike w tree

/-- What a steady formatter does cannot depend on what the files of the batch hold. -/
theorem SteadyFor.indifferentTo {f : Formatter} {w : World} {files : List Path}
    (hsteady : f.SteadyFor w files) : f.IndifferentTo w files := fun _ hagrees =>
  { printsAlike_of_agreesOff hsteady.toFiltersFor hagrees with
    locates := outcome_locate_of_agreesOff hsteady hagrees }

end Formatter

end FormatLauncher
