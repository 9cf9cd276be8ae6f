/-
# What preparing a request does

Preparing makes a plan for a folder, inspects the file of the formatter's command and asks it for
its version.  The plan and the inspection only read, so they are facts about the world a request
starts in; when preparing succeeds, the version query was the only run.
-/

import FormatLauncher.Proofs.Locating

namespace FormatLauncher.Formatter

open Action

/-- What is run for a plan whose command is at a path. -/
def Plan.invocationOf (plan : Plan) (command : String) : Invocation :=
  ⟨command, plan.arguments, plan.folder.map (·.place.text)⟩

/-- The request for a folder is planned this way, and the file of this command passes the checks. -/
def Commands (f : Formatter) (w : World) (folder : Option Folder) (plan : Plan)
    (command : String) : Prop :=
  ((f.plan folder).outcome w).1 = .ok plan ∧
    ((Locator.inspect plan.query).outcome w).1 = .ok (command, true)

/-- The folder of a document is the workspace's. -/
theorem outcome_folderFor (f : Formatter) (document : Option Path) (w : World) :
    (f.folderFor document).outcome w = (f.workspace.folderFor w document, w) := by
  rw [folderFor, outcome_get_bind, outcome_ofExcept]

/-- A file that was read as a text has the bytes of that text. -/
theorem readText_eq_ok {w : World} {file : Path} {before : String}
    (h : readText w file = .ok before) :
    ∃ original, Contents.read w file = .ok original ∧ Text.Utf8.decode original = .ok before := by
  rw [readText] at h
  cases hread : Contents.read w file with
  | error failure => simp [hread] at h
  | ok original =>
      cases hdecode : Text.Utf8.decode original with
      | error e => simp [hread, hdecode] at h
      | ok text => exact ⟨original, rfl, by simpa [hread, hdecode] using h⟩

/-- What reading and planning a file comes to: its text, its folder, and the plan for that. -/
theorem result_draft (f : Formatter) (w : World) (file : Path) :
    ((f.draft file).outcome w).1 =
      (readText w file).bind fun text =>
        (f.workspace.folderFor w (some file)).bind fun folder =>
          ((f.plan folder).outcome w).1.map fun plan => ⟨text, plan⟩ := by
  rw [draft, outcome_get_bind, outcome_ofExcept_bind]
  cases readText w file with
  | error failure => rfl
  | ok text =>
      have hplan (folder : Option Folder) :
          (do return ⟨text, ← f.plan folder⟩ : Action Draft).Reads :=
        (f.reads_plan folder).bind fun _ => reads_pure _
      refine (((reads_announce file.text).keepsScene w).result_bind fun _ =>
        ((f.reads_folderFor _).bind hplan).ignoresHistory).trans ?_
      refine (((f.reads_folderFor _).keepsScene w).result_bind fun folder =>
        (hplan folder).ignoresHistory).trans ?_
      rw [outcome_folderFor]
      dsimp only [Except.bind]
      cases f.workspace.folderFor w (some file) with
      | error failure => rfl
      | ok folder => exact congrArg Prod.fst (outcome_bind_pure _ (f.plan folder) w)

/-- Neither the version query of a command nor its run as a filter writes a file. -/
def LeavesFiles (f : Formatter) (w : World) : Prop :=
  ∀ folder plan command, f.Commands w folder plan command →
    (∀ ready, Launch.start w command f.tool.versionArguments none = .ok ready →
      ready.LeavesFiles w.files) ∧
    ∀ ready, Launch.start w command (plan.arguments ++ [Execution.inputMark])
      (plan.invocationOf command).directory = .ok ready → ready.LeavesFiles w.files

/-- Where no program writes files, no formatter does. -/
theorem leavesFiles_of_programs {w : World}
    (hprograms : ∀ id call tree finish, w.programs id call tree = some finish →
      finish.files = tree) (f : Formatter) : f.LeavesFiles w :=
  fun _ _ _ _ => ⟨fun _ => Launch.Ready.leavesFiles_of_programs hprograms,
    fun _ => Launch.Ready.leavesFiles_of_programs hprograms⟩

/-- Commands are read off the scene. -/
theorem Commands.of_scene_eq {f : Formatter} {w other : World} {folder : Option Folder}
    {plan : Plan} {command : String} (h : f.Commands w folder plan command)
    (hscene : w.scene = other.scene) : f.Commands other folder plan command :=
  ⟨((f.reads_plan folder).ignoresHistory w other hscene).1 ▸ h.1,
    ((Locator.reads_inspect plan.query).ignoresHistory w other hscene).1 ▸ h.2⟩

/-- What a request for a folder knows: the interpreters and the name of the current directory settle
it. -/
theorem result_surroundings (f : Formatter) (folder : Option Folder) (w : World) :
    ((f.surroundings folder).outcome w).1 =
      ((f.interpreters.find (folder.map fun folder => .ofLocation folder.place)
          (f.environment.getD w.environment)).outcome w).1.bind fun interpreters =>
        w.directory.named.map fun current =>
          ({ environment := f.environment.getD w.environment, directory := current.text,
             root := folder.map (·.place.text), folders := f.workspace.folderTexts },
            if interpreters = [] then none else some interpreters) := by
  rw [surroundings, outcome_get_bind]
  refine (((Interpreter.Source.reads_find _ _ _).keepsScene w).result_bind fun _ =>
    ((reads_ofExcept _).bind fun _ => reads_pure _).ignoresHistory).trans ?_
  congr 1
  funext interpreters
  rw [outcome_ofExcept_bind]
  cases w.directory.named <;> rfl

/-- The context of a request: everything but the folder is the same for all requests. -/
theorem surroundings_eq_ok {f : Formatter} {w : World} {folder : Option Folder}
    {context : Placeholder.Context} {interpreter : Option (List String)}
    (h : ((f.surroundings folder).outcome w).1 = .ok (context, interpreter)) :
    ∃ current, w.directory.named = .ok current ∧ context = {
      environment := f.environment.getD w.environment
      directory := current.text
      root := folder.map (·.place.text)
      folders := f.workspace.folderTexts } := by
  rw [result_surroundings] at h
  obtain ⟨_, -, h⟩ := except_bind_eq_ok.mp h
  obtain ⟨current, hcurrent, hsame⟩ := except_map_eq_ok.mp h
  exact ⟨current, hcurrent, (congrArg Prod.fst hsame).symm⟩

/-- What planning comes to: the surroundings, the arguments in them, and the query. -/
theorem result_plan (f : Formatter) (folder : Option Folder) (w : World) :
    ((f.plan folder).outcome w).1 =
      ((f.surroundings folder).outcome w).1.bind fun (context, interpreter) =>
        ((Placeholder.resolve f.settings.arguments context interpreter
          f.settings.strict).outcome w).1.map fun arguments =>
            ⟨folder, arguments, f.query context interpreter f.settings.strict⟩ := by
  refine (((f.reads_surroundings folder).keepsScene w).result_bind fun _ =>
    ((Placeholder.reads_resolve _ _ _ _).bind fun _ => reads_pure _).ignoresHistory).trans ?_
  congr 1
  funext known
  rcases known with ⟨context, interpreter⟩
  exact congrArg Prod.fst (outcome_bind_pure _ (Placeholder.resolve _ _ _ _) w)

/-- A plan is made of the surroundings, the arguments in them and the query. -/
theorem plan_eq_ok {f : Formatter} {w : World} {folder : Option Folder} {plan : Plan}
    (hplan : ((f.plan folder).outcome w).1 = .ok plan) :
    ∃ context interpreter arguments,
      ((f.surroundings folder).outcome w).1 = .ok (context, interpreter) ∧
        plan = ⟨folder, arguments, f.query context interpreter f.settings.strict⟩ := by
  rw [result_plan] at hplan
  obtain ⟨⟨context, interpreter⟩, hsurroundings, hplan⟩ := except_bind_eq_ok.mp hplan
  obtain ⟨arguments, -, rfl⟩ := except_map_eq_ok.mp hplan
  exact ⟨context, interpreter, arguments, hsurroundings, rfl⟩

/-- A plan is for the folder it was made for, and asks for the tool of the formatter. -/
theorem folder_and_tool_of_plan {f : Formatter} {w : World} {folder : Option Folder} {plan : Plan}
    (hplan : ((f.plan folder).outcome w).1 = .ok plan) :
    plan.folder = folder ∧ plan.query.toolOrUsual = f.tool := by
  obtain ⟨_, _, _, -, rfl⟩ := plan_eq_ok hplan
  exact ⟨rfl, rfl⟩

/-- The query of a plan, up to the interpreters: everything else is settled by the folder. -/
theorem query_of_plan {f : Formatter} {w : World} {folder : Option Folder} {plan : Plan}
    (hplan : ((f.plan folder).outcome w).1 = .ok plan) :
    ∃ current interpreter, w.directory.named = .ok current ∧ plan.query = f.query {
      environment := f.environment.getD w.environment
      directory := current.text
      root := folder.map (·.place.text)
      folders := f.workspace.folderTexts } interpreter f.settings.strict := by
  obtain ⟨context, interpreter, _, hsurroundings, rfl⟩ := plan_eq_ok hplan
  obtain ⟨current, hcurrent, rfl⟩ := surroundings_eq_ok hsurroundings
  exact ⟨current, interpreter, hcurrent, rfl⟩

/-- Queries planned in one world are the same if a cache does not tell them apart. -/
theorem query_eq_of_key_eq {f : Formatter} {w : World} {folder folder' : Option Folder}
    {plan plan' : Plan} (hplan : ((f.plan folder).outcome w).1 = .ok plan)
    (hplan' : ((f.plan folder').outcome w).1 = .ok plan')
    (hkey : plan.query.key = plan'.query.key) : plan.query = plan'.query := by
  obtain ⟨current, interpreter, hcurrent, hquery⟩ := query_of_plan hplan
  obtain ⟨current', interpreter', hcurrent', hquery'⟩ := query_of_plan hplan'
  obtain rfl : current = current' := by simpa [hcurrent] using hcurrent'
  rw [hquery, hquery'] at hkey ⊢
  simp only [Locator.Query.key, query, Locator.Key.mk.injEq] at hkey
  rw [hkey.2.1, hkey.2.2.1]

/-- Locating the command of a plan keeps the scene when version queries leave the files as they
are. -/
theorem keepsScene_locate_of_plan {f : Formatter} {s : World} (hleaves : f.LeavesFiles s)
    {folder : Option Folder} {plan : Plan} (hplan : ((f.plan folder).outcome s).1 = .ok plan)
    (schedule : Schedule) :
    (Locator.locate plan.query f.probeLimit schedule).KeepsScene s := by
  apply Locator.keepsScene_locate
  intro command hinspect
  rw [(folder_and_tool_of_plan hplan).2]
  exact (hleaves folder plan command ⟨hplan, hinspect⟩).1

/-- Preparing keeps the scene when version queries leave the files as they are. -/
theorem keepsScene_prepare {f : Formatter} {s : World} (hleaves : f.LeavesFiles s)
    (folder : Option Folder) (schedule : Schedule) :
    (f.prepare folder schedule).KeepsScene s := by
  apply ((f.reads_plan folder).keepsScene s).bind
  intro plan w hscene hw
  have hplan : ((f.plan folder).outcome s).1 = .ok plan := by
    rw [← ((f.reads_plan folder).ignoresHistory w s hscene).1, hw]
  exact (keepsScene_locate_of_plan hleaves hplan schedule).bind fun resolved _ _ _ =>
    (f.reads_invocation plan resolved).keepsScene s

/-- Preparing starts at most the version query. -/
theorem startsAtMost_prepare (f : Formatter) (folder : Option Folder) (schedule : Schedule) :
    (f.prepare folder schedule).StartsAtMost 1 :=
  ((f.reads_plan folder).startsAtMost 0).bind fun plan =>
    (Locator.startsAtMost_locate plan.query f.probeLimit schedule).bind fun resolved =>
      (f.reads_invocation plan resolved).startsAtMost 0

/-- Preparing ignores the history. -/
theorem ignoresHistory_prepare (f : Formatter) (folder : Option Folder) (schedule : Schedule) :
    (f.prepare folder schedule).IgnoresHistory :=
  (f.reads_plan folder).ignoresHistory.bind fun plan =>
    (Locator.ignoresHistory_locate _ _ _).bind fun resolved =>
      (f.reads_invocation plan resolved).ignoresHistory

/-- An invocation is made of a plan whose command is there. -/
theorem answers_invocation (f : Formatter) (plan : Plan) (resolved : Locator.Resolved) :
    (f.invocation plan resolved).Answers
      (if resolved.isAvailable then .ok (plan.invocationOf resolved.path)
        else .error (.notInstalled resolved.path f.tool.installHint)) := by
  rw [invocation]
  cases resolved.isAvailable with
  | true => exact answers_pure _
  | false => exact (answers_say _ _).bind (answers_throw _)

/-- What preparing comes to: the plan, what is located for it, and an invocation if it is there. -/
theorem result_prepare (f : Formatter) (folder : Option Folder) (schedule : Schedule) (w : World) :
    ((f.prepare folder schedule).outcome w).1 =
      ((f.plan folder).outcome w).1.bind fun plan =>
        ((Locator.locate plan.query f.probeLimit schedule).outcome w).1.bind fun resolved =>
          if resolved.isAvailable then .ok (plan.invocationOf resolved.path)
          else .error (.notInstalled resolved.path f.tool.installHint) := by
  have hlast (plan : Plan) : (Locator.locate plan.query f.probeLimit schedule >>=
      f.invocation plan).IgnoresHistory :=
    (Locator.ignoresHistory_locate _ _ _).bind fun resolved =>
      (f.reads_invocation plan resolved).ignoresHistory
  refine (((f.reads_plan folder).keepsScene w).result_bind hlast).trans ?_
  cases ((f.plan folder).outcome w).1 with
  | error failure => rfl
  | ok plan =>
      obtain ⟨_, hw⟩ := outcome_bind_of_answers (f.answers_invocation plan)
        (Locator.locate plan.query f.probeLimit schedule) w
      exact congrArg Prod.fst hw

/-- An invocation is made of a plan only if the command is there. -/
theorem outcome_invocation_eq_ok {f : Formatter} {plan : Plan} {resolved : Locator.Resolved}
    {w later : World} {invocation : Invocation}
    (h : (f.invocation plan resolved).outcome w = (.ok invocation, later)) :
    resolved.isAvailable = true ∧ invocation = plan.invocationOf resolved.path ∧ later = w := by
  rw [Formatter.invocation] at h
  cases havailable : resolved.isAvailable with
  | false => simp [havailable, outcome_bind] at h
  | true =>
      simp only [havailable, if_true, outcome_pure, Prod.mk.injEq, Except.ok.injEq] at h
      exact ⟨rfl, h.1.symm, h.2.symm⟩

/-- What preparing comes to when it succeeds: the file of the command passed the checks, and the
version query was the only run. -/
theorem outcome_prepare_eq_ok {f : Formatter} {folder : Option Folder} {schedule : Schedule}
    {w later : World} {invocation : Invocation}
    (h : (f.prepare folder schedule).outcome w = (.ok invocation, later)) :
    ∃ plan command, f.Commands w folder plan command ∧
      invocation = plan.invocationOf command ∧ ∃ query, later.runs = w.runs ++ [query] := by
  obtain ⟨plan, planned, hplanned, hrest⟩ := outcome_bind_eq_ok.mp h
  obtain ⟨resolved, located, hlocated, hinvocation⟩ := outcome_bind_eq_ok.mp hrest
  obtain ⟨havailable, rfl, rfl⟩ := outcome_invocation_eq_ok hinvocation
  obtain ⟨hinspect, query, hruns⟩ := Locator.locate_eq_available hlocated havailable
  obtain ⟨records, hw⟩ := (f.reads_plan folder).outcome_eq w
  obtain ⟨hplan, rfl⟩ : ((f.plan folder).outcome w).1 = .ok plan ∧ w.logging records = planned := by
    rw [hw] at hplanned
    simpa using hplanned
  refine ⟨plan, resolved.path, ⟨hplan, ?_⟩, rfl, query, hruns⟩
  rw [← hinspect]
  exact ((Locator.reads_inspect plan.query).ignoresHistory w (w.logging records) (by simp)).1

end FormatLauncher.Formatter
