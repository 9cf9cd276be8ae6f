/-
# What a check says about requests

A check looks for the formatter outside of every folder and leniently; a request looks for it in the
folder of its document, and strictly if the settings say so.  Both ask the file that they arrive at
for its version in the same way.  So the two agree exactly when they arrive at the same file
whenever that file answers; they do when the folder makes no difference to where the search arrives.
-/

import FormatLauncher.Proofs.Placeholder
import FormatLauncher.Proofs.Preparing
import FormatLauncher.Proofs.Session

namespace FormatLauncher

namespace Placeholder

/-- An entry whose token does not occur at its turn changes nothing. -/
theorem expandChars_skip {before : Bindings} {token : String} {text : List Char}
    (hnone : Text.first? token.toList (expandChars before text) = none) (replacement : String)
    (after : Bindings) :
    expandChars (before ++ (token, replacement) :: after) text =
      expandChars (before ++ after) text := by
  unfold expandChars at hnone ⊢
  simp only [List.foldl_append, List.foldl_cons, Text.replaceFirst_of_first?_eq_none hnone]

/-- The text stands on the workspace folder: its token occurs once the home directory is
replaced. -/
def Context.NamesFolder (context : Context) (text : String) : Prop :=
  (Text.first? (token "workspaceFolder").toList
    (expandChars (context.home?.toList.map fun home => (token "userHome", home))
      text.toList)).isSome = true

/-- Texts that do not stand on the workspace folder are expanded in the same way without it. -/
theorem expandAll_without_root {values : List String} {context : Context}
    {interpreter : Option (List String)}
    (hnames : ∀ value ∈ splice interpreter values, ¬context.NamesFolder value) :
    expandAll values { context with root := none } interpreter =
      expandAll values context interpreter := by
  have hexpand : ∀ value ∈ splice interpreter values,
      expand (table { context with root := none }) value = expand (table context) value := by
    intro value hvalue
    have hfirst := Option.not_isSome_iff_eq_none.mp (hnames value hvalue)
    unfold expand table
    cases context.root.filter (· ≠ "") with
    | none => rfl
    | some root =>
        simp only [List.append_assoc]
        exact congrArg String.ofList (expandChars_skip hfirst root _).symm
  simp only [expandAll, List.map_congr_left hexpand]

end Placeholder

namespace Formatter

open Action

/-- Prepare a request for a document. -/
def prepareFor (f : Formatter) (document : Path) (schedule : Schedule) : Action Invocation := do
  let folder ← f.folderFor (some document)
  f.prepare folder schedule

/-- Where preparing a request for a document finds the formatter, if it succeeds. -/
def preparedAt (f : Formatter) (w : World) (document : Path) : Option String :=
  ((f.prepareFor document .quiet).outcome w).1.toOption.map Invocation.command

/-- Where the formatter is found for no folder, if it is there. -/
def checkedAt (f : Formatter) (w : World) : Option String :=
  match ((f.resolveCommand none .quiet).outcome w).1 with
  | .ok ⟨path, true⟩ => some path
  | _ => none

/-- The file at a path answers the version query. -/
def Answers (f : Formatter) (w : World) (path : String) : Prop :=
  ((Locator.probe path f.tool.versionArguments f.probeLimit .quiet).outcome w).1 = .ok true

/-- Looking for the formatter for no folder arrives at a path, and its file passes the checks. -/
def ArrivesAt (f : Formatter) (w : World) (path : String) : Prop :=
  ∃ context interpreter, ((f.surroundings none).outcome w).1 = .ok (context, interpreter) ∧
    ((Locator.inspect (f.query context interpreter false)).outcome w).1 = .ok (path, true)

theorem checkedAt_eq_some_iff {f : Formatter} {w : World} {path : String} :
    f.checkedAt w = some path ↔ f.ArrivesAt w path ∧ f.Answers w path := by
  have hresolve : ((f.resolveCommand none .quiet).outcome w).1 =
      ((f.surroundings none).outcome w).1.bind fun known =>
        ((Locator.locate (f.query known.1 known.2 false) f.probeLimit .quiet).outcome w).1 :=
    ((f.reads_surroundings none).keepsScene w).result_bind fun _ =>
      Locator.ignoresHistory_locate _ _ _
  have hfound : f.checkedAt w = some path ↔
      ((f.resolveCommand none .quiet).outcome w).1 = .ok ⟨path, true⟩ := by
    rw [checkedAt]
    split
    · next found hlocated => simp [hlocated]
    · next hmissing => exact iff_of_false (by simp) (hmissing path)
  rw [hfound, hresolve, except_bind_eq_ok]
  constructor
  · rintro ⟨⟨context, interpreter⟩, hknown, hlocated⟩
    obtain ⟨hinspect, hanswers⟩ := Locator.locate_eq_available_iff.mp hlocated
    exact ⟨⟨context, interpreter, hknown, hinspect⟩, hanswers⟩
  · rintro ⟨⟨context, interpreter, hknown, hinspect⟩, hanswers⟩
    exact ⟨(context, interpreter), hknown,
      Locator.locate_eq_available_iff.mpr ⟨hinspect, hanswers⟩⟩

theorem preparedAt_eq_some_iff {f : Formatter} {w : World} {document : Path}
    {folder : Option Folder} (hfolder : f.workspace.folderFor w (some document) = .ok folder)
    {path : String} :
    f.preparedAt w document = some path ↔
      (∃ plan, f.Commands w folder plan path) ∧ f.Answers w path := by
  have hprepare : ((f.prepareFor document .quiet).outcome w).1 =
      ((f.prepare folder .quiet).outcome w).1 := by
    rw [prepareFor, outcome_bind, outcome_folderFor, hfolder]
  have hfound : f.preparedAt w document = some path ↔
      ∃ plan, ((f.plan folder).outcome w).1 = .ok plan ∧
        ((Locator.locate plan.query f.probeLimit .quiet).outcome w).1 = .ok ⟨path, true⟩ := by
    rw [preparedAt, hprepare, result_prepare]
    cases ((f.plan folder).outcome w).1 with
    | error failure => simp [Except.bind, Except.toOption]
    | ok plan =>
        dsimp only [Except.bind]
        cases hlocated : ((Locator.locate plan.query f.probeLimit .quiet).outcome w).1 with
        | error failure => simp [Except.toOption, hlocated]
        | ok resolved =>
            rcases resolved with ⟨found, available⟩
            cases available <;> simp [Except.toOption, hlocated, Plan.invocationOf]
  rw [hfound]
  constructor
  · rintro ⟨plan, hplan, hlocated⟩
    obtain ⟨hinspect, hanswers⟩ := Locator.locate_eq_available_iff.mp hlocated
    rw [(folder_and_tool_of_plan hplan).2] at hanswers
    exact ⟨⟨plan, hplan, hinspect⟩, hanswers⟩
  · rintro ⟨⟨plan, hplan, hinspect⟩, hanswers⟩
    refine ⟨plan, hplan, Locator.locate_eq_available_iff.mpr ⟨hinspect, ?_⟩⟩
    rw [(folder_and_tool_of_plan hplan).2]
    exact hanswers

/-- A check and the requests for a document agree exactly if the search without a folder and the
search for the folder of the document arrive at the same files among those that answer. -/
theorem checkedAt_eq_preparedAt_iff {f : Formatter} {w : World} {document : Path}
    {folder : Option Folder} (hfolder : f.workspace.folderFor w (some document) = .ok folder) :
    f.checkedAt w = f.preparedAt w document ↔
      ∀ path, f.Answers w path → (f.ArrivesAt w path ↔ ∃ plan, f.Commands w folder plan path) := by
  rw [Option.ext_iff]
  apply forall_congr'
  intro path
  rw [checkedAt_eq_some_iff, preparedAt_eq_some_iff hfolder]
  exact and_congr_left_iff

/-- The folder makes no difference to where the formatter is looked for: the same interpreters are
found for it as without it, the configured path does not stand on the workspace folder, and strict
settings leave no placeholder over. -/
structure Indifferent (f : Formatter) (w : World) (folder : Option Folder) : Prop where
  interpreters :
    ((f.interpreters.find (folder.map fun folder => .ofLocation folder.place)
        (f.environment.getD w.environment)).outcome w).1 =
      ((f.interpreters.find none (f.environment.getD w.environment)).outcome w).1
  path : ∀ context interpreter, ((f.surroundings folder).outcome w).1 = .ok (context, interpreter) →
    ∀ path ∈ f.settings.path, ∀ text ∈ Placeholder.splice interpreter [path],
      ¬context.NamesFolder text
  known : f.settings.strict = true → ∀ context interpreter,
    ((f.surroundings folder).outcome w).1 = .ok (context, interpreter) →
      (Placeholder.expandAll f.settings.arguments context interpreter).leftovers = [] ∧
        ∀ path ∈ f.settings.path,
          (Placeholder.expandAll [path] context interpreter).leftovers = []

namespace Indifferent

variable {f : Formatter} {w : World} {folder : Option Folder}

/-- Without the folder the context has no root, and nothing else changes. -/
theorem surroundings_none (h : f.Indifferent w folder) :
    ((f.surroundings none).outcome w).1 =
      ((f.surroundings folder).outcome w).1.map fun (context, interpreter) =>
        ({ context with root := none }, interpreter) := by
  rw [result_surroundings, result_surroundings, h.interpreters, Option.map_none]
  cases ((f.interpreters.find none (f.environment.getD w.environment)).outcome w).1 with
  | error failure => rfl
  | ok interpreters => cases w.directory.named <;> rfl

/-- The search without the folder inspects the same file. -/
theorem inspect_eq (h : f.Indifferent w folder) {context : Placeholder.Context}
    {interpreter : Option (List String)}
    (hknown : ((f.surroundings folder).outcome w).1 = .ok (context, interpreter)) :
    Locator.inspect (f.query { context with root := none } interpreter false) =
      Locator.inspect (f.query context interpreter f.settings.strict) := by
  have hcandidate : Locator.candidate f.settings.path { context with root := none } interpreter
      f.tool false =
        Locator.candidate f.settings.path context interpreter f.tool f.settings.strict := by
    unfold Locator.candidate
    cases hpath : f.settings.path.filter (· ≠ "") with
    | none => rfl
    | some path =>
        have hconfigured : path ∈ f.settings.path := (Option.filter_eq_some_iff.mp hpath).1
        have hsettle := Placeholder.Expansion.settle_of_known fun hstrict =>
          (h.known hstrict context interpreter hknown).2 path hconfigured
        simp only [Placeholder.resolve, hsettle, Placeholder.expandAll_without_root
          (h.path context interpreter hknown path hconfigured)]
  rw [Locator.inspect, Locator.inspect]
  simp only [query, Locator.Query.toolOrUsual, Option.getD_some, hcandidate]

/-- Where the folder makes no difference, the search without it arrives where requests do. -/
theorem arrivesAt_iff (h : f.Indifferent w folder) (path : String) :
    f.ArrivesAt w path ↔ ∃ plan, f.Commands w folder plan path := by
  have hnone := h.surroundings_none
  have hplan := f.result_plan folder w
  cases hsurroundings : ((f.surroundings folder).outcome w).1 with
  | error failure =>
      rw [hsurroundings] at hnone hplan
      simp [ArrivesAt, Commands, hnone, hplan, Except.map, Except.bind]
  | ok known =>
      rcases known with ⟨context, interpreter⟩
      obtain ⟨_, harguments⟩ := Placeholder.Expansion.answers_settle
        (fun hstrict => (h.known hstrict context interpreter hsurroundings).1) w
      have hresolved : ((Placeholder.resolve f.settings.arguments context interpreter
          f.settings.strict).outcome w).1 = .ok _ := congrArg Prod.fst harguments
      rw [hsurroundings] at hnone hplan
      simp only [Except.map, Except.bind, hresolved] at hnone hplan
      have hinspect := h.inspect_eq hsurroundings
      constructor
      · rintro ⟨context', interpreter', hnone', harrives⟩
        obtain ⟨rfl, rfl⟩ : { context with root := none } = context' ∧
            interpreter = interpreter' := by simpa [hnone] using hnone'
        exact ⟨_, hplan, by rw [← hinspect]; exact harrives⟩
      · rintro ⟨plan, hplan', harrives⟩
        obtain rfl := Except.ok.inj (hplan.symm.trans hplan')
        exact ⟨_, _, hnone, by rw [hinspect]; exact harrives⟩

end Indifferent

/-- Where the formatter is found for no folder is read off the scene. -/
theorem checkedAt_of_scene_eq (f : Formatter) {w other : World} (hscene : w.scene = other.scene) :
    f.checkedAt w = f.checkedAt other := by
  have hignores : (f.resolveCommand none .quiet).IgnoresHistory :=
    (f.reads_surroundings none).ignoresHistory.bind fun _ => Locator.ignoresHistory_locate _ _ _
  rw [checkedAt, checkedAt, (hignores w other hscene).1]

end Formatter

namespace CommandLine

/-- A check ends well exactly if the formatter is found for no folder, and then it shows where. -/
theorem run_check {s : Setup} {w : World} {f : Formatter}
    (hformatter : (s.formatter Tool.sqlfmt).outcome ⟨"", ""⟩ w = ((.ok f, ⟨"", ""⟩), w)) :
    (((check s).run w).code = 0 ↔ (f.checkedAt w).isSome = true) ∧
      ∀ path ∈ f.checkedAt w,
        ((check s).run w).screen = ⟨Console.plain ("✓ " ++ path ++ "\n"), ""⟩ := by
  rw [Session.run_eq, check, Session.outcome_bind, resolve,
    Session.outcome_bind_of_ok hformatter, Session.outcome_perform, Formatter.checkedAt]
  cases ((f.resolveCommand none .quiet).outcome w).1 with
  | error failure => simp [Ended.code]
  | ok resolved =>
      rcases resolved with ⟨path, available⟩
      cases available with
      | false => simp [Ended.code, Session.outcome_bind]
      | true => simp [Ended.code]

/-- What a check says about requests.  It ends well exactly if the formatter is found for no folder,
and shows where.  That is where the requests for a document find it if and only if, among the files
that answer the version query, the search without a folder and the search for the document's folder
arrive at the same; and they do if the folder makes no difference to the search. -/
theorem check_agrees_with_requests {arguments : List String} {general : General} {w : World}
    {f : Formatter} (hasks : Asks arguments general .check) (hmakes : general.Makes w f)
    (input : String) {document : Path} {folder : Option Folder}
    (hfolder : f.workspace.folderFor w (some document) = .ok folder) :
    let ended := (session arguments input).run w
    (ended.code = 0 ↔ (f.checkedAt w).isSome = true) ∧
      (∀ path ∈ f.checkedAt w, ended.screen = ⟨Console.plain ("✓ " ++ path ++ "\n"), ""⟩) ∧
      (f.checkedAt w = f.preparedAt w document ↔
        ∀ path, f.Answers w path →
          (f.ArrivesAt w path ↔ ∃ plan, f.Commands w folder plan path)) ∧
      (f.Indifferent w folder → f.checkedAt w = f.preparedAt w document) := by
  obtain ⟨s, records, -, hformatter, hrun⟩ := run_session hasks hmakes input
  have hchecked : f.checkedAt (w.logging records) = f.checkedAt w :=
    f.checkedAt_of_scene_eq (by simp)
  obtain ⟨hcode, hscreen⟩ := run_check hformatter
  rw [hchecked] at hcode hscreen
  have hagree := Formatter.checkedAt_eq_preparedAt_iff hfolder
  intro ended
  have hended : ended = (check s).run (w.logging records) := hrun
  rw [hended]
  exact ⟨hcode, hscreen, hagree, fun hindifferent =>
    hagree.mpr fun path _ => hindifferent.arrivesAt_iff path⟩

/-- A workspace with a formatter in its virtual environment, and a configuration that names the
formatter by its place in the workspace folder. -/
def venvWorld : World where
  files := ⟨[(["home"], .directory),
    (["home", "shandy.yml"], .file (Text.Utf8.encode
      "path: $\x7bworkspaceFolder\x7d/.venv/bin/sqlfmt\nworkspace: /proj\n") 0o644),
    (["proj"], .directory), (["proj", ".venv"], .directory),
    (["proj", ".venv", "bin"], .directory),
    (["proj", ".venv", "bin", "sqlfmt"], .program 0 0o755)]⟩
  programs := fun _ _ tree => some ⟨0, [], [], tree⟩
  environment := [("HOME", "/home")]
  directory := []
  log := []
  runs := []

/-- The formatter that this configuration makes. -/
def venvFormatter : Formatter where
  settings := { Settings.default with
    path := some (Placeholder.token "workspaceFolder" ++ "/.venv/bin/sqlfmt")
    workspace := some "/proj" }
  workspace := ⟨some ["proj"], []⟩
  interpreters := .discovered
  environment := none
  tool := .sqlfmt

theorem makes_venvFormatter : General.Makes ⟨none, none, false⟩ venvWorld venvFormatter :=
  makes_of_configured (by decide +kernel) (by decide +kernel)

/-- The check does not find the formatter that every request for a document in the workspace
uses. -/
theorem check_agrees_with_requests_venv :
    ((session ["config", "check"] "").run venvWorld).code ≠ 0 ∧
      venvFormatter.preparedAt venvWorld ⟨.slash, ["proj", "a.sql"]⟩ =
        some "/proj/.venv/bin/sqlfmt" := by
  have hasks : Asks ["config", "check"] ⟨none, none, false⟩ .check :=
    ⟨.config, ["check"], by rfl, by decide, by rfl⟩
  have hchecked : venvFormatter.checkedAt venvWorld = none := by decide +kernel
  have hcode := (check_agrees_with_requests hasks makes_venvFormatter ""
    (by rfl : venvFormatter.workspace.folderFor venvWorld (some ⟨.slash, ["proj", "a.sql"]⟩) =
      .ok (some ⟨"proj", ["proj"]⟩))).1
  exact ⟨by simp [hcode, hchecked], by decide +kernel⟩

end CommandLine

end FormatLauncher
