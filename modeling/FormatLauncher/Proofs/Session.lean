/-
# What sessions do

A session acts on a world and prints; its outcome is how it ends, what is on the screen then, and
the world it leaves.  Sessions are sequences of few kinds of steps, and each kind has its law here.
The configuration is loaded by reading only, and the request that the arguments make is what the
session then carries out, on a blank screen.
-/

import FormatLauncher.CommandLine.Run
import FormatLauncher.Proofs.Reading

namespace FormatLauncher.CommandLine

namespace Session

variable {α β : Type}

/-- Do a session on a screen and a world. -/
def outcome (session : Session α) (screen : Screen) (w : World) :
    (Except Stop α × Screen) × World :=
  session screen w

@[simp]
theorem outcome_pure (x : α) (screen : Screen) (w : World) :
    (pure x : Session α).outcome screen w = ((.ok x, screen), w) := rfl

@[simp]
theorem outcome_throw (stop : Stop) (screen : Screen) (w : World) :
    (throw stop : Session α).outcome screen w = ((.error stop, screen), w) := rfl

@[simp]
theorem outcome_exit (code : Nat) (screen : Screen) (w : World) :
    (exit code : Session α).outcome screen w = ((.error (.exit code), screen), w) := rfl

@[simp]
theorem mapError_ok (stopping : Failure → Stop) (x : α) :
    (Except.ok x).mapError stopping = .ok x := rfl

@[simp]
theorem mapError_error (stopping : Failure → Stop) (failure : Failure) :
    (Except.error failure : Except Failure α).mapError stopping = .error (stopping failure) := rfl

@[simp]
theorem outcome_perform (action : Action α) (screen : Screen) (w : World) :
    (perform action).outcome screen w =
      (((action.outcome w).1.mapError .failed, screen), (action.outcome w).2) := by
  unfold outcome perform
  rcases action.outcome w with ⟨failure | x, later⟩ <;> rfl

@[simp]
theorem outcome_attempt (action : Action α) (screen : Screen) (w : World) :
    (attempt action).outcome screen w =
      ((.ok (action.outcome w).1, screen), (action.outcome w).2) := rfl

@[simp]
theorem outcome_print (text : String) (screen : Screen) (w : World) :
    (print text).outcome screen w =
      ((.ok (), { screen with output := screen.output ++ Console.plain text }), w) := rfl

@[simp]
theorem outcome_printLine (text : String) (screen : Screen) (w : World) :
    (printLine text).outcome screen w =
      ((.ok (), { screen with output := screen.output ++ Console.plain (text ++ "\n") }), w) := rfl

@[simp]
theorem outcome_printError (text : String) (screen : Screen) (w : World) :
    (printError text).outcome screen w =
      ((.ok (), { screen with errors := screen.errors ++ Console.plain (text ++ "\n") }), w) := rfl

@[simp]
theorem outcome_printRich (text : String) (screen : Screen) (w : World) :
    (printRich text).outcome screen w =
      ((.ok (), { screen with output := screen.output ++ text }), w) := rfl

/-- A sequence does its first session and goes on where that one ended, unless it stopped. -/
theorem outcome_bind (session : Session α) (next : α → Session β) (screen : Screen) (w : World) :
    (session >>= next).outcome screen w =
      match session.outcome screen w with
      | ((.ok x, printed), later) => (next x).outcome printed later
      | ((.error stop, printed), later) => ((.error stop, printed), later) := by
  have hbind : (session >>= next).outcome screen w =
      ExceptT.bindCont next (session screen w).1.1 (session screen w).1.2 (session screen w).2 :=
    rfl
  rw [hbind, outcome]
  rcases session screen w with ⟨⟨_ | x, printed⟩, later⟩ <;> rfl

/-- A sequence goes on after a session that does not stop. -/
theorem outcome_bind_of_ok {session : Session α} {screen printed : Screen} {w later : World} {x : α}
    (h : session.outcome screen w = ((.ok x, printed), later)) (next : α → Session β) :
    (session >>= next).outcome screen w = (next x).outcome printed later := by
  rw [outcome_bind, h]

/-- What is left of a session is what it comes to on a blank screen. -/
theorem run_eq (session : Session Unit) (w : World) :
    session.run w =
      ⟨(session.outcome ⟨"", ""⟩ w).1.2,
        match (session.outcome ⟨"", ""⟩ w).1.1 with
        | .ok _ => none
        | .error stop => some stop,
        (session.outcome ⟨"", ""⟩ w).2⟩ := by
  rw [run, outcome]
  rcases session ⟨"", ""⟩ w with ⟨⟨_ | x, screen⟩, later⟩ <;> rfl

end Session

/-! ## From the arguments to the task -/

/-- Where the interpreters that the general options ask for come from. -/
def General.interpreters (general : General) : Interpreter.Source :=
  match general.interpreter.filter (· ≠ "") with
  | some path => .given [path]
  | none => .discovered

/-- The formatter of a setup is the one that its settings make, if they make one. -/
theorem outcome_formatter (s : Setup) (tool : Tool) (screen : Screen) (w : World) :
    (s.formatter tool).outcome screen w =
      (((Formatter.make w s.settings s.general.interpreters tool).mapError .failed, screen),
        w) := by
  rw [Setup.formatter, Session.outcome_perform, Action.outcome_get_bind, Action.outcome_ofExcept]
  rfl

/-- The arguments ask for a task that needs the configuration. -/
def Asks (arguments : List String) (general : General) (task : Task) : Prop :=
  ∃ command rest, readGeneral arguments = .run (general, command, rest) ∧ command ≠ .version ∧
    command.read rest = .run task

/-- Arguments that ask for something are not empty. -/
theorem Asks.isEmpty_eq_false {arguments : List String} {general : General} {task : Task}
    (h : Asks arguments general task) : arguments.isEmpty = false := by
  obtain ⟨command, rest, hread, -, -⟩ := h
  cases arguments with
  | nil =>
      have hnone : readGeneral [] = .misuse := by rfl
      simp [hnone] at hread
  | cons first rest => rfl

/-- A session loads the configuration and carries out the task that its arguments ask for.  The text
on its input has line feeds for carriage returns. -/
theorem session_eq {arguments : List String} {general : General} {task : Task}
    (hasks : Asks arguments general task) (input : String) :
    session arguments input = (do
      let (config, settings) ← configured general
      carryOut ⟨general, config, settings, String.ofList (Text.unifyReturns input.toList)⟩
        task) := by
  have hnonempty := hasks.isEmpty_eq_false
  obtain ⟨command, rest, hread, hcommand, htask⟩ := hasks
  rw [session, hnonempty, hread]
  simp only [Bool.false_eq_true, if_false, pure_bind, Request.orStop, hcommand, htask]

/-- Loading the configuration only reads. -/
theorem reads_loadConfig (asked : Option String) : (loadConfig asked).Reads := by
  have hload : (ConfigFile.load asked).Reads := by
    unfold ConfigFile.load
    apply Action.reads_get_bind
    · intro w
      have hchoose : ConfigFile.choose w.scene asked = ConfigFile.choose w asked := by
        simp [ConfigFile.choose]
        rfl
      rw [hchoose]
      rfl
    · intro w
      exact (Action.reads_ofExcept _).bind fun _ => (Action.reads_ofExcept _).bind fun _ =>
        (Action.reads_ofExcept _).bind fun _ => (Action.reads_ofExcept _).bind fun _ =>
        (Action.reads_ofExcept _).bind fun _ => (Action.reads_sayAll _).bind fun _ =>
          Action.reads_pure _
  exact hload.bind fun config => ((Action.reads_sayAll _).bind fun _ =>
    Action.reads_ofExcept _).bind fun settings => (Action.reads_say _ _).bind fun _ =>
      Action.reads_pure _

/-- The configuration is loaded by reading only, and if it is loaded nothing is printed. -/
theorem outcome_configured (general : General) (screen : Screen) (w : World) :
    ∃ result printed records,
      (configured general).outcome screen w = ((result, printed), w.logging records) ∧
        ∀ loaded, result = .ok loaded → printed = screen := by
  obtain ⟨records, hload⟩ :=
    (reads_loadConfig (general.config.filter (· ≠ ""))).outcome_eq w
  rw [configured, Session.outcome_bind, Session.outcome_attempt, hload]
  dsimp only
  split
  · exact ⟨_, _, records, rfl, fun _ _ => rfl⟩
  · split
    · simp only [Session.outcome_bind, Session.outcome_perform, Action.outcome_say,
        Session.mapError_ok, Session.outcome_pure, World.logging_logging]
      exact ⟨_, _, _, rfl, fun _ _ => rfl⟩
    · split
      · rw [Session.outcome_bind_of_ok (Session.outcome_printError _ _ _)]
        exact ⟨_, _, records, rfl, by simp⟩
      · exact ⟨_, _, records, rfl, by simp⟩

/-- The formatter of some settings does not depend on the log. -/
theorem make_logging (w : World) (records : List LogRecord) (settings : Settings)
    (interpreters : Interpreter.Source) (tool : Tool) :
    Formatter.make (w.logging records) settings interpreters tool =
      Formatter.make w settings interpreters tool := by
  have hfolders (folders : Bindings) : Workspace.expandFolders (w.logging records) folders =
      Workspace.expandFolders w folders := by
    induction folders with
    | nil => rfl
    | cons first rest ih =>
        unfold Workspace.expandFolders
        rw [ih]
        rfl
  unfold Formatter.make Workspace.ofPaths
  rw [hfolders]
  rfl

/-- The configuration that the general options name is loaded, and its settings make this
formatter. -/
def General.Makes (general : General) (w : World) (f : Formatter) : Prop :=
  ∃ config settings, ((configured general).outcome ⟨"", ""⟩ w).1.1 = .ok (config, settings) ∧
    Formatter.make w settings general.interpreters Tool.sqlfmt = .ok f

/-- The formatter is put together from the settings that are loaded and the workspace of their
paths. -/
theorem makes_of_configured {general : General} {w : World} {settings : Settings}
    {workspace : Workspace}
    (hsettings : ((configured general).outcome ⟨"", ""⟩ w).1.1.toOption.map Prod.snd =
      some settings)
    (hworkspace : (Workspace.ofPaths w settings.workspace settings.folders).toOption =
      some workspace) :
    general.Makes w ⟨settings, workspace, general.interpreters, none, Tool.sqlfmt⟩ := by
  rcases hloads : ((configured general).outcome ⟨"", ""⟩ w).1.1 with stop | ⟨config, loaded⟩
  · simp [hloads, Except.toOption] at hsettings
  · obtain rfl : loaded = settings := by simpa [hloads, Except.toOption] using hsettings
    refine ⟨config, loaded, hloads, ?_⟩
    rw [Formatter.make]
    cases hpaths : Workspace.ofPaths w loaded.workspace loaded.folders with
    | error failure => simp [hpaths, Except.toOption] at hworkspace
    | ok made =>
        obtain rfl : made = workspace := by simpa [hpaths, Except.toOption] using hworkspace
        rfl

/-- A session carries out the task that its arguments ask for, with the formatter that the
configuration makes, on a blank screen and in the same scene.  The text on its input has line feeds
for carriage returns. -/
theorem run_session {arguments : List String} {general : General} {task : Task} {w : World}
    {f : Formatter} (hasks : Asks arguments general task) (hmakes : general.Makes w f)
    (input : String) :
    ∃ s records, s.input = String.ofList (Text.unifyReturns input.toList) ∧
      (s.formatter Tool.sqlfmt).outcome ⟨"", ""⟩ (w.logging records) =
        ((.ok f, ⟨"", ""⟩), w.logging records) ∧
      (session arguments input).run w = (carryOut s task).run (w.logging records) := by
  obtain ⟨config, settings, hloads, hmake⟩ := hmakes
  obtain ⟨result, printed, records, hconfigured, hblank⟩ := outcome_configured general ⟨"", ""⟩ w
  obtain rfl : result = .ok (config, settings) := by simpa [hconfigured] using hloads
  obtain rfl := hblank _ rfl
  refine ⟨⟨general, config, settings, String.ofList (Text.unifyReturns input.toList)⟩, records, rfl,
    ?_, ?_⟩
  · rw [outcome_formatter, make_logging, hmake]
    rfl
  · rw [Session.run_eq, Session.run_eq, session_eq hasks, Session.outcome_bind_of_ok hconfigured]

end FormatLauncher.CommandLine
