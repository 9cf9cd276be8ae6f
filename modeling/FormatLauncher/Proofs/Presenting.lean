/-
# Showing the settings

The settings are shown in a table whose texts are read as markup, and the command line they lead to
is shown beneath, its command and arguments escaped.  So a setting is shown as it is only if markup
takes nothing in it for more than text, and a setting that closes a style ends the session before
anything is shown.  A command line, or why there is none, is always shown.
-/

import FormatLauncher.Proofs.Markup
import FormatLauncher.Proofs.Preparing
import FormatLauncher.Proofs.Session
import FormatLauncher.Proofs.Settings

namespace FormatLauncher.CommandLine

open Console

/-! ## The command line -/

section Styles

open Markup

theorem isBody_of_style {name : String} (h : name ∈ ["bold", "/bold", "red", "/red"]) :
    IsBody name.toList := by
  simp only [List.mem_cons, List.not_mem_nil, or_false] at h
  rcases h with rfl | rfl | rfl | rfl
  · exact ⟨'b', ['o', 'l', 'd'], rfl, rfl, by simp [isInside]⟩
  · exact ⟨'/', ['b', 'o', 'l', 'd'], rfl, rfl, by simp [isInside]⟩
  · exact ⟨'r', ['e', 'd'], rfl, rfl, by simp [isInside]⟩
  · exact ⟨'/', ['r', 'e', 'd'], rfl, rfl, by simp [isInside]⟩

theorem marks_bold : Marks "bold".toList ⟨"bold", none⟩ :=
  marks_of_normalName (by decide +kernel) (by decide) (by decide +kernel) (by decide)
    (by decide +kernel)

theorem marks_red : Marks "red".toList ⟨"red", none⟩ :=
  marks_of_normalName (by decide +kernel) (by decide) (by decide +kernel) (by decide)
    (by decide +kernel)

/-- A command in a style, and arguments behind it. -/
theorem toList_command (command arguments : String) :
    ("\nCommand: [bold]" ++ command ++ "[/bold] " ++ arguments).toList =
      "\nCommand: ".toList ++ (bracketed "bold".toList ++ (command.toList ++
        (bracketed "/bold".toList ++ (" ".toList ++ arguments.toList)))) := by
  have hopen : "\nCommand: [bold]".toList = "\nCommand: ".toList ++ bracketed "bold".toList := by
    decide +kernel
  have hclose : "[/bold] ".toList = bracketed "/bold".toList ++ " ".toList := by decide +kernel
  simp only [String.toList_append, hopen, hclose, List.append_assoc]

theorem toList_commandMarkup (invocation : Invocation) :
    (commandMarkup invocation).toList = "\nCommand: ".toList ++ (bracketed "bold".toList ++
      ((escape invocation.command).toList ++ (bracketed "/bold".toList ++
        (" ".toList ++ (escape (" ".intercalate invocation.arguments)).toList)))) :=
  toList_command _ _

/-- A cross in a style, and a message behind it. -/
theorem toList_failure (message : String) :
    ("\n[red]✗[/red] " ++ message).toList = "\n".toList ++ (bracketed "red".toList ++
      ("✗".toList ++ (bracketed "/red".toList ++ (" ".toList ++ message.toList)))) := by
  have hfront : "\n[red]✗[/red] ".toList = "\n".toList ++ (bracketed "red".toList ++
      ("✗".toList ++ (bracketed "/red".toList ++ " ".toList))) := by decide +kernel
  simp only [String.toList_append, hfront, List.append_assoc]

theorem toList_failureMarkup (failure : Failure) :
    (failureMarkup failure).toList = "\n".toList ++ (bracketed "red".toList ++
      ("✗".toList ++ (bracketed "/red".toList ++
        (" ".toList ++ (escape failure.message).toList)))) :=
  toList_failure _

/-- Escaped text behind a space holds no tags. -/
theorem tags_space_escape (text : String) : tags (" ".toList ++ (escape text).toList) = [] := by
  rw [(tags_and_bare_append (by decide) _).1, tags_escape]

/-- The markup of a command line can be read, whatever the command and its arguments are. -/
theorem render_commandMarkup (invocation : Invocation) :
    render (commandMarkup invocation) = .ok (shown (commandMarkup invocation).toList) := by
  apply render_of_marks marks_bold
  rw [toList_commandMarkup, (tags_and_bare_append (by decide) _).1,
    (tags_and_bare_bracketed (isBody_of_style (by decide)) _).1]
  rcases tags_escape_append invocation.command (isBody_of_style (by decide : "/bold" ∈ _))
    (" ".toList ++ (escape (" ".intercalate invocation.arguments)).toList) with htags | htags
  · rw [htags, tags_space_escape]
    exact .inl rfl
  · rw [htags, tags_space_escape]
    exact .inr rfl

/-- The markup of a failure can be read, whatever its message is. -/
theorem render_failureMarkup (failure : Failure) :
    render (failureMarkup failure) = .ok (shown (failureMarkup failure).toList) := by
  apply render_of_marks marks_red
  rw [toList_failureMarkup, (tags_and_bare_append (by decide) _).1,
    (tags_and_bare_bracketed (isBody_of_style (by decide)) _).1,
    (tags_and_bare_append (by decide) _).1,
    (tags_and_bare_bracketed (isBody_of_style (by decide)) _).1, tags_space_escape]
  exact .inr rfl

/-- No backslash stands before a bracket or at the end of the text. -/
def IsUnslashed (text : String) : Prop :=
  ¬['\\', '['] <:+: text.toList ∧ text.toList.getLast? ≠ some '\\'

theorem bare_escape {text : String} (h : IsUnslashed text) :
    bare (escape text).toList = text.toList := by
  simpa using bare_escape_append h.1 h.2 isApart_nil

theorem bare_commandMarkup {invocation : Invocation} (hcommand : IsUnslashed invocation.command)
    (harguments : IsUnslashed (" ".intercalate invocation.arguments)) :
    bare (commandMarkup invocation).toList = ("\nCommand: " ++ invocation.command ++ " " ++
      " ".intercalate invocation.arguments).toList := by
  rw [toList_commandMarkup, (tags_and_bare_append (by decide) _).2,
    (tags_and_bare_bracketed (isBody_of_style (by decide)) _).2,
    bare_escape_append hcommand.1 hcommand.2 (isApart_bracketed _ _),
    (tags_and_bare_bracketed (isBody_of_style (by decide)) _).2,
    (tags_and_bare_append (by decide) _).2, bare_escape harguments]
  simp only [String.toList_append, List.append_assoc]

theorem bare_failureMarkup {failure : Failure} (hmessage : IsUnslashed failure.message) :
    bare (failureMarkup failure).toList = ("\n✗ " ++ failure.message).toList := by
  have hfront : "\n✗ ".toList = "\n".toList ++ ("✗".toList ++ " ".toList) := by decide +kernel
  rw [toList_failureMarkup, (tags_and_bare_append (by decide) _).2,
    (tags_and_bare_bracketed (isBody_of_style (by decide)) _).2,
    (tags_and_bare_append (by decide) _).2,
    (tags_and_bare_bracketed (isBody_of_style (by decide)) _).2,
    (tags_and_bare_append (by decide) _).2, bare_escape hmessage]
  simp only [String.toList_append, hfront, List.append_assoc]

end Styles

/-! ## The table -/

/-- The texts of the table of settings. -/
def settingTexts (f : Formatter) : List String :=
  (settingRows f).flatMap fun (left, right) => [left, right]

theorem failsFor_render (text : String) :
    FailsFor (Markup.render text) (Markup.render text = .error ·) :=
  ⟨fun _ h => h, fun h => h⟩

/-- A table cannot be drawn because of a text that cannot be read as markup. -/
theorem failsFor_table (rows : List (String × String)) :
    FailsFor (Table.render rows) fun failure =>
      ∃ text ∈ rows.flatMap fun (left, right) => [left, right],
        Markup.render text = .error failure := by
  have hlefts := failsFor_mapM (fun row : String × String => failsFor_render row.1) rows
  have hrights := failsFor_mapM (fun row : String × String => failsFor_render row.2) rows
  rw [Table.render]
  refine (hlefts.bind fun lefts _ => hrights.bind fun rights _ =>
    failsFor_ok _).congr fun failure => ?_
  simp only [List.mem_flatMap, List.mem_cons, List.not_mem_nil, or_false]
  grind

/-- If a table is drawn, all of its texts are shown. -/
theorem render_eq_ok_of_table {rows : List (String × String)} {table : String}
    (h : Table.render rows = .ok table) :
    ∀ text ∈ rows.flatMap fun (left, right) => [left, right],
      Markup.render text = .ok (Markup.shown text.toList) := by
  intro text htext
  cases hread : Markup.render text with
  | ok chars => rw [Markup.render_eq_ok hread]
  | error failure =>
      obtain ⟨cause, hcause⟩ := (failsFor_table rows).2 ⟨failure, text, htext, hread⟩
      cases h.symm.trans hcause

/-! ## The session -/

/-- The lines of a text on the screen. -/
def screenLines (text : List Char) : String :=
  String.ofList ((Layout.lines Layout.screenWidth .folded text).flatMap fun line => line ++ ['\n'])

theorem Session.outcome_printMarkup {markup : String} {chars : List Char}
    (h : Markup.render markup = .ok chars) (screen : Screen) (w : World) :
    (printMarkup markup).outcome screen w =
      ((.ok (), { screen with output := screen.output ++ screenLines chars }), w) := by
  rw [printMarkup, h]
  rfl

/-- What is shown beneath the settings when preparing comes to this. -/
def shownBelow (prepared : Except Failure Invocation) : String :=
  match prepared with
  | .ok invocation => screenLines (Markup.shown (commandMarkup invocation).toList)
  | .error failure =>
    if failure.isFormatting then screenLines (Markup.shown (failureMarkup failure).toList) else ""

/-- The session ends as preparing does: with exit code 1 if the formatter complains, and with any
other failure itself. -/
def Ended.EndsAs (ended : Ended) (prepared : Except Failure Invocation) : Prop :=
  ended.stop =
    match prepared with
    | .ok _ => none
    | .error failure => some (if failure.isFormatting then .exit 1 else .failed failure)

/-- The settings are shown with what preparing comes to, or the session ends with the failure of the
table. -/
theorem run_present {s : Setup} {w : World} {f : Formatter}
    (hformatter : (s.formatter Tool.sqlfmt).outcome ⟨"", ""⟩ w = ((.ok f, ⟨"", ""⟩), w)) :
    let ended := (present s).run w
    let prepared := ((f.prepare none .quiet).outcome w).1
    match Table.render (settingRows f) with
    | .ok table => ended.EndsAs prepared ∧ ended.screen = ⟨table ++ shownBelow prepared, ""⟩
    | .error failure => ended.stop = some (.failed failure) ∧ ended.screen = ⟨"", ""⟩ := by
  rw [Session.run_eq, present, Session.outcome_bind_of_ok hformatter]
  cases Table.render (settingRows f) with
  | error failure => simp
  | ok table =>
      dsimp only
      rw [Session.outcome_bind_of_ok (Session.outcome_printRich _ _ _),
        Session.outcome_bind_of_ok (Session.outcome_attempt _ _ _)]
      cases ((f.prepare none .quiet).outcome w).1 with
      | ok invocation =>
          dsimp only
          rw [Session.outcome_printMarkup (render_commandMarkup invocation)]
          simp [Ended.EndsAs, shownBelow]
      | error failure =>
          cases hformatting : failure.isFormatting with
          | false => simp [Ended.EndsAs, shownBelow, hformatting]
          | true =>
              simp [Ended.EndsAs, shownBelow, hformatting, Session.outcome_bind,
                Session.outcome_printMarkup (render_failureMarkup failure)]

/-- The settings are shown as they are, and the session ends well if a command line can be prepared,
with exit code 1 if the formatter complains, and never with a failure. -/
structure Ended.Presents (ended : Ended) (f : Formatter) (prepared : Except Failure Invocation) :
    Prop where
  succeeds : ∀ invocation, prepared = .ok invocation → ended.stop = none
  complains : ∀ failure, prepared = .error failure → failure.isFormatting = true →
    ended.stop = some (.exit 1)
  handled : ended.failure? = none
  kept : ∀ text ∈ settingTexts f, Markup.bare text.toList = text.toList

/-- All texts of the settings are shown, and beneath them what preparing comes to. -/
structure Ended.ShowsSettings (ended : Ended) (f : Formatter)
    (prepared : Except Failure Invocation) : Prop where
  texts : ∀ text ∈ settingTexts f, Markup.render text = .ok (Markup.shown text.toList)
  screen : ∃ table, Table.render (settingRows f) = .ok table ∧
    ended.screen = ⟨table ++ shownBelow prepared, ""⟩
  ends : ended.EndsAs prepared

/-- The session ends with the failure to read a text of the settings, and nothing is shown. -/
def Ended.FailsToShow (ended : Ended) (f : Formatter) : Prop :=
  ∃ text ∈ settingTexts f, ∃ failure, Markup.render text = .error failure ∧
    ended.stop = some (.failed failure) ∧ ended.screen = ⟨"", ""⟩

theorem Ended.FailsToShow.isSome_failure? {ended : Ended} {f : Formatter}
    (h : ended.FailsToShow f) : ended.failure?.isSome = true := by
  obtain ⟨_, _, failure, _, hstop, _⟩ := h
  simp [Ended.failure?, hstop]

theorem showsSettings_or_failsToShow {s : Setup} {w : World} {f : Formatter}
    (hformatter : (s.formatter Tool.sqlfmt).outcome ⟨"", ""⟩ w = ((.ok f, ⟨"", ""⟩), w)) :
    ((present s).run w).ShowsSettings f ((f.prepare none .quiet).outcome w).1 ∨
      ((present s).run w).FailsToShow f := by
  have hrun := run_present hformatter
  dsimp only at hrun
  cases htable : Table.render (settingRows f) with
  | ok table =>
      obtain ⟨hends, hscreen⟩ : _ ∧ _ := by simpa only [htable] using hrun
      exact .inl ⟨render_eq_ok_of_table htable, ⟨table, htable, hscreen⟩, hends⟩
  | error failure =>
      obtain ⟨hstop, hscreen⟩ : _ ∧ _ := by simpa only [htable] using hrun
      obtain ⟨text, htext, hfails⟩ := (failsFor_table _).1 failure htable
      exact .inr ⟨text, htext, failure, hfails, hstop, hscreen⟩

/-- A session that shows its settings presents them exactly if there is nothing in them that markup
would take for more than text, and preparing fails only by complaints of the formatter. -/
theorem Ended.ShowsSettings.presents_iff {ended : Ended} {f : Formatter}
    {prepared : Except Failure Invocation} (h : ended.ShowsSettings f prepared) :
    ended.Presents f prepared ↔ (∀ text ∈ settingTexts f, Markup.IsPlain text.toList) ∧
      ∀ failure, prepared = .error failure → failure.isFormatting = true := by
  have hends := h.ends
  constructor
  · intro hpresents
    refine ⟨fun text htext => Markup.bare_eq_self_iff.mp (hpresents.kept text htext), ?_⟩
    rintro failure rfl
    by_contra hstray
    have hstop : ended.stop = some (.failed failure) := by
      simpa [Ended.EndsAs, hstray] using hends
    simpa [Ended.failure?, hstop] using hpresents.handled
  · rintro ⟨hplain, hcomplains⟩
    have hkept : ∀ text ∈ settingTexts f, Markup.bare text.toList = text.toList :=
      fun text htext => Markup.bare_eq_self_iff.mpr (hplain text htext)
    cases prepared with
    | ok invocation =>
        have hstop : ended.stop = none := hends
        exact ⟨fun _ _ => hstop, nofun, by simp [Ended.failure?, hstop], hkept⟩
    | error failure =>
        have hstop : ended.stop = some (.exit 1) := by
          simpa [Ended.EndsAs, hcomplains failure rfl] using hends
        exact ⟨nofun, fun _ _ _ => hstop, by simp [Ended.failure?, hstop], hkept⟩

/-- When the settings are shown as they are.  The session presents them exactly if there is no tag
and no backslash before a bracket in any text of the table, and preparing fails only by complaints
of the formatter.  If all texts can be read, the table is shown, and beneath it what preparing comes
to; otherwise the session ends with the failure to read one of them, as it does if the first tag of
a text closes a style.  In the command line, or in why there is none, nothing is taken for markup,
backslashes before brackets and at the end apart. -/
theorem settings_presented_iff {arguments : List String} {general : General} {w : World}
    {f : Formatter} (hasks : Asks arguments general .present) (hmakes : general.Makes w f)
    (input : String) :
    let ended := (session arguments input).run w
    let prepared := ((f.prepare none .quiet).outcome w).1
    (ended.Presents f prepared ↔ (∀ text ∈ settingTexts f, Markup.IsPlain text.toList) ∧
      ∀ failure, prepared = .error failure → failure.isFormatting = true) ∧
    (ended.ShowsSettings f prepared ∨ ended.FailsToShow f) ∧
    (∀ text ∈ settingTexts f, ∀ name more, Markup.tags text.toList = ('/' :: name) :: more →
      ended.FailsToShow f) ∧
    (∀ invocation, prepared = .ok invocation → IsUnslashed invocation.command →
      IsUnslashed (" ".intercalate invocation.arguments) →
        Markup.bare (commandMarkup invocation).toList = ("\nCommand: " ++ invocation.command ++
          " " ++ " ".intercalate invocation.arguments).toList) ∧
    ∀ failure, prepared = .error failure → IsUnslashed failure.message →
      Markup.bare (failureMarkup failure).toList = ("\n✗ " ++ failure.message).toList := by
  obtain ⟨s, records, -, hformatter, hrun⟩ := run_session hasks hmakes input
  have hprepared : ((f.prepare none .quiet).outcome (w.logging records)).1 =
      ((f.prepare none .quiet).outcome w).1 :=
    (f.ignoresHistory_prepare none .quiet (w.logging records) w (by simp)).1
  intro ended prepared
  have hshown : ended.ShowsSettings f prepared ∨ ended.FailsToShow f := by
    have hended : ended = (present s).run (w.logging records) := hrun
    rw [hended]
    simpa only [prepared, ← hprepared] using showsSettings_or_failsToShow hformatter
  refine ⟨?_, hshown, ?_, fun _ _ => bare_commandMarkup, fun _ _ => bare_failureMarkup⟩
  · rcases hshown with hshows | hfails
    · exact hshows.presents_iff
    · have hfailure := hfails.isSome_failure?
      obtain ⟨text, htext, failure, hrender, -, -⟩ := hfails
      refine iff_of_false (fun hpresents => ?_) fun ⟨hplain, _⟩ => ?_
      · simp [hpresents.handled] at hfailure
      · cases hrender.symm.trans (Markup.render_of_isPlain (hplain text htext))
  · intro text htext name more htags
    refine hshown.resolve_left fun hshows => ?_
    obtain ⟨failure, hfails⟩ := Markup.exists_render_eq_error htags
    cases hfails.symm.trans (hshows.texts text htext)

/-- A file system with the formatter, and a configuration whose argument closes a style. -/
def closingWorld : World where
  files := ⟨[(["home"], .directory),
    (["home", "shandy.yml"], .file (Text.Utf8.encode
      "path: /bin/sqlfmt\nargs: ['[/x]']\n") 0o644),
    (["bin"], .directory), (["bin", "sqlfmt"], .program 0 0o755)]⟩
  programs := fun _ _ tree => some ⟨0, [], [], tree⟩
  environment := [("HOME", "/home")]
  directory := []
  log := []
  runs := []

/-- The formatter that this configuration makes. -/
def closingFormatter : Formatter where
  settings := { Settings.default with path := some "/bin/sqlfmt", arguments := ["[/x]"] }
  workspace := ⟨none, []⟩
  interpreters := .discovered
  environment := none
  tool := .sqlfmt

/-- A command line can be prepared, but instead of it and the settings there is a failure. -/
theorem settings_presented_iff_closing :
    ((closingFormatter.prepare none .quiet).outcome closingWorld).1 =
        .ok ⟨"/bin/sqlfmt", ["[/x]"], none⟩ ∧
      ((session ["config", "show"] "").run closingWorld).failure?.isSome = true := by
  have hasks : Asks ["config", "show"] ⟨none, none, false⟩ .present :=
    ⟨.config, ["show"], by rfl, by decide, by rfl⟩
  have hmakes : General.Makes ⟨none, none, false⟩ closingWorld closingFormatter :=
    makes_of_configured (by decide +kernel) (by decide +kernel)
  have hcloses := (settings_presented_iff hasks hmakes "").2.2.1
  refine ⟨by decide +kernel, (hcloses "[/x]" ?_ "x".toList [] ?_).isSome_failure?⟩
  · decide +kernel
  · decide +kernel

end FormatLauncher.CommandLine
