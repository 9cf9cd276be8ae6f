/-
# Formatting the input is formatting a file

A document on the input is formatted as the same document in a file is, and what would be written to
the file is printed.  Two things get in the way: carriage returns do not pass the input, and escape
sequences are not printed.  Apart from these the two agree.
-/

import FormatLauncher.Proofs.FormatFiles
import FormatLauncher.Proofs.Report

namespace FormatLauncher

namespace Formatter

open Action

/-- What is asked of the programs holds in every world of the scene. -/
theorem LeavesFiles.of_scene_eq {f : Formatter} {w other : World} (h : f.LeavesFiles w)
    (hscene : w.scene = other.scene) : f.LeavesFiles other := by
  intro folder plan command hcommands
  obtain ⟨hprobe, hfilter⟩ := h folder plan command (hcommands.of_scene_eq hscene.symm)
  rw [← World.files_eq_of_scene_eq hscene]
  simp only [← Launch.start_eq_of_scene_eq hscene]
  exact ⟨hprobe, hfilter⟩

/-- Formatting a text ignores the history. -/
theorem ignoresHistory_formatText (f : Formatter) (text : String) (document : Option String)
    (schedule : Schedule) : (f.formatText text document schedule).IgnoresHistory :=
  (reads_announce _).ignoresHistory.bind fun _ => (f.reads_folderFor _).ignoresHistory.bind
    fun folder => (f.ignoresHistory_prepare folder schedule).bind fun _ =>
      Execution.ignoresHistory_asFilter _ _ _ _

/-- What formatting a text comes to: its folder, the plan for it, and what is printed. -/
theorem result_formatText {f : Formatter} {w : World} (hleaves : f.LeavesFiles w) (text : String)
    (document : Option String) (schedule : Schedule) :
    ((f.formatText text document schedule).outcome w).1 =
      (f.workspace.folderFor w (document.map Path.parse)).bind fun folder =>
        ((f.plan folder).outcome w).1.bind fun plan => f.printed w schedule ⟨text, plan⟩ := by
  have hfilter (invocation : Invocation) : (Execution.asFilter invocation.command
      invocation.arguments text (f.terms invocation schedule)).IgnoresHistory :=
    Execution.ignoresHistory_asFilter _ _ _ _
  have hrest (folder : Option Folder) : (f.prepare folder schedule >>= fun invocation =>
      Execution.asFilter invocation.command invocation.arguments text
        (f.terms invocation schedule)).IgnoresHistory :=
    (f.ignoresHistory_prepare folder schedule).bind hfilter
  refine (((reads_announce _).keepsScene w).result_bind fun _ =>
    (f.reads_folderFor _).ignoresHistory.bind hrest).trans ?_
  refine (((f.reads_folderFor _).keepsScene w).result_bind hrest).trans ?_
  rw [outcome_folderFor]
  congr 1
  funext folder
  refine ((keepsScene_prepare hleaves folder schedule).result_bind hfilter).trans ?_
  rw [result_prepare]
  cases ((f.plan folder).outcome w).1 with
  | error failure => rfl
  | ok plan =>
      simp only [printed, Except.bind, bind]
      cases ((Locator.locate plan.query f.probeLimit schedule).outcome w).1 with
      | error failure => rfl
      | ok resolved =>
          obtain ⟨_, hw⟩ := f.answers_invocation plan resolved w
          simp only [hw]

/-- Formatting a text hands the octets of the text to the formatter and gets those of the result. -/
theorem prints_encode_of_formatText {f : Formatter} {w : World} (hleaves : f.LeavesFiles w)
    {text after : String} {document : Option String} {schedule : Schedule}
    (hafter : ((f.formatText text document schedule).outcome w).1 = .ok after) :
    f.Prints w (document.map Path.parse) (Text.Utf8.encode text) (Text.Utf8.encode after) := by
  obtain ⟨output, hprints, houtput⟩ := prints_of_formatText_eq_ok hleaves hafter
  rwa [Text.Utf8.encode_of_decode houtput]

/-- A file by itself comes to its text and to what formatting the text comes to. -/
theorem alone_eq_formatText {f : Formatter} {w : World} (hleaves : f.LeavesFiles w) (name : String)
    (schedule : Schedule) :
    f.alone w schedule (Path.parse name) =
      (readText w (Path.parse name)).bind fun text =>
        ((f.formatText text (some name) schedule).outcome w).1.map fun after => (text, after) := by
  rw [alone, result_draft]
  cases readText w (Path.parse name) with
  | error failure => rfl
  | ok text =>
      simp only [Except.bind, bind, result_formatText hleaves, Option.map_some]
      cases f.workspace.folderFor w (some (Path.parse name)) with
      | error failure => rfl
      | ok folder =>
          simp only
          cases ((f.plan folder).outcome w).1 with
          | error failure => rfl
          | ok plan => rfl

/-- After a file was settled whose change can be written, it holds what the formatter printed. -/
theorem read_of_settled {f : Formatter} {w later : World} (hopen : w.IsOpen) {file : Path}
    {schedule : Schedule} {original output : Text.Bytes} {before after : String}
    (horiginal : Contents.read w file = .ok original)
    (hbefore : Text.Utf8.decode original = .ok before)
    (houtput : Text.Utf8.decode output = .ok after)
    (halone : f.alone w schedule file = .ok (before, after))
    (hwritable : after ≠ before → Contents.writing w file (Text.Utf8.encode after) = .ok ())
    (hlater : later.scene = (w.withFiles (f.settled w true schedule w.files file)).scene) :
    Contents.read later file = .ok output := by
  have hresult : resultBack w file before after true = .ok (decide (after ≠ before)) :=
    resultBack_eq_ok.mpr ⟨rfl, fun hne _ => hwritable hne⟩
  have hscene : later.scene =
      (w.withFiles (writtenBack w file before after true w.files)).scene := by
    rw [hlater, settled, halone]
  rw [read_of_writtenBack hopen horiginal houtput hresult hscene]
  by_cases hsame : after = before
  · obtain rfl : output = original := by
      rw [← Text.Utf8.encode_of_decode houtput, ← Text.Utf8.encode_of_decode hbefore, hsame]
    simp
  · simp [hsame]

end Formatter

namespace CommandLine

open Formatter

/-- Formatting the input prints the formatted text, or fails with nothing printed. -/
theorem run_formatInput (f : Formatter) (input : String) (name : Option String) (w : World) :
    match (f.formatText input name .quiet).outcome w with
    | (.ok after, later) =>
      (formatInput f input name).run w = ⟨⟨Console.plain after, ""⟩, none, later⟩
    | (.error _, _) =>
      ((formatInput f input name).run w).code = 1 ∧
        ((formatInput f input name).run w).screen.output = "" := by
  rw [Session.run_eq, formatInput, Session.outcome_bind, orReport, Session.outcome_bind,
    Session.outcome_attempt]
  rcases (f.formatText input name .quiet).outcome w with ⟨failure | after, later⟩
  · cases hformatting : failure.isFormatting with
    | true => simp [hformatting, report, Session.outcome_bind, Ended.code]
    | false => simp [hformatting, Ended.code]
  · simp

/-- Files that are named without a dash are formatted one by one. -/
theorem run_format_files {s : Setup} {f : Formatter} {w : World}
    (hformatter : (s.formatter Tool.sqlfmt).outcome ⟨"", ""⟩ w = ((.ok f, ⟨"", ""⟩), w))
    {names : List String} (hnames : inputMark ∉ names) (check : Bool) (document : Option String) :
    (carryOut s (.format ⟨names, check, false, document⟩)).run w =
      (formatFiles f names check).run w := by
  rw [Session.run_eq, Session.run_eq, carryOut, format, Session.outcome_bind_of_ok hformatter]
  simp [hnames]

/-- A dash alone has the input formatted. -/
theorem run_format_input {s : Setup} {f : Formatter} {w : World}
    (hformatter : (s.formatter Tool.sqlfmt).outcome ⟨"", ""⟩ w = ((.ok f, ⟨"", ""⟩), w))
    (inPlace : Bool) (document : Option String) :
    (carryOut s (.format ⟨[inputMark], false, inPlace, document⟩)).run w =
      (formatInput f s.input document).run w := by
  rw [Session.run_eq, Session.run_eq, carryOut, format, Session.outcome_bind_of_ok hformatter]
  simp

section Agreement

variable {w : World} {general : General} {f : Formatter} {name : String}

/-- Formatting a file from the command line. -/
theorem run_session_file (hopen : w.IsOpen) (hmakes : general.Makes w f)
    (hleaves : f.LeavesFiles w) (hname : name ≠ inputMark) {original output : Text.Bytes}
    {document after : String} (horiginal : Contents.read w (Path.parse name) = .ok original)
    (hdocument : Text.Utf8.decode original = .ok document)
    (houtput : Text.Utf8.decode output = .ok after)
    (hafter : ((f.formatText document (some name) .quiet).outcome w).1 = .ok after)
    (hwritable : after ≠ document →
      Contents.writing w (Path.parse name) (Text.Utf8.encode after) = .ok ())
    {arguments : List String} {belongs : Option String}
    (hasks : Asks arguments general (.format ⟨[name], false, false, belongs⟩)) (input : String) :
    ((session arguments input).run w).code = 0 ∧
      Contents.read ((session arguments input).run w).world (Path.parse name) = .ok output := by
  obtain ⟨s, records, -, hformatter, hrun⟩ := run_session hasks hmakes input
  have hscene : (w.logging records).scene = w.scene := by simp
  have hleaves' := hleaves.of_scene_eq hscene.symm
  have horiginal' : Contents.read (w.logging records) (Path.parse name) = .ok original := by
    rw [Contents.read_congr (World.files_logging w records) (World.directory_logging w records)
      (World.storage_logging w records), horiginal]
  have halone : f.alone (w.logging records) .quiet (Path.parse name) = .ok (document, after) := by
    have hread : readText (w.logging records) (Path.parse name) = .ok document := by
      rw [readText, horiginal']
      simp [hdocument]
    rw [alone_eq_formatText hleaves', hread]
    dsimp only [Except.bind]
    rw [(f.ignoresHistory_formatText _ _ _ _ _ hscene).1, hafter]
    rfl
  have hwritable' : after ≠ document → Contents.writing (w.logging records) (Path.parse name)
      (Text.Utf8.encode after) = .ok () := hwritable
  have hresult : f.resultAlone (w.logging records) true .quiet (Path.parse name) =
      .ok (decide (after ≠ document)) := by
    rw [resultAlone, halone]
    exact resultBack_eq_ok.mpr ⟨rfl, fun hne _ => hwritable' hne⟩
  obtain ⟨later, hbatch, hlater⟩ : ∃ later, (f.formatFiles ([name].map Path.parse) (!false)
      .quiet).outcome (w.logging records) = (.ok [⟨Path.parse name, _⟩], later) ∧ _ :=
    outcome_formatFiles_one hleaves' hresult
  obtain ⟨hreports, _, hlogged⟩ := reports_formatFiles hbatch
  rw [hrun, run_format_files hformatter (by simpa using hname.symm)]
  refine ⟨hreports.code.mpr (by simp [FileResult.isOk, Except.toOption]), ?_⟩
  have hopen' : (w.logging records).IsOpen := hopen
  rw [hlogged]
  exact read_of_settled hopen' horiginal' hdocument houtput halone hwritable'
    (by simpa using hlater)

/-- Formatting the input from the command line. -/
theorem run_session_input (hmakes : general.Makes w f) {arguments : List String} {inPlace : Bool}
    (hasks : Asks arguments general (.format ⟨[inputMark], false, inPlace, some name⟩))
    (input : String) :
    match ((f.formatText (String.ofList (Text.unifyReturns input.toList)) (some name)
      .quiet).outcome w).1 with
    | .ok printed =>
      ((session arguments input).run w).code = 0 ∧
        ((session arguments input).run w).screen.output = Console.plain printed
    | .error _ =>
      ((session arguments input).run w).code = 1 ∧
        ((session arguments input).run w).screen.output = "" := by
  obtain ⟨s, records, hinput, hformatter, hrun⟩ := run_session hasks hmakes input
  have hsame := (f.ignoresHistory_formatText s.input (some name) .quiet (w.logging records) w
    (by simp)).1
  have hformat := run_formatInput f s.input (some name) (w.logging records)
  rw [hrun, run_format_input hformatter, ← hinput, ← hsame]
  rcases houtcome : (f.formatText s.input (some name) .quiet).outcome (w.logging records) with
    ⟨failure | printed, later⟩
  · rw [houtcome] at hformat
    exact hformat
  · rw [houtcome] at hformat
    dsimp only at hformat ⊢
    rw [hformat]
    exact ⟨rfl, rfl⟩

/-- Formatting a document from the input and from a file.  For a file that can be read as text
and formatted, and written if that changes it, the file mode hands its bytes to the formatter and
leaves there what the formatter prints.  The input mode hands over the document with line feeds for
carriage returns, and prints what the formatter prints for that without its escape sequences, or
fails with nothing printed.  So the formatter gets the same bytes and the same bytes come out exactly
if the document holds no carriage return and the formatted text no escape sequence. -/
theorem input_agrees_with_file_iff (hopen : w.IsOpen) (hmakes : general.Makes w f)
    (hleaves : f.LeavesFiles w) (hname : name ≠ inputMark) {original : Text.Bytes}
    {document after : String} (horiginal : Contents.read w (Path.parse name) = .ok original)
    (hdocument : Text.Utf8.decode original = .ok document)
    (hafter : ((f.formatText document (some name) .quiet).outcome w).1 = .ok after)
    (hwritable : after ≠ document →
      Contents.writing w (Path.parse name) (Text.Utf8.encode after) = .ok ())
    {fileArguments inputArguments : List String} {belongs : Option String} {inPlace : Bool}
    (hfile : Asks fileArguments general (.format ⟨[name], false, false, belongs⟩))
    (hinput : Asks inputArguments general (.format ⟨[inputMark], false, inPlace, some name⟩))
    (unread : String) :
    let byFile := (session fileArguments unread).run w
    let byInput := (session inputArguments document).run w
    let handed := String.ofList (Text.unifyReturns document.toList)
    (byFile.code = 0 ∧
        f.Prints w (some (Path.parse name)) original (Text.Utf8.encode after) ∧
        Contents.read byFile.world (Path.parse name) = .ok (Text.Utf8.encode after)) ∧
      (match ((f.formatText handed (some name) .quiet).outcome w).1 with
        | .ok printed =>
          byInput.code = 0 ∧ byInput.screen.output = Console.plain printed ∧
            f.Prints w (some (Path.parse name)) (Text.Utf8.encode handed)
              (Text.Utf8.encode printed)
        | .error _ => byInput.code = 1 ∧ byInput.screen.output = "") ∧
      ((Text.Utf8.encode handed = original ∧ Contents.read byFile.world (Path.parse name) =
          .ok (Text.Utf8.encode byInput.screen.output)) ↔
        '\r' ∉ document.toList ∧ ¬Console.HasSequence after.toList) := by
  intro byFile byInput handed
  obtain ⟨hcode, hread⟩ : byFile.code = 0 ∧ Contents.read byFile.world (Path.parse name) =
      .ok (Text.Utf8.encode after) :=
    run_session_file hopen hmakes hleaves hname horiginal hdocument
      (Text.Utf8.decode_encode after) hafter hwritable hfile unread
  have hformatted := run_session_input hmakes hinput document
  have horiginal' := Text.Utf8.encode_of_decode hdocument
  refine ⟨⟨hcode, horiginal' ▸ prints_encode_of_formatText hleaves hafter, hread⟩, ?_, ?_⟩
  · cases hhanded : ((f.formatText handed (some name) .quiet).outcome w).1 with
    | error failure =>
        rw [hhanded] at hformatted
        exact hformatted
    | ok printed =>
        rw [hhanded] at hformatted
        exact ⟨hformatted.1, hformatted.2, prints_encode_of_formatText hleaves hhanded⟩
  · rw [← horiginal', Text.Utf8.encode_inj, Text.ofList_unifyReturns_eq_self_iff]
    apply and_congr_right
    intro hnone
    rw [Text.ofList_unifyReturns_eq_self_iff.mpr hnone, hafter] at hformatted
    have hprinted : byInput.screen.output = Console.plain after := hformatted.2
    rw [hread, Except.ok.injEq, hprinted, Text.Utf8.encode_inj, ← Console.plain_eq_self_iff]
    exact eq_comm

end Agreement

/-- A world with a file that ends in a carriage return, and a formatter that changes nothing. -/
def returnWorld : World where
  files := ⟨[(["bin"], .directory), (["bin", "sqlfmt"], .program 0 0o755),
    (["a.sql"], .file [0x61, 0x0D] 0o644)]⟩
  programs := fun _ call tree => some ⟨0, call.input, [], tree⟩
  environment := [("HOME", "/")]
  directory := []
  log := []
  runs := []

/-- The formatter that is made without a configuration. -/
def bareFormatter : Formatter where
  settings := Settings.default
  workspace := ⟨none, []⟩
  interpreters := .discovered
  environment := none
  tool := .sqlfmt

/-- A carriage return stays in the file and is lost on the way through the input. -/
theorem input_agrees_with_file_iff_return :
    let byFile := (session ["format", "a.sql"] "").run returnWorld
    let byInput := (session ["format", "--stdin-filename", "a.sql", "-"] "a\r").run returnWorld
    byFile.code = 0 ∧ byInput.code = 0 ∧
      Contents.read byFile.world (Path.parse "a.sql") ≠
        .ok (Text.Utf8.encode byInput.screen.output) := by
  have hleaves : bareFormatter.LeavesFiles returnWorld := by
    apply leavesFiles_of_programs
    intro id call tree finish hfinish
    obtain rfl : _ = finish := Option.some.inj hfinish
    rfl
  have hmakes : General.Makes ⟨none, none, false⟩ returnWorld bareFormatter :=
    makes_of_configured (by decide +kernel) (by decide +kernel)
  have hafter : ((bareFormatter.formatText "a\r" (some "a.sql") .quiet).outcome returnWorld).1 =
      .ok "a\r" := by decide +kernel
  have hhanded : ((bareFormatter.formatText (String.ofList (Text.unifyReturns "a\r".toList))
      (some "a.sql") .quiet).outcome returnWorld).1 = .ok "a\n" := by decide +kernel
  have hopen : returnWorld.IsOpen := FileTree.isOpen_root _
  have hread : Contents.read returnWorld (Path.parse "a.sql") = .ok [0x61, 0x0D] := by
    decide +kernel
  have hfile : Asks ["format", "a.sql"] ⟨none, none, false⟩
      (.format ⟨["a.sql"], false, false, none⟩) := ⟨.format, ["a.sql"], by rfl, by decide, by rfl⟩
  have hinput : Asks ["format", "--stdin-filename", "a.sql", "-"] ⟨none, none, false⟩
      (.format ⟨[inputMark], false, false, some "a.sql"⟩) :=
    ⟨.format, ["--stdin-filename", "a.sql", "-"], by rfl, by decide, by rfl⟩
  obtain ⟨⟨hcode, -, hkept⟩, hprinted, -⟩ := input_agrees_with_file_iff hopen hmakes hleaves
    (by decide) hread (by decide +kernel) hafter (by decide +kernel) hfile hinput ""
  rw [hhanded] at hprinted
  refine ⟨hcode, hprinted.1, ?_⟩
  rw [hkept, hprinted.2.1]
  decide +kernel

end CommandLine

end FormatLauncher
