/-
# Dashes among the targets

The formatter gets every file in the shortest spelling of its path.  Single dots and the slashes
after them are dropped from the front of a relative path, so a dash that was kept from leading by
them leads again.  Nothing else makes a target look like an option, and a target is a dash alone
only if nothing else is named.
-/

import FormatLauncher.Proofs.FormatInPlace
import FormatLauncher.Proofs.FormatInput

namespace FormatLauncher

/-! ## Spellings -/

namespace Path

/-- The first name in a relative spelling starts with a dash. -/
def ShowsDash (spelling : String) : Prop :=
  ∃ front name rest, segments spelling = front ++ name :: rest ∧ front.head? ≠ some "" ∧
    (∀ segment ∈ front, segment = "" ∨ segment = ".") ∧ name.toList.head? = some '-'

/-- A dash is the only name in a relative spelling. -/
def ShowsOnlyDash (spelling : String) : Prop :=
  ∃ front rest, segments spelling = front ++ "-" :: rest ∧ front.head? ≠ some "" ∧
    ∀ segment ∈ front ++ rest, segment = "" ∨ segment = "."

/-- The first segment is empty exactly if the spelling is, or if it starts with a slash. -/
theorem head?_segments_eq_empty_iff (spelling : String) :
    (segments spelling).head? = some "" ↔ spelling = "" ∨ spelling.toList.head? = some '/' := by
  rw [segments, ← String.toList_eq_nil_iff]
  cases spelling.toList with
  | nil => simp [segmentChars]
  | cons c rest =>
      by_cases hc : c = '/'
      · simp [hc, segmentChars]
      · cases hrest : segmentChars rest with
        | nil => simp [segmentChars, hc, hrest]
        | cons segment segments => simp [segmentChars, hc, hrest]

/-- A spelling with a name in it is relative exactly if what stands before does not start with an
empty segment. -/
theorem rootOf_eq_relative_iff_of_segments {spelling name : String} {front rest : List String}
    (hsegments : segments spelling = front ++ name :: rest) (hname : name ≠ "") :
    rootOf spelling = .relative ↔ front.head? ≠ some "" := by
  rw [rootOf_eq_relative_iff]
  apply not_congr
  have hfirst := head?_segments_eq_empty_iff spelling
  rw [hsegments] at hfirst
  cases front with
  | nil => simpa [hname] using fun h => hfirst.mpr (.inr h)
  | cons segment front =>
      have hne : spelling ≠ "" := by
        rintro rfl
        have hlength := congrArg List.length hsegments
        simp [segments, segmentChars] at hlength
      simpa [hne] using hfirst.symm

/-- No name is left of segments exactly if they are empty or single dots. -/
theorem filter_segments_eq_nil_iff {segments : List String} :
    segments.filter (fun name => name ≠ "" && name ≠ ".") = [] ↔
      ∀ segment ∈ segments, segment = "" ∨ segment = "." := by
  simp [List.filter_eq_nil_iff, or_iff_not_imp_left]

/-- The first name of a relative spelling is the first segment that is neither empty nor a single
dot. -/
theorem parse_eq_relative_cons_iff {spelling name : String} {names : List String} :
    parse spelling = ⟨.relative, name :: names⟩ ↔
      ∃ front rest, segments spelling = front ++ name :: rest ∧ front.head? ≠ some "" ∧
        (∀ segment ∈ front, segment = "" ∨ segment = ".") ∧ (name ≠ "" ∧ name ≠ ".") ∧
        rest.filter (fun name => name ≠ "" && name ≠ ".") = names := by
  rw [parse, Path.mk.injEq, List.filter_eq_cons_iff]
  constructor
  · rintro ⟨hroot, front, rest, hsegments, hfront, hname, hrest⟩
    have hkept : name ≠ "" ∧ name ≠ "." := by simpa using hname
    exact ⟨front, rest, hsegments,
      (rootOf_eq_relative_iff_of_segments hsegments hkept.1).mp hroot,
      filter_segments_eq_nil_iff.mp (List.filter_eq_nil_iff.mpr hfront), hkept, hrest⟩
  · rintro ⟨front, rest, hsegments, hfirst, hfront, hkept, hrest⟩
    exact ⟨(rootOf_eq_relative_iff_of_segments hsegments hkept.1).mpr hfirst, front, rest,
      hsegments, List.filter_eq_nil_iff.mp (filter_segments_eq_nil_iff.mpr hfront), by simpa,
      hrest⟩

/-- The text of a path starts with a dash exactly if the path is relative and its first name does. -/
theorem head?_text_eq_dash_iff {p : Path} (hnames : ∀ name ∈ p.names, IsName name) :
    p.text.toList.head? = some '-' ↔
      ∃ name rest, p = ⟨.relative, name :: rest⟩ ∧ name.toList.head? = some '-' := by
  rcases p with ⟨root, names⟩
  cases root with
  | relative =>
      cases names with
      | nil => simp [text, rootText]
      | cons name rest =>
          have hwritten := mt (intercalate_eq_empty_iff hnames).mp (by simp)
          have hname : name.toList ≠ [] := mt String.toList_eq_nil_iff.mp (hnames name (by simp)).1
          have hhead : ("/".intercalate (name :: rest)).toList.head? = name.toList.head? := by
            obtain ⟨c, chars, hchars⟩ := List.exists_cons_of_ne_nil hname
            cases rest <;> simp [hchars]
          have htext : text ⟨.relative, name :: rest⟩ = "/".intercalate (name :: rest) := by
            simp [text, rootText, hwritten]
          rw [htext, hhead]
          simp
  | slash => simp [text, rootText]
  | doubleSlash => simp [text, rootText]

/-- The target for a spelling starts with a dash exactly if the first name in it does. -/
theorem head?_text_parse_eq_dash_iff (spelling : String) :
    (parse spelling).text.toList.head? = some '-' ↔ ShowsDash spelling := by
  rw [head?_text_eq_dash_iff fun _ => isName_of_mem_parse]
  constructor
  · rintro ⟨name, names, hparse, hdash⟩
    obtain ⟨front, rest, hsegments, hfirst, hfront, -, -⟩ := parse_eq_relative_cons_iff.mp hparse
    exact ⟨front, name, rest, hsegments, hfirst, hfront, hdash⟩
  · rintro ⟨front, name, rest, hsegments, hfirst, hfront, hdash⟩
    have hkept : name ≠ "" ∧ name ≠ "." := by
      constructor <;> (rintro rfl; simp at hdash)
    exact ⟨name, _, parse_eq_relative_cons_iff.mpr
      ⟨front, rest, hsegments, hfirst, hfront, hkept, rfl⟩, hdash⟩

/-- The target for a spelling is a dash alone exactly if that is the only name in it. -/
theorem text_parse_eq_dash_iff (spelling : String) :
    (parse spelling).text = "-" ↔ ShowsOnlyDash spelling := by
  have hparse : (parse spelling).text = "-" ↔ parse spelling = ⟨.relative, ["-"]⟩ := by
    constructor
    · intro htext
      rw [← parse_text_parse, htext]
      decide
    · intro hsame
      rw [hsame]
      decide
  rw [hparse, parse_eq_relative_cons_iff]
  constructor
  · rintro ⟨front, rest, hsegments, hfirst, hfront, -, hrest⟩
    exact ⟨front, rest, hsegments, hfirst,
      List.forall_mem_append.mpr ⟨hfront, filter_segments_eq_nil_iff.mp hrest⟩⟩
  · rintro ⟨front, rest, hsegments, hfirst, hnone⟩
    obtain ⟨hfront, hrest⟩ := List.forall_mem_append.mp hnone
    exact ⟨front, rest, hsegments, hfirst, hfront, by decide,
      filter_segments_eq_nil_iff.mpr hrest⟩

end Path

/-! ## Runs that come to a success -/

/-- A supervised run that ends with output was started once and finished, and left its files. -/
theorem Locator.supervise_eq_finished {ready : Launch.Ready} {input : Text.Bytes}
    {limit : Option Seconds} {schedule : Schedule} {w later : World} {ending : Ending}
    {finish : Finish}
    (h : (supervise ready input limit schedule).outcome w = (.ok (ending, some finish), later)) :
    later = w.afterRun (ready.run true) (some finish) := by
  rw [outcome_supervise] at h
  split at h
  · cases h
  · split at h
    · cases h
    · next watch _ =>
        cases hcompleted : watch.completed with
        | false => simp [hcompleted] at h
        | true =>
            simp only [hcompleted, if_true, Prod.mk.injEq, Except.ok.injEq] at h
            obtain ⟨⟨-, hfinish⟩, rfl⟩ := h
            rw [hfinish]

/-- In-place work that succeeds has started its command, and the run finished. -/
theorem Execution.inPlace_eq_ok {w later : World} {command : String}
    {arguments targets : List String} {terms : Terms} {output : Output}
    (h : (inPlace command arguments targets terms).outcome w = (.ok output, later)) :
    ∃ run : Run, later.runs = w.runs ++ [run] ∧ run.finished = true := by
  cases hstart : Launch.start w command (arguments ++ targets) terms.directory with
  | error refusal =>
      obtain ⟨_, hw⟩ := outcome_inPlace_of_refused hstart
      simp [hw] at h
  | ok ready =>
      obtain ⟨first, second, hw⟩ := outcome_inPlace_of_started hstart
      rw [hw] at h
      dsimp only at h
      rcases hseen : (Locator.supervise ready [] terms.limit terms.schedule).outcome
        (w.logging first) with ⟨failure | ⟨ending, finished⟩, between⟩
      · simp [hseen, Except.bind] at h
      · rw [hseen, Prod.mk.injEq, Action.except_bind_eq_ok] at h
        obtain ⟨⟨_, hsame, hverdict⟩, rfl⟩ := h
        obtain rfl := Except.ok.inj hsame
        obtain ⟨_, hverdict, -⟩ := Action.except_bind_eq_ok.mp hverdict
        -- Only a run that ended with output is not a failure.
        obtain ⟨finish, rfl⟩ : ∃ finish, finished = some finish := by
          cases finished with
          | none => cases ending <;> simp [verdict] at hverdict
          | some finish => exact ⟨finish, rfl⟩
        exact ⟨ready.run true, by simp [Locator.supervise_eq_finished hseen, World.afterRun], rfl⟩

/-- A request in place that succeeds has asked for the version and started the formatter, and the
formatter finished. -/
theorem Formatter.formatInPlace_eq_ok {f : Formatter} {files : List Path} {schedule : Schedule}
    {w later : World} {output : Execution.Output}
    (h : (f.formatInPlace files schedule).outcome w = (.ok output, later)) :
    ∃ query run : Run, later.runs = w.runs ++ [query, run] ∧ run.finished = true := by
  cases files with
  | nil => cases h
  | cons first rest =>
      unfold formatInPlace at h
      obtain ⟨_, announced, hannounced, hfolder⟩ := Action.outcome_bind_eq_ok.mp h
      obtain ⟨folder, chosen, hchosen, hprepare⟩ := Action.outcome_bind_eq_ok.mp hfolder
      obtain ⟨invocation, prepared, hprepared, hrun⟩ := Action.outcome_bind_eq_ok.mp hprepare
      have hannounce := (reads_announceAll (first :: rest)).runs_eq hannounced
      have hchoose := (f.reads_folderFor (some first)).runs_eq hchosen
      obtain ⟨_, _, -, -, query, hquery⟩ := outcome_prepare_eq_ok hprepared
      obtain ⟨run, hruns, hfinished⟩ := Execution.inPlace_eq_ok hrun
      exact ⟨query, run, by simp [hruns, hquery, hchoose, hannounce], hfinished⟩

/-- A request in place that starts a second program hands it the files as its last arguments. -/
theorem Formatter.arguments_of_formatInPlace {f : Formatter} {files : List Path}
    {schedule : Schedule} {w : World} {query run : Run}
    (hruns : ((f.formatInPlace files schedule).outcome w).2.runs = w.runs ++ [query, run]) :
    ∃ before, run.arguments = before ++ files.map Path.text := by
  cases files with
  | nil =>
      have hlength := congrArg List.length hruns
      simp [formatInPlace] at hlength
  | cons first rest =>
      obtain ⟨_, _, ready, _, -, -, hstart, rfl⟩ := formatInPlace_prepared hruns
      obtain ⟨-, -, before, hbefore⟩ := Launch.start_eq_ok hstart
      exact ⟨before ++ _, by rw [Launch.Ready.run, hbefore, List.append_assoc]⟩

/-! ## From the command line -/

namespace CommandLine

/-- Formatting in place starts what the request starts; it says how many paths were given, or
fails. -/
theorem run_formatInPlace (f : Formatter) (files : List String) (w : World) :
    let ended := (formatInPlace f files).run w
    let asked := (f.formatInPlace (files.map Path.parse) .quiet).outcome w
    ended.world.runs = asked.2.runs ∧
      match asked.1 with
      | .ok _ => ended.screen.output =
          Console.plain ("✓ Formatted " ++ toString files.length ++ " path(s)" ++ "\n")
      | .error _ => ended.code = 1 := by
  dsimp only
  rw [Session.run_eq, formatInPlace, Session.outcome_bind, orReport, Session.outcome_bind,
    Session.outcome_attempt]
  rcases (f.formatInPlace (files.map Path.parse) .quiet).outcome w with ⟨failure | output, later⟩
  · cases hformatting : failure.isFormatting with
    | true => simp [hformatting, report, Session.outcome_bind, Ended.code]
    | false => simp [hformatting, Ended.code]
  · simp

/-- Files that are named without a dash are left to the formatter, unless they are to be checked. -/
theorem run_format_inPlace {s : Setup} {f : Formatter} {w : World}
    (hformatter : (s.formatter Tool.sqlfmt).outcome ⟨"", ""⟩ w = ((.ok f, ⟨"", ""⟩), w))
    {task : FormatTask} (hinPlace : task.inPlace = true) (hmark : inputMark ∉ task.files) :
    (carryOut s (.format task)).run w =
      (if task.check then refuse "--check cannot be combined with --in-place"
        else formatInPlace f task.files).run w := by
  rw [Session.run_eq, Session.run_eq, carryOut, format, Session.outcome_bind_of_ok hformatter]
  cases task.check <;> simp [hinPlace, hmark, refuse, Session.outcome_bind]

/-- Formatting in place from the command line, with files that are named without a dash.  Whatever
is started after the version query gets all files as its last arguments, each in the shortest
spelling of its path, and after a success it was started and finished.  An argument for a file
starts with a dash exactly if the first name in the given spelling does, and is the mark for the
input exactly if a dash is the only name in it. -/
theorem inPlace_dash_iff_shown {arguments : List String} {general : General} {task : FormatTask}
    {w : World} {f : Formatter} (hasks : Asks arguments general (.format task))
    (hmakes : general.Makes w f) (hinPlace : task.inPlace = true)
    (hmark : inputMark ∉ task.files) (input : String) :
    let ended := (session arguments input).run w
    let target (spelling : String) := (Path.parse spelling).text
    (∀ query run, ended.world.runs = w.runs ++ [query, run] →
      ∃ before, run.arguments = before ++ task.files.map target) ∧
      (ended.code = 0 →
        ended.screen.output =
            Console.plain ("✓ Formatted " ++ toString task.files.length ++ " path(s)" ++ "\n") ∧
          ∃ query run, ended.world.runs = w.runs ++ [query, run] ∧ run.finished = true) ∧
      ∀ spelling ∈ task.files,
        ((target spelling).toList.head? = some '-' ↔ Path.ShowsDash spelling) ∧
          (target spelling = Execution.inputMark ↔ Path.ShowsOnlyDash spelling) := by
  intro ended target
  obtain ⟨s, records, -, hformatter, hrun⟩ := run_session hasks hmakes input
  rw [run_format_inPlace hformatter hinPlace hmark] at hrun
  have hspellings : ∀ spelling ∈ task.files,
      ((target spelling).toList.head? = some '-' ↔ Path.ShowsDash spelling) ∧
        (target spelling = Execution.inputMark ↔ Path.ShowsOnlyDash spelling) :=
    fun spelling _ =>
      ⟨Path.head?_text_parse_eq_dash_iff spelling, Path.text_parse_eq_dash_iff spelling⟩
  cases hcheck : task.check with
  | true =>
      -- The options do not go together, so nothing is started.
      have hrefused : ended.code = 1 ∧ ended.world.runs = w.runs := by
        rw [show ended = _ from hrun, hcheck, if_pos rfl, Session.run_eq]
        simp [refuse, Session.outcome_bind, Ended.code]
      refine ⟨fun query run hruns => ?_, fun hcode => ?_, hspellings⟩
      · simp [hrefused.2] at hruns
      · simp [hrefused.1] at hcode
  | false =>
      rw [hcheck, if_neg (by decide)] at hrun
      obtain ⟨hstarted, hends⟩ := run_formatInPlace f task.files (w.logging records)
      rw [← hrun] at hstarted hends
      refine ⟨fun query run hruns => ?_, fun hcode => ?_, hspellings⟩
      · have htargets : task.files.map target = (task.files.map Path.parse).map Path.text := by
          rw [List.map_map]
          rfl
        rw [htargets]
        exact Formatter.arguments_of_formatInPlace (hstarted.symm.trans hruns)
      · rcases hasked : (f.formatInPlace (task.files.map Path.parse) .quiet).outcome
          (w.logging records) with ⟨failure | output, later⟩
        · rw [hasked] at hends
          exact absurd (hends.symm.trans hcode) (by decide)
        · rw [hasked] at hstarted hends
          obtain ⟨query, run, hruns, hfinished⟩ := Formatter.formatInPlace_eq_ok hasked
          exact ⟨hends, query, run, hstarted.trans hruns, hfinished⟩

/-- A world with a file whose name starts with a dash, and a formatter that only prints. -/
def dashWorld : World where
  files := ⟨[(["bin"], .directory), (["bin", "sqlfmt"], .program 0 0o755),
    (["-x.sql"], .file [] 0o644)]⟩
  programs := fun _ _ tree => some ⟨0, [], [], tree⟩
  environment := [("HOME", "/")]
  directory := []
  log := []
  runs := []

/-- A dash that a dot and a slash keep from leading leads in the target, and the session says that the
path was formatted. -/
theorem inPlace_dash_iff_shown_dot :
    let ended := (session ["format", "--in-place", "./-x.sql"] "").run dashWorld
    ended.code = 0 ∧ ended.screen.output = "✓ Formatted 1 path(s)\n" ∧
      ∃ query run before, ended.world.runs = dashWorld.runs ++ [query, run] ∧
        run.arguments = before ++ ["-x.sql"] := by
  intro ended
  have hmakes : General.Makes ⟨none, none, false⟩ dashWorld bareFormatter :=
    makes_of_configured (by decide +kernel) (by decide +kernel)
  have hasks : Asks ["format", "--in-place", "./-x.sql"] ⟨none, none, false⟩
      (.format ⟨["./-x.sql"], false, true, none⟩) :=
    ⟨.format, ["--in-place", "./-x.sql"], by rfl, by decide, by rfl⟩
  have hcode : ended.code = 0 := by decide +kernel
  obtain ⟨hhanded, hsuccess, -⟩ := inPlace_dash_iff_shown hasks hmakes rfl (by decide) ""
  obtain ⟨houtput, query, run, hruns, -⟩ := hsuccess hcode
  obtain ⟨before, hbefore⟩ := hhanded query run hruns
  refine ⟨hcode, ?_, query, run, before, hruns, ?_⟩
  · rw [houtput]
    decide +kernel
  · rw [hbefore, List.append_cancel_left_eq]
    decide +kernel

end CommandLine

end FormatLauncher
