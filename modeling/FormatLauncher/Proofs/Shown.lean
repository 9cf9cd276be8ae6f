/-
# Which failures are shown

The failures of a batch stand on the screen one after the other, each beneath its file, unless the
formatter is missing for all files: then only the first of them is shown.  The files may belong to
different folders, and the formatter may be missing at a different place for each, so others can be
lost.  A failure of a missing formatter is told apart from another one by its command alone, since
its hint is the hint of the tool; so nothing is lost exactly if the command is one for all files.
-/

import FormatLauncher.Proofs.FormatInput
import FormatLauncher.Proofs.Report
import FormatLauncher.Proofs.Unlogged

namespace FormatLauncher

open Action

/-- The failure gives this hint if it says that the formatter is missing. -/
def Failure.GivesHint (hint : String) : Failure → Prop
  | .notInstalled _ given => given = hint
  | _ => True

theorem Failure.IsOfRequest.givesHint {hint : String} {strict : Bool} {schedule : Schedule}
    {failure : Failure} (h : failure.IsOfRequest hint strict schedule) :
    failure.GivesHint hint := by
  cases failure <;> first | exact h | trivial

/-! ## What a batch returns -/

namespace Action

variable {α β : Type} {holds : α → Prop} {after : β → Prop}

/-- Whatever the action returns has this property. -/
def Returns (holds : α → Prop) (action : Action α) : Prop :=
  ∀ w x, (action.outcome w).1 = .ok x → holds x

theorem returns_pure {x : α} (h : holds x) : (pure x : Action α).Returns holds := by
  intro w y hy
  obtain rfl : x = y := by simpa using hy
  exact h

theorem returns_throw (failure : Failure) : (throw failure : Action α).Returns holds := by
  intro w x hx
  simp at hx

theorem Returns.bind {action : Action α} {next : α → Action β} (haction : action.Returns holds)
    (hnext : ∀ x, holds x → (next x).Returns after) : (action >>= next).Returns after := by
  intro w y hy
  rw [outcome_bind] at hy
  rcases houtcome : action.outcome w with ⟨failure | x, later⟩
  · simp [houtcome] at hy
  · exact hnext x (haction w x (by simp [houtcome])) later y (by simpa [houtcome] using hy)

/-- What an action returns when nothing is asked of it. -/
theorem returns_true (action : Action α) : action.Returns fun _ => True := fun _ _ _ => trivial

end Action

section Kind

variable {kind : Failure → Prop}

/-- What is located through a cache fails as locating does. -/
theorem Locator.Cache.returns_locateAll {limit : Option Seconds} {schedule : Schedule}
    (hlocate : ∀ q, (Locator.locate q limit schedule).FailsOnly kind) (queries : List Query)
    {cache : Cache}
    (hcache : ∀ key failure, cache.outcome? key = some (.error failure) → kind failure) :
    (cache.locateAll limit schedule queries).Returns fun located =>
      ∀ failure, .error failure ∈ located.1 → kind failure := by
  induction queries generalizing cache with
  | nil => exact returns_pure (by simp)
  | cons q rest ih =>
      have hone : (cache.locate q limit schedule).Returns fun located =>
          (∀ failure, located.1 = .error failure → kind failure) ∧
            ∀ key failure, located.2.outcome? key = some (.error failure) → kind failure := by
        intro w located hlocated
        obtain ⟨known, hknown, hw⟩ | ⟨-, later, hw, hlater⟩ :=
          cache.outcome_locate_cases q limit schedule w
        · obtain rfl : (known, cache) = located := by simpa [hw] using hlocated
          exact ⟨fun failure h => hcache q.key failure (h ▸ hknown), hcache⟩
        · obtain rfl : (_, later) = located := by simpa [hw] using hlocated
          refine ⟨hlocate q w, fun key failure h => ?_⟩
          obtain hbefore | ⟨-, hnew⟩ := hlater key _ h
          · exact hcache key failure hbefore
          · exact hlocate q w failure hnew.symm
      refine hone.bind fun located hlocated => (ih hlocated.2).bind fun more hmore =>
        returns_pure fun failure hfailure => ?_
      obtain hfirst | hrest := List.mem_cons.mp hfailure
      · exact hlocated.1 failure hfirst.symm
      · exact hmore failure hrest

namespace Formatter

/-- Finishing files fails for each as planning, locating and finishing it do. -/
theorem returns_finishAll {f : Formatter} {write : Bool} {schedule : Schedule}
    (hfinish : ∀ file draft located, (∀ failure, located = .error failure → kind failure) →
      (f.finish file draft located write schedule).FailsOnly kind)
    {drafts : List (Path × Except Failure Draft)} {located : List Locator.Outcome}
    (hdrafts : ∀ file failure, (file, .error failure) ∈ drafts → kind failure)
    (hlocated : ∀ failure, .error failure ∈ located → kind failure) :
    (f.finishAll write schedule drafts located).Returns fun results =>
      ∀ r ∈ results, ∀ failure, r.outcome = .error failure → kind failure := by
  have hcons {r : FileResult} {more : List FileResult}
      (hr : ∀ failure, r.outcome = .error failure → kind failure)
      (hmore : ∀ r ∈ more, ∀ failure, r.outcome = .error failure → kind failure) :
      ∀ r' ∈ r :: more, ∀ failure, r'.outcome = .error failure → kind failure :=
    List.forall_mem_cons.mpr ⟨hr, hmore⟩
  induction drafts generalizing located with
  | nil => exact returns_pure (by simp)
  | cons first rest ih =>
      have hrest := fun file failure h => hdrafts file failure (List.mem_cons_of_mem _ h)
      rcases first with ⟨file, failure | draft⟩
      · refine (ih hrest hlocated).bind fun more hmore => returns_pure (hcons ?_ hmore)
        rintro cause ⟨⟩
        exact hdrafts file failure (by simp)
      · cases located with
        | nil => exact returns_pure (by simp)
        | cons outcome later =>
            have hone : (collecting file (f.finish file draft outcome write schedule)).Returns
                fun result => ∀ failure, result = .error failure → kind failure := by
              intro w result hresult failure hfailure
              obtain ⟨_, hw⟩ := outcome_collecting file
                (f.finish file draft outcome write schedule) w
              obtain rfl : _ = result := by simpa [hw] using hresult
              exact hfinish file draft outcome (fun cause h => hlocated cause (by simp [h])) w
                failure hfailure
            exact hone.bind fun result hresult =>
              (ih hrest fun cause h => hlocated cause (by simp [h])).bind fun more hmore =>
                returns_pure (hcons hresult hmore)

/-- If the formatter is missing for a file of a batch, the hint is that of its tool. -/
theorem returns_formatFiles (f : Formatter) (files : List Path) (write : Bool)
    (schedule : Schedule) : (f.formatFiles files write schedule).Returns fun results =>
      ∀ r ∈ results, ∀ failure, r.outcome = .error failure →
        failure.GivesHint f.tool.installHint := by
  have hfinish (file : Path) (draft : Draft) (located : Locator.Outcome)
      (hlocated : ∀ failure, located = .error failure → failure.GivesHint f.tool.installHint) :
      (f.finish file draft located write schedule).FailsOnly
        (·.GivesHint f.tool.installHint) := by
    rw [finish_eq]
    have hhint (failure : Failure)
        (h : failure.IsOfRequest f.tool.installHint false schedule) :
        failure.GivesHint f.tool.installHint := h.givesHint
    exact (f.failsOnly_print draft hhint hlocated).bind fun after =>
      (failsOnly_writeBack file draft.text after write).mono fun failure h =>
        hhint failure h.isOfRequest
  have hlocate (q : Locator.Query) : (Locator.locate q f.probeLimit schedule).FailsOnly
      (·.GivesHint f.tool.installHint) :=
    (Locator.failsOnly_locate Seconds.isSome_toBinary?_of_mem_map_real q schedule).mono
      fun _ h => h.givesHint
  have hdrafting : (files.mapM fun file => (do
      return (file, ← collecting file (f.draft file)) : Action _)).Returns fun drafts =>
        ∀ file failure, (file, .error failure) ∈ drafts →
          failure.GivesHint f.tool.installHint := by
    intro w drafts hdrafts file failure hmem
    obtain ⟨_, hw, -⟩ := outcome_drafting f files (w := w) rfl
    obtain rfl := Except.ok.inj ((congrArg Prod.fst hw).symm.trans hdrafts)
    obtain ⟨file', -, hsame⟩ := List.mem_map.mp hmem
    have hfails : (f.draft file').FailsOnly
        (·.IsOfRequest f.tool.installHint f.settings.strict schedule) := f.failsOnly_draft file'
    exact (hfails w failure (Prod.mk.inj hsame).2).givesHint
  refine hdrafting.bind fun drafts hdrafts => ?_
  dsimp only
  split
  · exact (returns_true _).bind fun _ _ => returns_throw _
  · refine (Locator.Cache.returns_locateAll hlocate _ (by simp [Locator.Cache.outcome?])).bind
      fun located hlocated => (returns_finishAll hfinish hdrafts hlocated).bind
        fun results hresults => ?_
    split
    · exact returns_throw _
    · exact returns_pure hresults

end Formatter

end Kind

namespace CommandLine

open Formatter (FileResult)

/-! ## What is said of a formatter that is missing -/

/-- The failure that says that the formatter is missing under this command. -/
def missingAt (command : String) : Failure := .notInstalled command Tool.sqlfmt.installHint

/-- The message of a failure, as it is printed. -/
def notice (failure : Failure) : String := Console.plain failure.describe

/-- The command ends no quotation and begins no escape sequence. -/
def IsUnquoted (command : String) : Prop := '"' ∉ command.toList ∧ '\x1B' ∉ command.toList

theorem takeWhile_ne_append_cons {before after : List Char} (h : '"' ∉ before) :
    (before ++ '"' :: after).takeWhile (· ≠ '"') = before := by
  have hall : ∀ c ∈ before, decide (c ≠ '"') = true := fun c hc =>
    decide_eq_true fun heq => h (heq ▸ hc)
  rw [List.takeWhile_append_of_pos hall]
  simp

/-- A quotation that stands in another one with the same words before it quotes the same. -/
theorem eq_of_infix_quotation {before first second after last : List Char}
    (hbefore : '"' ∉ before) (hfirst : '"' ∉ first) (hsecond : '"' ∉ second)
    (hlast : '"' ∉ last)
    (h : before ++ '"' :: (first ++ '"' :: after) <:+: before ++ '"' :: (second ++ '"' :: last)) :
    first = second := by
  obtain ⟨lead, trail, hsame⟩ := h
  -- Both hold two quotation marks, so nothing stands before the first of them but the words.
  have hlead : '"' ∉ lead := by
    have hcount := congrArg (List.count '"') hsame
    simp only [List.count_append, List.count_cons_self, List.count_eq_zero_of_not_mem hbefore,
      List.count_eq_zero_of_not_mem hfirst, List.count_eq_zero_of_not_mem hsecond,
      List.count_eq_zero_of_not_mem hlast] at hcount
    exact List.count_eq_zero.mp (by omega)
  have hsplit : (lead ++ before) ++ '"' :: (first ++ '"' :: (after ++ trail)) =
      before ++ '"' :: (second ++ '"' :: last) := by simpa using hsame
  have hwords := congrArg (List.takeWhile (· ≠ '"')) hsplit
  rw [takeWhile_ne_append_cons (by simp [hlead, hbefore]),
    takeWhile_ne_append_cons hbefore] at hwords
  rw [hwords, List.append_cancel_left_eq, List.cons.injEq] at hsplit
  have hquoted := congrArg (List.takeWhile (· ≠ '"')) hsplit.2
  rwa [takeWhile_ne_append_cons hfirst, takeWhile_ne_append_cons hsecond] at hquoted

/-- The message for a formatter that is missing quotes its command. -/
theorem toList_describe_notInstalled (command hint : String) :
    (Failure.notInstalled command hint).describe.toList = "Error: ".toList ++ '"' ::
      (command.toList ++ '"' :: (" is not found. ".toList ++ hint.toList)) := by
  have hwords : (Failure.notInstalled command hint).describe =
      "Error: " ++ ("\"" ++ command ++ "\" is not found. " ++ hint) := rfl
  have hquote : "\" is not found. ".toList = '"' :: " is not found. ".toList := rfl
  rw [hwords]
  simp only [String.toList_append, hquote]
  simp

/-- Of commands that end no quotation, one is named where another one is missing only if they are
the same. -/
theorem notice_infix_iff {command first : String} (hcommand : IsUnquoted command)
    (hfirst : IsUnquoted first) :
    (notice (missingAt command)).toList <:+: (notice (missingAt first) ++ "\n").toList ↔
      command = first := by
  have hhint : '"' ∉ Tool.sqlfmt.installHint.toList ∧ '\x1B' ∉ Tool.sqlfmt.installHint.toList := by
    decide +kernel
  have hnotice {command : String} (h : IsUnquoted command) :
      (notice (missingAt command)).toList = "Error: ".toList ++ '"' :: (command.toList ++ '"' ::
        (" is not found. ".toList ++ Tool.sqlfmt.installHint.toList)) := by
    have hwords := toList_describe_notInstalled command Tool.sqlfmt.installHint
    rw [notice, missingAt, Console.plain_of_notMem, hwords]
    rw [hwords]
    simp only [List.mem_append, List.mem_cons, h.2, hhint.2, or_false, false_or, not_or]
    decide
  constructor
  · intro hwithin
    rw [String.toList_append, hnotice hcommand, hnotice hfirst] at hwithin
    apply String.toList_inj.mp
    have hwords : '"' ∉ "Error: ".toList := by decide
    refine eq_of_infix_quotation hwords hcommand.1 hfirst.1 ?_ (by simpa using hwithin)
    simp [hhint.1]
  · rintro rfl
    rw [String.toList_append]
    exact (List.prefix_append _ _).isInfix

/-! ## What a session shows of the failures -/

/-- The message of the failure stands among what the session printed of errors. -/
def Ended.Shows (ended : Ended) (failure : Failure) : Prop :=
  (notice failure).toList <:+: ended.screen.errors.toList

/-- The formatter is missing for every file of a batch, under these commands. -/
def MissesAt (results : List FileResult) (commands : List String) : Prop :=
  results.map (·.outcome) = commands.map fun command => .error (missingAt command)

/-- The failures of such a batch. -/
theorem MissesAt.failedFiles {results : List FileResult} {commands : List String}
    (h : MissesAt results commands) :
    (failedFiles results).map Prod.snd = commands.map missingAt := by
  induction results generalizing commands with
  | nil => cases commands <;> simp_all [MissesAt, CommandLine.failedFiles]
  | cons r rest ih =>
      cases commands with
      | nil => simp [MissesAt] at h
      | cons command more =>
          obtain ⟨hfirst, hrest⟩ : r.outcome = .error (missingAt command) ∧ MissesAt rest more := by
            simpa [MissesAt] using h
          have hlater := ih hrest
          simp only [CommandLine.failedFiles] at hlater ⊢
          simp only [List.filterMap_cons, hfirst, List.map_cons, hlater]

/-- A formatter is missing for every file of a batch under some commands. -/
theorem exists_missesAt {results : List FileResult}
    (hhint : ∀ r ∈ results, ∀ failure, r.outcome = .error failure →
      failure.GivesHint Tool.sqlfmt.installHint)
    (hall : ∀ r ∈ results, ∃ failure, r.outcome = .error failure ∧
      isMissingFormatter failure = true) :
    ∃ commands, MissesAt results commands := by
  induction results with
  | nil => exact ⟨[], rfl⟩
  | cons r rest ih =>
      obtain ⟨commands, hcommands⟩ := ih (fun r hr => hhint r (by simp [hr]))
        (fun r hr => hall r (by simp [hr]))
      obtain ⟨failure, hfailure, hmissing⟩ := hall r (by simp)
      cases failure with
      | notInstalled command hint =>
          obtain rfl : hint = Tool.sqlfmt.installHint := hhint r (by simp) _ hfailure
          refine ⟨command :: commands, ?_⟩
          rw [MissesAt, List.map_cons, List.map_cons, hfailure, hcommands]
          rfl
      | _ => cases hmissing

theorem MissesAt.missingForAll {results : List FileResult} {first : String} {rest : List String}
    (h : MissesAt results (first :: rest)) : MissingForAll results := by
  refine ⟨fun hempty => by simp [hempty, MissesAt] at h, fun r hr => ?_⟩
  have hmem : r.outcome ∈ (first :: rest).map fun command =>
      (.error (missingAt command) : Except Failure Bool) := h ▸ List.mem_map_of_mem hr
  obtain ⟨command, -, hcommand⟩ := List.mem_map.mp hmem
  exact ⟨missingAt command, hcommand.symm, rfl⟩

/-- Where failures are listed, each stands beneath its file. -/
theorem infix_complaints {failed : List (Path × Failure)} {one : Path × Failure}
    (h : one ∈ failed) :
    (Console.plain ("✗ " ++ one.1.text ++ "\n") ++ notice one.2 ++ "\n").toList <:+:
      (complaints failed).toList := by
  obtain ⟨before, after, rfl⟩ := List.append_of_mem h
  have hjoin : complaints (before ++ one :: after) = complaints before ++
      (Console.plain ("✗ " ++ one.1.text ++ "\n") ++ notice one.2 ++ "\n") ++
        complaints after := by
    simp [complaints, notice, Console.plain_lineEnd, String.append_assoc]
  rw [hjoin]
  exact ⟨(complaints before).toList, (complaints after).toList, by simp⟩

section Files

variable {w : World} {general : General} {f : Formatter} {names : List String} {check : Bool}
  {results : List FileResult}

/-- Where the formatter is missing for every file, the first failure is shown, so all are exactly if
it holds the others. -/
theorem Reports.shows_iff {ended : Ended} (hreports : Reports check results ended) {first : String}
    {rest : List String} (h : MissesAt results (first :: rest)) :
    (∀ failed ∈ failedFiles results, ended.Shows failed.2) ↔ ∀ command ∈ rest,
      (notice (missingAt command)).toList <:+: (notice (missingAt first) ++ "\n").toList := by
  obtain ⟨file, failure, hfirst, hscreen⟩ := hreports.once h.missingForAll
  have hfailures := h.failedFiles
  obtain ⟨more, hmore⟩ := List.head?_eq_some_iff.mp hfirst
  obtain ⟨rfl, hrest⟩ : failure = missingAt first ∧ more.map Prod.snd = rest.map missingAt := by
    simpa [hmore] using hfailures
  have herrors : ended.screen.errors = notice (missingAt first) ++ "\n" := by
    rw [hscreen, notice, Console.plain_lineEnd]
  have hself : ended.Shows (missingAt first) := by
    rw [Ended.Shows, herrors, String.toList_append]
    exact (List.prefix_append _ _).isInfix
  rw [← List.forall_mem_map (P := ended.Shows), hfailures, List.forall_mem_map,
    List.forall_mem_cons, and_iff_right hself]
  simp only [Ended.Shows, herrors]

/-- A session that is to format files reports the results of the batch, if it returns; and if the
formatter is missing for all of them, it is under some commands. -/
theorem reports_session (hmakes : general.Makes w f) (hnames : inputMark ∉ names)
    {arguments : List String} {document : Option String}
    (hasks : Asks arguments general (.format ⟨names, check, false, document⟩))
    (hreturns : ((f.formatFiles (names.map Path.parse) (!check) .quiet).outcome w).1 = .ok results)
    (input : String) :
    Reports check results ((session arguments input).run w) ∧
      (MissingForAll results → ∃ first rest, MissesAt results (first :: rest)) := by
  obtain ⟨s, records, -, hformatter, hrun⟩ := run_session hasks hmakes input
  constructor
  · have hlogged : ((f.formatFiles (names.map Path.parse) (!check) .quiet).outcome
        (w.logging records)).1 = .ok results := by
      rw [← hreturns]
      exact (f.ignoresLog_formatFiles _ _ _ _ _ (w.unlogged_logging records)).1
    rw [hrun, run_format_files hformatter hnames check document]
    exact (reports_formatFiles (Prod.ext hlogged rfl)).1
  · rintro ⟨hnonempty, hall⟩
    have htool : f.tool = Tool.sqlfmt := by
      obtain ⟨config, settings, -, hmake⟩ := hmakes
      rw [Formatter.make] at hmake
      obtain ⟨workspace, -, rfl⟩ := except_map_eq_ok.mp hmake
      rfl
    obtain ⟨commands, hcommands⟩ := exists_missesAt
      (htool ▸ f.returns_formatFiles _ _ _ w results hreturns) hall
    cases commands with
    | nil => exact absurd (List.map_eq_nil_iff.mp hcommands) hnonempty
    | cons first rest => exact ⟨first, rest, hcommands⟩

/-- A session that formats files shows every failure exactly if none of them is lost where the
formatter is missing for all files: there only the first command is named.  Unless one command is
named within another's message, which takes a quotation mark or an escape character in a command,
this means that the formatter is missing under one and the same command for all of them.  In all
other batches every failure is shown beneath its file. -/
theorem every_failure_shown_iff (hmakes : general.Makes w f) (hnames : inputMark ∉ names)
    {arguments : List String} {document : Option String}
    (hasks : Asks arguments general (.format ⟨names, check, false, document⟩))
    (hreturns : ((f.formatFiles (names.map Path.parse) (!check) .quiet).outcome w).1 = .ok results)
    (input : String) :
    let ended := (session arguments input).run w
    ((∀ failed ∈ failedFiles results, ended.Shows failed.2) ↔
      ∀ first rest, MissesAt results (first :: rest) → ∀ command ∈ rest,
        (notice (missingAt command)).toList <:+: (notice (missingAt first) ++ "\n").toList) ∧
      (∀ first rest, MissesAt results (first :: rest) →
        (∀ command ∈ first :: rest, IsUnquoted command) →
          ((∀ failed ∈ failedFiles results, ended.Shows failed.2) ↔
            ∀ command ∈ rest, command = first)) ∧
      (¬MissingForAll results → ∀ failed ∈ failedFiles results,
        (Console.plain ("✗ " ++ failed.1.text ++ "\n") ++ notice failed.2 ++ "\n").toList <:+:
          ended.screen.errors.toList) := by
  intro ended
  obtain ⟨hreports, hmisses⟩ := reports_session hmakes hnames hasks hreturns input
  have hlisted (hsome : ¬MissingForAll results) : ∀ failed ∈ failedFiles results,
      (Console.plain ("✗ " ++ failed.1.text ++ "\n") ++ notice failed.2 ++ "\n").toList <:+:
        ended.screen.errors.toList := by
    intro failed hfailed
    rw [hreports.listed hsome]
    exact infix_complaints hfailed
  refine ⟨⟨fun hshown first rest h => (hreports.shows_iff h).mp hshown, fun hnamed => ?_⟩, ?_,
    hlisted⟩
  · by_cases hall : MissingForAll results
    · obtain ⟨first, rest, h⟩ := hmisses hall
      exact (hreports.shows_iff h).mpr (hnamed first rest h)
    · intro failed hfailed
      refine List.IsInfix.trans ?_ (hlisted hall failed hfailed)
      rw [String.toList_append, String.toList_append]
      exact ⟨_, _, rfl⟩
  · intro first rest h hunquoted
    rw [hreports.shows_iff h]
    exact forall₂_congr fun command hcommand =>
      notice_infix_iff (hunquoted command (by simp [hcommand])) (hunquoted first (by simp))

end Files

/-- Two workspace folders with a file each, and a configuration that names the formatter by its
place in the workspace folder, where there is none. -/
def formatterlessWorld : World where
  files := ⟨[(["home"], .directory),
    (["home", "shandy.yml"], .file (Text.Utf8.encode
      "path: $\x7bworkspaceFolder\x7d/sqlfmt\nworkspace_folders:\n  a: /a\n  b: /b\n") 0o644),
    (["a"], .directory), (["a", "x.sql"], .file [] 0o644),
    (["b"], .directory), (["b", "y.sql"], .file [] 0o644)]⟩
  programs := fun _ _ tree => some ⟨0, [], [], tree⟩
  environment := [("HOME", "/home")]
  directory := []
  log := []
  runs := []

/-- The formatter that this configuration makes. -/
def folderFormatter : Formatter where
  settings := { Settings.default with
    path := some (Placeholder.token "workspaceFolder" ++ "/sqlfmt")
    folders := [("a", "/a"), ("b", "/b")] }
  workspace := ⟨none, [⟨"a", ["a"]⟩, ⟨"b", ["b"]⟩]⟩
  interpreters := .discovered
  environment := none
  tool := .sqlfmt

/-- Of two files in different folders, each without a formatter, one failure is lost. -/
theorem every_failure_shown_iff_two_folders :
    ∃ results,
      ((folderFormatter.formatFiles (["/a/x.sql", "/b/y.sql"].map Path.parse) true .quiet).outcome
        formatterlessWorld).1 = .ok results ∧
      MissesAt results ["/a/sqlfmt", "/b/sqlfmt"] ∧
      ¬∀ failed ∈ failedFiles results, ((session ["format", "/a/x.sql", "/b/y.sql"] "").run
        formatterlessWorld).Shows failed.2 := by
  have hmakes : General.Makes ⟨none, none, false⟩ formatterlessWorld folderFormatter :=
    makes_of_configured (by decide +kernel) (by decide +kernel)
  have hasks : Asks ["format", "/a/x.sql", "/b/y.sql"] ⟨none, none, false⟩
      (.format ⟨["/a/x.sql", "/b/y.sql"], false, false, none⟩) :=
    ⟨.format, ["/a/x.sql", "/b/y.sql"], by rfl, by decide, by rfl⟩
  have houtcomes : ((folderFormatter.formatFiles (["/a/x.sql", "/b/y.sql"].map Path.parse) true
      .quiet).outcome formatterlessWorld).1.toOption.map (fun results => results.map (·.outcome)) =
        some [.error (missingAt "/a/sqlfmt"), .error (missingAt "/b/sqlfmt")] := by decide +kernel
  cases hreturns : ((folderFormatter.formatFiles (["/a/x.sql", "/b/y.sql"].map Path.parse) true
      .quiet).outcome formatterlessWorld).1 with
  | error failure =>
      rw [hreturns] at houtcomes
      cases houtcomes
  | ok results =>
      rw [hreturns] at houtcomes
      have hmisses : MissesAt results ["/a/sqlfmt", "/b/sqlfmt"] := Option.some.inj houtcomes
      obtain ⟨-, hcommands, -⟩ := every_failure_shown_iff hmakes (by decide) hasks hreturns ""
      refine ⟨results, rfl, hmisses, ?_⟩
      rw [hcommands _ _ hmisses (by unfold IsUnquoted; decide)]
      simp

end CommandLine

end FormatLauncher
