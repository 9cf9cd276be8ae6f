/-
# What is shown of a batch

The results of a batch are all that its report depends on.  Every file that formatting changes is
announced and every failure is shown with its file, in the order of the results, and a line counts
both and the files that stay as they are.  Only a formatter that is missing for every file is
reported once, and nothing is counted.
-/

import FormatLauncher.Proofs.Console
import FormatLauncher.Proofs.Session

namespace FormatLauncher

open Formatter (FileResult)

/-- Formatting leaves the file as it is. -/
def Formatter.FileResult.isUnchanged (r : FileResult) : Bool := r.isOk && !r.isChanged

namespace CommandLine

/-! ## Changed files, failures and counts -/

/-- The files that formatting changes. -/
def changedFiles (results : List FileResult) : List Path :=
  (results.filter (·.isChanged)).map (·.file)

/-- The files that failed, each with its failure. -/
def failedFiles (results : List FileResult) : List (Path × Failure) :=
  results.filterMap fun r => match r.outcome with
    | .error failure => some (r.file, failure)
    | .ok _ => none

/-- A batch has files, and the formatter is missing for all of them. -/
def MissingForAll (results : List FileResult) : Prop :=
  results ≠ [] ∧ ∀ r ∈ results, ∃ failure, r.outcome = .error failure ∧
    isMissingFormatter failure = true

/-- How files that formatting changes are announced. -/
def announcements (check : Bool) (files : List Path) : String :=
  String.join (files.map fun file =>
    Console.plain ((if check then "Would reformat " else "✓ Reformatted ") ++ file.text ++ "\n"))

/-- How failures are shown. -/
def complaints (failed : List (Path × Failure)) : String :=
  String.join (failed.map fun (file, failure) =>
    Console.plain ("✗ " ++ file.text ++ "\n") ++ Console.plain (failure.describe ++ "\n"))

/-- How the files of a batch are counted. -/
def countLine (check : Bool) (changed unchanged failed : Nat) : String :=
  toString changed ++ " file(s) " ++ (if check then "would be reformatted" else "reformatted") ++
    ", " ++ toString unchanged ++ " unchanged, " ++ toString failed ++ " failed\n"

/-- Every file is changed, unchanged or failed. -/
theorem countP_add_countP_add_countP (results : List FileResult) :
    results.countP (·.isChanged) + results.countP (·.isUnchanged) +
      results.countP (fun r => !r.isOk) = results.length := by
  induction results with
  | nil => rfl
  | cons r rest ih =>
      have hone : (if r.isChanged then 1 else 0) + (if r.isUnchanged then 1 else 0) +
          (if !r.isOk then 1 else 0) = 1 := by
        rcases r with ⟨file, failure | _ | _⟩ <;> rfl
      simp only [List.countP_cons, List.length_cons]
      omega

/-- What is neither changed nor failed is unchanged, so a summary counts the three kinds. -/
theorem summary_eq_countLine (check : Bool) (results : List FileResult) :
    summary check results ++ "\n" =
      countLine check (results.countP (·.isChanged)) (results.countP (·.isUnchanged))
        (results.countP fun r => !r.isOk) := by
  have hrest : results.length - results.countP (·.isChanged) -
      results.countP (fun r => !r.isOk) = results.countP (·.isUnchanged) := by
    have htotal := countP_add_countP_add_countP results
    omega
  simp only [summary, countLine, hrest, String.append_assoc]
  rfl

/-- A line of counts is printed as it is. -/
theorem plain_countLine (check : Bool) (changed unchanged failed : Nat) :
    Console.plain (countLine check changed unchanged failed) =
      countLine check changed unchanged failed := by
  have hdigits (n : Nat) : '\x1B' ∉ Nat.toDigits 10 n := by
    intro hmem
    have hdigit := Nat.isDigit_of_mem_toDigits (by decide) (by decide) hmem
    simp at hdigit
  have hword : '\x1B' ∉ (if check then "would be reformatted" else "reformatted").toList := by
    cases check <;> decide
  apply Console.plain_of_notMem
  simp [countLine, hdigits, hword]

/-- The failures for a missing formatter are as many as the results exactly if it is missing for
every file. -/
theorem length_missingFormatters_eq_iff {results : List FileResult} :
    (missingFormatters results).length = results.length ↔
      ∀ r ∈ results, ∃ failure, r.outcome = .error failure ∧ isMissingFormatter failure = true := by
  rw [missingFormatters, List.length_filterMap_eq_countP, List.countP_eq_length]
  refine forall₂_congr fun r _ => ?_
  cases r.outcome with
  | ok changed => simp
  | error failure => cases hmissing : isMissingFormatter failure <;> simp [hmissing]

/-! ## The report -/

/-- Reporting a failure logs it and shows it. -/
@[simp]
theorem outcome_report (failure : Failure) (screen : Screen) (w : World) :
    (report failure).outcome screen w =
      ((.ok (),
        { screen with errors := screen.errors ++ Console.plain (failure.describe ++ "\n") }),
        w.logging [⟨.error, failure.kindName ++ ": " ++ failure.message⟩]) := by
  rw [report, Session.outcome_bind, Session.outcome_perform, Action.outcome_say]
  rfl

/-- A result is announced, or shown with its failure, or passed over. -/
theorem outcome_showResult (check : Bool) (r : FileResult) (screen : Screen) (w : World) :
    ∃ records, (showResult check r).outcome screen w =
      ((.ok (), ⟨screen.output ++ announcements check (changedFiles [r]),
        screen.errors ++ complaints (failedFiles [r])⟩), w.logging records) := by
  rcases r with ⟨file, failure | _ | _⟩
  · refine ⟨[⟨.error, failure.kindName ++ ": " ++ failure.message⟩], ?_⟩
    rw [showResult, Session.outcome_bind_of_ok (Session.outcome_printError _ _ _), outcome_report]
    simp [announcements, complaints, changedFiles, failedFiles, FileResult.isChanged,
      Except.toOption, String.append_assoc]
  · exact ⟨[], by simp [showResult, announcements, complaints, changedFiles, failedFiles,
      FileResult.isChanged, Except.toOption]⟩
  · exact ⟨[], by simp [showResult, announcements, complaints, changedFiles, failedFiles,
      FileResult.isChanged, Except.toOption]⟩

theorem announcements_cons (check : Bool) (r : FileResult) (rest : List FileResult) :
    announcements check (changedFiles (r :: rest)) =
      announcements check (changedFiles [r]) ++ announcements check (changedFiles rest) := by
  cases hchanged : r.isChanged <;> simp [announcements, changedFiles, hchanged]

theorem complaints_cons (r : FileResult) (rest : List FileResult) :
    complaints (failedFiles (r :: rest)) =
      complaints (failedFiles [r]) ++ complaints (failedFiles rest) := by
  cases houtcome : r.outcome <;> simp [complaints, failedFiles, houtcome]

/-- The results are shown one after the other. -/
theorem outcome_showAll (check : Bool) (results : List FileResult) (screen : Screen) (w : World) :
    ∃ records, (forIn results PUnit.unit (fun result _ => do
        showResult check result
        return .yield PUnit.unit) : Session PUnit).outcome screen w =
      ((.ok (), ⟨screen.output ++ announcements check (changedFiles results),
        screen.errors ++ complaints (failedFiles results)⟩), w.logging records) := by
  induction results generalizing screen w with
  | nil => exact ⟨[], by simp [announcements, complaints, changedFiles, failedFiles]⟩
  | cons r rest ih =>
      obtain ⟨first, hfirst⟩ := outcome_showResult check r screen w
      obtain ⟨later, hrest⟩ := ih _ (w.logging first)
      refine ⟨first ++ later, ?_⟩
      simp only [List.forIn_cons, bind_assoc, pure_bind]
      rw [Session.outcome_bind_of_ok hfirst, hrest, announcements_cons check r rest,
        complaints_cons r rest, String.append_assoc, String.append_assoc, World.logging_logging]

/-- What is left of a session that showed the results of a batch. -/
structure Reports (check : Bool) (results : List FileResult) (ended : Ended) : Prop where
  /-- A formatter that is missing for every file is reported once. -/
  once : MissingForAll results → ∃ file failure,
    (failedFiles results).head? = some (file, failure) ∧
      ended.screen = ⟨"", Console.plain (failure.describe ++ "\n")⟩
  /-- Otherwise changed files and failures are listed, and all files are counted. -/
  listed : ¬MissingForAll results → ended.screen =
    ⟨announcements check (changedFiles results) ++
        countLine check (results.countP (·.isChanged)) (results.countP (·.isUnchanged))
          (results.countP fun r => !r.isOk),
      complaints (failedFiles results)⟩
  /-- A batch ends well if nothing failed and no change was only reported. -/
  code : ended.code = 0 ↔
    ∀ r ∈ results, r.isOk = true ∧ (check = true → r.isChanged = false)

/-- Reports of the same results show the same failures. -/
theorem Reports.errors_eq {results : List FileResult} {dry real : Ended}
    (hdry : Reports true results dry) (hreal : Reports false results real) :
    dry.screen.errors = real.screen.errors := by
  by_cases hmissing : MissingForAll results
  · obtain ⟨file, failure, hfirst, hscreen⟩ := hdry.once hmissing
    obtain ⟨file', failure', hfirst', hscreen'⟩ := hreal.once hmissing
    obtain ⟨rfl, rfl⟩ : file = file' ∧ failure = failure' := by simpa [hfirst] using hfirst'
    rw [hscreen, hscreen']
  · rw [hdry.listed hmissing, hreal.listed hmissing]

/-- A formatter that is missing for every file is reported once, and the session ends there. -/
theorem outcome_showResults_of_missing {results : List FileResult} {first : Failure}
    {more : List Failure} (hlength : (missingFormatters results).length = results.length)
    (hmissing : missingFormatters results = first :: more) (check : Bool) (screen : Screen)
    (w : World) :
    (showResults check results).outcome screen w =
      ((.error (.exit 1),
        { screen with errors := screen.errors ++ Console.plain (first.describe ++ "\n") }),
        w.logging [⟨.error, first.kindName ++ ": " ++ first.message⟩]) := by
  rw [showResults]
  dsimp only
  rw [if_pos hlength]
  simp only [hmissing]
  rw [Session.outcome_bind_of_ok (outcome_report _ _ _)]
  rfl

/-- Otherwise the results are shown one after the other and counted. -/
theorem outcome_showResults_of_not_missing {results : List FileResult}
    (hmissing : ¬MissingForAll results) (check : Bool) (screen : Screen) (w : World) :
    ∃ records, (showResults check results).outcome screen w =
      ((if batchCode check results = 0 then .ok () else .error (.exit (batchCode check results)),
        ⟨screen.output ++ announcements check (changedFiles results) ++
            countLine check (results.countP (·.isChanged)) (results.countP (·.isUnchanged))
              (results.countP fun r => !r.isOk),
          screen.errors ++ complaints (failedFiles results)⟩), w.logging records) := by
  obtain ⟨records, hall⟩ := outcome_showAll check results screen w
  refine ⟨records, ?_⟩
  have hcounted := Session.outcome_printLine (summary check results)
    ⟨screen.output ++ announcements check (changedFiles results),
      screen.errors ++ complaints (failedFiles results)⟩ (w.logging records)
  rw [summary_eq_countLine, plain_countLine] at hcounted
  rw [showResults]
  dsimp only
  split
  · next hlength =>
      -- Here nothing is missing: there are no results.
      obtain rfl : results = [] := Classical.byContradiction fun hnonempty =>
        hmissing ⟨hnonempty, length_missingFormatters_eq_iff.mp hlength⟩
      simp only [missingFormatters, List.filterMap_nil]
      rw [Session.outcome_bind_of_ok hall, Session.outcome_bind_of_ok hcounted]
      rfl
  · rw [Session.outcome_bind_of_ok hall, Session.outcome_bind_of_ok hcounted]
    by_cases hcode : batchCode check results = 0 <;> simp [hcode]

theorem batchCode_eq_zero_iff (check : Bool) (results : List FileResult) :
    batchCode check results = 0 ↔
      ∀ r ∈ results, r.isOk = true ∧ (check = true → r.isChanged = false) := by
  simp [batchCode]

/-- The results of a batch are all that is shown of it, and showing them only logs. -/
theorem reports_showResults (check : Bool) (results : List FileResult) (w : World) :
    Reports check results ((showResults check results).run w) ∧
      ∃ records, ((showResults check results).run w).world = w.logging records := by
  rw [Session.run_eq]
  by_cases hmissing : MissingForAll results
  · obtain ⟨hnonempty, hall⟩ := id hmissing
    obtain ⟨⟨file, outcome⟩, rest, rfl⟩ := List.exists_cons_of_ne_nil hnonempty
    obtain ⟨failure, rfl, hfailure⟩ := hall ⟨file, outcome⟩ (by simp)
    have hfirst : missingFormatters (⟨file, .error failure⟩ :: rest) =
        failure :: missingFormatters rest := by simp [missingFormatters, hfailure]
    rw [outcome_showResults_of_missing (length_missingFormatters_eq_iff.mpr hall) hfirst]
    refine ⟨⟨fun _ => ⟨file, failure, rfl, by simp⟩, absurd hmissing, ?_⟩, _, rfl⟩
    refine iff_of_false (by simp [Ended.code]) fun hgood => ?_
    simpa [FileResult.isOk, Except.toOption] using (hgood ⟨file, .error failure⟩ (by simp)).1
  · obtain ⟨records, houtcome⟩ := outcome_showResults_of_not_missing hmissing check ⟨"", ""⟩ w
    rw [houtcome]
    refine ⟨⟨fun hall => absurd hall hmissing, fun _ => by simp, ?_⟩, records, rfl⟩
    rw [← batchCode_eq_zero_iff]
    by_cases hcode : batchCode check results = 0 <;> simp [hcode, Ended.code]

/-! ## Sessions that format files -/

section Files

variable {f : Formatter} {names : List String} {check : Bool} {w later : World}

/-- A session that formats files shows the results of the batch, if it returns. -/
theorem reports_formatFiles {results : List FileResult}
    (hbatch : (f.formatFiles (names.map Path.parse) (!check) .quiet).outcome w =
      (.ok results, later)) :
    Reports check results ((formatFiles f names check).run w) ∧
      ∃ records, ((formatFiles f names check).run w).world = later.logging records := by
  have hrun : (formatFiles f names check).run w = (showResults check results).run later := by
    rw [Session.run_eq, Session.run_eq, formatFiles, Session.outcome_bind, Session.outcome_perform,
      hbatch]
    rfl
  rw [hrun]
  exact reports_showResults check results later

/-- Otherwise it ends with the failure of the batch. -/
theorem run_formatFiles_of_error {failure : Failure}
    (hbatch : (f.formatFiles (names.map Path.parse) (!check) .quiet).outcome w =
      (.error failure, later)) :
    (formatFiles f names check).run w = ⟨⟨"", ""⟩, some (.failed failure), later⟩ := by
  rw [Session.run_eq, formatFiles, Session.outcome_bind, Session.outcome_perform, hbatch]
  rfl

end Files

end CommandLine

end FormatLauncher
