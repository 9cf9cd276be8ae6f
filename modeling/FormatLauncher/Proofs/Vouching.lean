/-
# Nothing unverified is run

What requests do to a world are deeds of three kinds: a file is asked for its version, the formatter
is run, and what it printed is written back.  Each kind has its rule.  Only an absolute path to a
regular file with an execute bit is asked.  The formatter is run only under a command that was asked
before and ended well, with the arguments of a plan and what stands after them.  Only what was
formatted is written back.  A world that follows from another one by such deeds was reached without
running anything unverified.
-/

import FormatLauncher.Proofs.Availability
import FormatLauncher.Proofs.Path

namespace FormatLauncher

open Action

namespace Spelling

/-- The text of an absolute path is read as an absolute one. -/
theorem isAbsolute_parse_absolute (current : Location) (spelling : String) :
    (Path.parse (absolute current spelling).text).isAbsolute = true := by
  have hroot := isAbsolute_absolute current spelling
  generalize absolute current spelling = path at hroot ⊢
  rcases path with ⟨root, names⟩
  cases root with
  | relative => simp [Path.isAbsolute] at hroot
  | slash =>
      simp [Path.isAbsolute, Path.parse, Path.rootOf_eq_relative_iff, Path.text, Path.rootText]
  | doubleSlash =>
      simp [Path.isAbsolute, Path.parse, Path.rootOf_eq_relative_iff, Path.text, Path.rootText]

end Spelling

namespace Locator

/-- A command that is checked with nothing to object is the absolute path of a regular file with an
execute bit. -/
theorem passes_of_check {command path : String} {w : World}
    (h : ((check .slash command).outcome w).1 = .ok (path, true)) :
    (Path.parse path).isAbsolute = true ∧ IsExecutableFile w path := by
  rw [result_check_eq] at h
  cases hfile : fileOf? w command with
  | none => simp [hfile] at h
  | some file =>
      rw [hfile] at h
      obtain ⟨found, habsolute, hfound⟩ := except_map_eq_ok.mp h
      obtain rfl := absolute_eq_absolute habsolute
      obtain ⟨rfl, hpasses⟩ := Prod.mk.inj hfound
      exact ⟨Spelling.isAbsolute_parse_absolute _ _, checkFile_eq_true_iff.mp hpasses⟩

theorem passes_of_inspect {q : Query} {w : World} {path : String}
    (h : ((inspect q).outcome w).1 = .ok (path, true)) :
    (Path.parse path).isAbsolute = true ∧ IsExecutableFile w path := by
  obtain ⟨records, hcandidate⟩ := (reads_candidate q.configured q.context q.interpreter
    q.toolOrUsual q.strict).outcome_eq w
  rw [inspect, outcome_bind, hcandidate] at h
  cases hcommand : ((candidate q.configured q.context q.interpreter q.toolOrUsual
      q.strict).outcome w).1 with
  | error failure => simp [hcommand] at h
  | ok command =>
      rw [hcommand] at h
      exact passes_of_check (w := w.logging records) h

end Locator

/-- The program ran in a world, and left another one.  If it came to its exit, then its files
count. -/
structure Launch.Ready.Ran (ready : Launch.Ready) (input : Text.Bytes) (w : World)
    (exit : Option Finish) (later : World) : Prop where
  finish : ∀ finish, exit = some finish → ready.finish? input w.files = some finish
  world : later = w.afterRun (ready.run exit.isSome) exit

/-- Only a run that completes is seen to complete. -/
theorem Schedule.completes_of_watch? {schedule : Schedule} {limit : Option Seconds}
    {completes : Bool} {watch : Watch} (h : schedule.watch? limit completes = some watch)
    (hcompleted : watch.completed = true) : completes = true := by
  cases completes with
  | true => rfl
  | false =>
      unfold Schedule.watch? at h
      dsimp only at h
      split at h
      · simp at h
      · obtain rfl : _ = watch := by simpa using h
        simp at hcompleted

/-- A version query vouches for its file when it exited with success. -/
theorem Locator.probeVerdict_eq_true {limit : Option Seconds} {seen : Ending × Option Finish}
    (h : probeVerdict limit seen = .ok true) :
    ∃ finish, seen = (.output, some finish) ∧ finish.code = 0 := by
  have hover : (limitText limit).map (fun _ => false) ≠ .ok true := by
    cases limitText limit <;> simp [Except.map]
  rcases seen with ⟨ending, exit⟩
  cases ending with
  | output =>
      cases exit with
      | none => exact absurd h hover
      | some finish => exact ⟨finish, rfl, by simpa [probeVerdict] using h⟩
  | waiterCancelled => simp [probeVerdict] at h
  | cancelled => exact absurd h hover
  | timedOut => exact absurd h hover

/-- Supervision runs the program, and sees its exit if it comes to that. -/
theorem Locator.ran_supervise (ready : Launch.Ready) (input : Text.Bytes) {limit : Option Seconds}
    (hlimit : ∀ s ∈ limit, s.toBinary?.isSome = true) (schedule : Schedule) (w : World) :
    ∃ exit, ready.Ran input w exit ((supervise ready input limit schedule).outcome w).2 ∧
      (((supervise ready input limit schedule).outcome w).1 = .error .unending ∨
        ∃ ending, ((supervise ready input limit schedule).outcome w).1 = .ok (ending, exit)) := by
  rw [outcome_supervise, fits_limit hlimit, if_neg (by simp)]
  cases hwatch : schedule.watch? limit (ready.finish? input w.files).isSome with
  | none => exact ⟨none, ⟨by simp, rfl⟩, .inl rfl⟩
  | some watch =>
      cases hcompleted : watch.completed with
      | false =>
          exact ⟨none, ⟨by simp, by simp [hcompleted]⟩, .inr ⟨watch.ending, by simp [hcompleted]⟩⟩
      | true =>
          have hsome := Schedule.completes_of_watch? hwatch hcompleted
          exact ⟨ready.finish? input w.files, ⟨fun _ => id, by simp [hcompleted, hsome]⟩,
            .inr ⟨watch.ending, by simp [hcompleted]⟩⟩

/-- What a request does to a world. -/
inductive Deed
  /-- A file is asked for its version; the code it exits with, unless it is ended before. -/
  | query (command : String) (code : Option Int)
  /-- The formatter is run for a file. -/
  | format (n : Nat) (command : String)
  /-- What was printed for a file is written back. -/
  | write (n : Nat)
  deriving DecidableEq, Repr

/-- The file that a deed is for; asking for a version is for none. -/
def Deed.file? : Deed → Option Nat
  | .query _ _ => none
  | .format n _ | .write n => some n

/-- The deed starts a program. -/
def Deed.starts : Deed → Bool
  | .query _ _ | .format _ _ => true
  | .write _ => false

/-- The failure says that the formatter is not there. -/
def Failure.IsNotInstalled : Failure → Prop
  | .notInstalled _ _ => True
  | _ => False

namespace Formatter

/-- A file is ready to be asked for its version: its path is absolute, and it is a regular file with
an execute bit. -/
structure Queries (f : Formatter) (w : World) (command : String) (query : Launch.Ready) : Prop where
  absolute : (Path.parse command).isAbsolute = true
  file : Locator.IsExecutableFile w command
  starts : Launch.start w command f.tool.versionArguments none = .ok query

/-- The world follows from another one by these deeds, none of which runs anything unverified.  The
formatter is only run under a command that was asked for its version and exited with success, and
only as it is asked for: for a file, with the arguments of a plan and what stands after them. -/
inductive Follows (f : Formatter) (asked : Nat → Plan → List String → Prop) (w : World) :
    List Deed → World → Prop
  | start : Follows f asked w [] w
  | log {deeds v} (before : Follows f asked w deeds v) (records : List LogRecord) :
      Follows f asked w deeds (v.logging records)
  | query {deeds v command query exit later} (before : Follows f asked w deeds v)
      (hquery : f.Queries v command query) (hran : query.Ran [] v exit later) :
      Follows f asked w (deeds ++ [.query command (exit.map Finish.code)]) later
  | format {deeds v n plan following command ready input exit later}
      (before : Follows f asked w deeds v) (hvouched : .query command (some 0) ∈ deeds)
      (hasked : asked n plan following)
      (hstart : Launch.start v command (plan.arguments ++ following)
        (plan.invocationOf command).directory = .ok ready)
      (hran : ready.Ran input v exit later) :
      Follows f asked w (deeds ++ [.format n command]) later
  | write {deeds v n command} (before : Follows f asked w deeds v)
      (hformatted : .format n command ∈ deeds) (found : Location) (contents : Text.Bytes) :
      Follows f asked w (deeds ++ [.write n])
        { v with files := v.files.overwrite found contents }

/-- Nothing is started but what the deeds say. -/
theorem Follows.runs {f : Formatter} {asked : Nat → Plan → List String → Prop} {w v : World}
    {deeds : List Deed} (h : Follows f asked w deeds v) :
    ∃ runs, v.runs = w.runs ++ runs ∧ runs.length = deeds.countP Deed.starts := by
  induction h with
  | start => exact ⟨[], by simp, rfl⟩
  | log _ _ ih => exact ih
  | query _ _ hran ih =>
      obtain ⟨runs, hruns, hlength⟩ := ih
      exact ⟨runs ++ [_], by rw [hran.world, World.afterRun, hruns, List.append_assoc],
        by simp [List.countP_append, Deed.starts, hlength]⟩
  | format _ _ _ _ hran ih =>
      obtain ⟨runs, hruns, hlength⟩ := ih
      exact ⟨runs ++ [_], by rw [hran.world, World.afterRun, hruns, List.append_assoc],
        by simp [List.countP_append, Deed.starts, hlength]⟩
  | write _ _ _ _ ih =>
      obtain ⟨runs, hruns, hlength⟩ := ih
      exact ⟨runs, hruns, by simp [List.countP_append, Deed.starts, hlength]⟩

/-- Whether a file is ready to be asked depends on the scene. -/
theorem Queries.of_scene_eq {f : Formatter} {w other : World} {command : String}
    {query : Launch.Ready} (h : f.Queries w command query) (hscene : w.scene = other.scene) :
    f.Queries other command query where
  absolute := h.absolute
  file := by
    obtain ⟨place, e, hfind, hentry⟩ := h.file
    rw [World.files_eq_of_scene_eq hscene, World.directory_eq_of_scene_eq hscene] at hfind
    exact ⟨place, e, hfind, hentry⟩
  starts := by rw [← Launch.start_eq_of_scene_eq hscene, h.starts]

/-- Where version queries write no file, asking changes none. -/
theorem Follows.scene_eq {f : Formatter} {asked : Nat → Plan → List String → Prop} {w v : World}
    {deeds : List Deed} (h : Follows f asked w deeds v)
    (hleaves : ∀ command query, f.Queries w command query → query.LeavesFiles w.files)
    (hqueries : ∀ deed ∈ deeds, deed.file? = none) : v.scene = w.scene := by
  induction h with
  | start => rfl
  | log _ _ ih => exact ih hqueries
  | query _ hquery hran ih =>
      have hscene := ih fun deed hdeed => hqueries deed (by simp [hdeed])
      rw [hran.world, World.scene_afterRun _ fun finish hfinish => ?_, hscene]
      have hfinishes := hran.finish finish hfinish
      rw [World.files_eq_of_scene_eq hscene] at hfinishes ⊢
      exact hleaves _ _ (hquery.of_scene_eq hscene) [] finish hfinishes
  | @format _ _ n _ _ command =>
      simpa [Deed.file?] using hqueries (.format n command) (by simp)
  | @write _ _ n => simpa [Deed.file?] using hqueries (.write n) (by simp)

/-! ## What each part of a request does -/

section Parts

variable {f : Formatter} {asked : Nat → Plan → List String → Prop} {w v : World}
  {deeds : List Deed}

/-- Reading is no deed. -/
theorem Follows.of_reads {α : Type} (h : Follows f asked w deeds v) {action : Action α}
    (hreads : action.Reads) : Follows f asked w deeds (action.outcome v).2 := by
  obtain ⟨records, hv⟩ := hreads.outcome_eq v
  rw [hv]
  exact h.log records

/-- Asking a file for its version asks this file at most, and is answered if it exited with
success. -/
theorem Follows.probe (h : Follows f asked w deeds v) {path : String}
    (habsolute : (Path.parse path).isAbsolute = true) (hfile : Locator.IsExecutableFile v path)
    (schedule : Schedule) :
    ∃ more, (∀ deed ∈ more, deed.file? = none) ∧
      Follows f asked w (deeds ++ more)
        ((Locator.probe path f.tool.versionArguments f.probeLimit schedule).outcome v).2 ∧
      (((Locator.probe path f.tool.versionArguments f.probeLimit schedule).outcome v).1 = .ok true →
        .query path (some 0) ∈ more) := by
  cases hstart : Launch.start v path f.tool.versionArguments none with
  | error refusal =>
      obtain ⟨records, hprobe⟩ := Locator.outcome_probe_of_refused hstart f.probeLimit schedule
      rw [hprobe]
      refine ⟨[], by simp, by simpa using h.log records, ?_⟩
      cases refusal <;> simp [Locator.refusedProbe]
  | ok query =>
      obtain ⟨records, hprobe⟩ := Locator.outcome_probe_of_started hstart f.probeLimit schedule
      have hlimit : ∀ s ∈ f.probeLimit, s.toBinary?.isSome = true :=
        Seconds.isSome_toBinary?_of_mem_map_real
      obtain ⟨exit, hran, hseen⟩ :=
        Locator.ran_supervise query [] (Locator.fits_probeLimit hlimit)
          (Locator.probeSchedule schedule) v
      rw [hprobe]
      refine ⟨[.query path (exit.map Finish.code)], by simp [Deed.file?],
        (h.query ⟨habsolute, hfile, hstart⟩ hran).log records, ?_⟩
      intro hanswer
      obtain ⟨seen, hsupervised, hverdict⟩ := except_bind_eq_ok.mp hanswer
      obtain ⟨finish, rfl, hcode⟩ := Locator.probeVerdict_eq_true hverdict
      obtain hunending | ⟨ending, hending⟩ := hseen
      · simp [hunending] at hsupervised
      · obtain ⟨-, rfl⟩ : ending = .output ∧ exit = some finish := by
          simpa [hending] using hsupervised
        simp [hcode]

/-- Locating asks at most the file that it finds, and finds one that exited with success. -/
theorem Follows.locate (h : Follows f asked w deeds v) {q : Locator.Query}
    (htool : q.toolOrUsual = f.tool) (schedule : Schedule) :
    ∃ more, (∀ deed ∈ more, deed.file? = none) ∧
      Follows f asked w (deeds ++ more) ((Locator.locate q f.probeLimit schedule).outcome v).2 ∧
      ∀ path, ((Locator.locate q f.probeLimit schedule).outcome v).1 = .ok ⟨path, true⟩ →
        .query path (some 0) ∈ more := by
  cases hinspect : ((Locator.inspect q).outcome v).1 with
  | error failure =>
      obtain ⟨records, hv⟩ := Locator.outcome_locate_of_error hinspect f.probeLimit schedule
      rw [hv]
      exact ⟨[], by simp, by simpa using h.log records, by simp⟩
  | ok inspected =>
      rcases inspected with ⟨path, passes⟩
      cases passes with
      | false =>
          obtain ⟨records, hv⟩ := Locator.outcome_locate_of_failing hinspect f.probeLimit schedule
          rw [hv]
          exact ⟨[], by simp, by simpa using h.log records, by simp⟩
      | true =>
          obtain ⟨habsolute, hfile⟩ := Locator.passes_of_inspect hinspect
          obtain ⟨first, second, hv⟩ :=
            Locator.outcome_locate_of_passing hinspect f.probeLimit schedule
          obtain ⟨more, hmore, hprobed, hexited⟩ := (h.log first).probe habsolute hfile schedule
          rw [hv, htool]
          refine ⟨more, hmore, hprobed.log second, fun found hfound => ?_⟩
          obtain ⟨available, hanswer, hsame⟩ := except_bind_eq_ok.mp hfound
          obtain ⟨rfl, rfl⟩ := Locator.Resolved.mk.inj (Except.ok.inj hsame)
          exact hexited hanswer

/-- Preparing asks at most the file that it finds, and makes an invocation of one that exited with
success. -/
theorem Follows.prepare (h : Follows f asked w deeds v) (folder : Option Folder)
    (schedule : Schedule) :
    ∃ more, (∀ deed ∈ more, deed.file? = none) ∧
      Follows f asked w (deeds ++ more) ((f.prepare folder schedule).outcome v).2 ∧
      ∀ invocation, ((f.prepare folder schedule).outcome v).1 = .ok invocation →
        ∃ plan command, ((f.plan folder).outcome v).1 = .ok plan ∧
          invocation = plan.invocationOf command ∧ .query command (some 0) ∈ more := by
  obtain ⟨first, hv⟩ := (f.reads_plan folder).outcome_eq v
  rw [Formatter.prepare, outcome_bind, hv]
  cases hplan : ((f.plan folder).outcome v).1 with
  | error failure => exact ⟨[], by simp, by simpa using h.log first, by simp⟩
  | ok plan =>
      obtain ⟨more, hmore, hlocate, hfound⟩ :=
        (h.log first).locate (folder_and_tool_of_plan hplan).2 schedule
      dsimp only
      rw [outcome_bind]
      rcases hlocated : (Locator.locate plan.query f.probeLimit schedule).outcome
        (v.logging first) with ⟨failure | resolved, located⟩
      · rw [hlocated] at hlocate
        exact ⟨more, hmore, hlocate, by simp⟩
      · rw [hlocated] at hlocate hfound
        refine ⟨more, hmore, hlocate.of_reads (f.reads_invocation plan resolved), ?_⟩
        intro invocation hinvocation
        obtain ⟨havailable, rfl, -⟩ := outcome_invocation_eq_ok (Prod.ext hinvocation rfl)
        rcases resolved with ⟨path, available⟩
        obtain rfl : available = true := havailable
        exact ⟨plan, path, rfl, rfl, hfound path rfl⟩

/-- What comes of running the formatter for a file after some deeds: it is run for this file only,
it is run if there is a result, and it is not found missing. -/
def Formats {α : Type} (f : Formatter) (asked : Nat → Plan → List String → Prop) (w : World)
    (deeds : List Deed) (n : Nat) (outcome : Except Failure α × World) : Prop :=
  ∃ more, (∀ deed ∈ more, deed.file? = some n) ∧ Follows f asked w (deeds ++ more) outcome.2 ∧
    (∀ x, outcome.1 = .ok x → ∃ command, .format n command ∈ more) ∧
    ∀ failure, outcome.1 = .error failure → ¬failure.IsNotInstalled

/-- Nothing is run when the command is refused. -/
theorem Formats.of_refused {α : Type} (h : Follows f asked w deeds v) (n : Nat) (command : String)
    (refusal : Launch.Refusal) (records : List LogRecord) :
    Formats f asked w deeds n
      ((.error (Execution.refusalFailure command refusal), v.logging records) :
        Except Failure α × World) := by
  refine ⟨[], by simp, by simpa using h.log records, by simp, ?_⟩
  rintro failure ⟨⟩
  cases refusal <;> simp [Execution.refusalFailure, Failure.IsNotInstalled]

/-- The formatter is run when its command starts, and what supervision saw is judged. -/
theorem Formats.of_started {α : Type} (h : Follows f asked w deeds v) {command : String}
    (hvouched : .query command (some 0) ∈ deeds) {n : Nat} {plan : Plan} {following : List String}
    (hasked : asked n plan following) {ready : Launch.Ready}
    (hstart : Launch.start v command (plan.arguments ++ following)
      (plan.invocationOf command).directory = .ok ready)
    {verdict : Ending × Option Finish → Except Failure α}
    (hverdict : ∀ seen failure, verdict seen = .error failure → ¬failure.IsNotInstalled)
    (input : Text.Bytes) (schedule : Schedule) (first second : List LogRecord) :
    let supervised := (Locator.supervise ready input f.limit schedule).outcome (v.logging first)
    Formats f asked w deeds n (supervised.1.bind verdict, supervised.2.logging second) := by
  intro supervised
  have hlimit : ∀ s ∈ f.limit, s.toBinary?.isSome = true :=
    Seconds.isSome_toBinary?_of_mem_map_real
  obtain ⟨exit, hran, hseen⟩ := Locator.ran_supervise ready input hlimit schedule (v.logging first)
  refine ⟨[.format n command], by simp [Deed.file?],
    ((h.log first).format hvouched hasked hstart hran).log second, by simp, ?_⟩
  intro failure hfailure
  obtain hunending | ⟨ending, hending⟩ := hseen
  · obtain rfl : Failure.unending = failure := by
      simpa [supervised, hunending, Except.bind] using hfailure
    simp [Failure.IsNotInstalled]
  · apply hverdict (ending, exit) failure
    simpa [supervised, hending, Except.bind] using hfailure

/-- No verdict on a run says that the formatter is not there. -/
theorem not_isNotInstalled_of_verdict {command : String} {limit : Option Seconds} {strict : Bool}
    {seen : Ending × Option Finish} {failure : Failure}
    (h : Execution.verdict command limit strict seen = .error failure) :
    ¬failure.IsNotInstalled := by
  unfold Execution.verdict at h
  split at h
  · obtain rfl := Except.error.inj h
    simp [Failure.IsNotInstalled]
  · obtain rfl := Except.error.inj h
    simp [Failure.IsNotInstalled]
  · dsimp only at h
    split at h
    · split at h
      · simp at h
      · obtain rfl := Except.error.inj h
        simp [Failure.IsNotInstalled]
    · simp at h
  · obtain rfl := Except.error.inj h
    simp [Failure.IsNotInstalled]

theorem not_isNotInstalled_of_accept {command : String} {result : Execution.Output}
    {failure : Failure} (h : Execution.accept command result = .error failure) :
    ¬failure.IsNotInstalled := by
  rw [Execution.accept] at h
  split at h
  · obtain rfl := Except.error.inj h
    simp [Failure.IsNotInstalled]
  · simp at h

/-- Running the formatter as a filter. -/
theorem Formats.asFilter (h : Follows f asked w deeds v) {command : String}
    (hvouched : .query command (some 0) ∈ deeds) {n : Nat} {plan : Plan}
    (hasked : asked n plan [Execution.inputMark]) (text : String) (schedule : Schedule) :
    Formats f asked w deeds n ((Execution.asFilter command plan.arguments text
      (f.terms (plan.invocationOf command) schedule)).outcome v) := by
  cases hstart : Launch.start v command (plan.arguments ++ [Execution.inputMark])
      (f.terms (plan.invocationOf command) schedule).directory with
  | error refusal =>
      obtain ⟨records, hv⟩ := Execution.outcome_asFilter_of_refused hstart text
      rw [hv]
      exact .of_refused h n command refusal records
  | ok ready =>
      obtain ⟨first, second, hv⟩ := Execution.outcome_asFilter_of_started hstart text
      rw [hv]
      refine .of_started h hvouched hasked hstart (fun seen failure hfailure => ?_) _ _ _ _
      obtain hverdict | ⟨result, -, haccept⟩ := except_bind_eq_error.mp hfailure
      · exact not_isNotInstalled_of_verdict hverdict
      · exact not_isNotInstalled_of_accept (except_map_eq_error.mp haccept)

/-- Running the formatter in place. -/
theorem Formats.inPlace (h : Follows f asked w deeds v) {command : String}
    (hvouched : .query command (some 0) ∈ deeds) {n : Nat} {plan : Plan} {targets : List String}
    (hasked : asked n plan targets) (schedule : Schedule) :
    Formats f asked w deeds n ((Execution.inPlace command plan.arguments targets
      (f.terms (plan.invocationOf command) schedule)).outcome v) := by
  cases hstart : Launch.start v command (plan.arguments ++ targets)
      (f.terms (plan.invocationOf command) schedule).directory with
  | error refusal =>
      obtain ⟨records, hv⟩ := Execution.outcome_inPlace_of_refused hstart
      rw [hv]
      exact .of_refused h n command refusal records
  | ok ready =>
      obtain ⟨first, second, hv⟩ := Execution.outcome_inPlace_of_started hstart
      rw [hv]
      refine .of_started h hvouched hasked hstart (fun seen failure hfailure => ?_) _ _ _ _
      obtain hverdict | ⟨result, -, haccept⟩ := except_bind_eq_error.mp hfailure
      · exact not_isNotInstalled_of_verdict hverdict
      · exact not_isNotInstalled_of_accept haccept

/-- A path without a place is no file, which has nothing to do with the formatter. -/
theorem not_isNotInstalled_of_place {file : Path} {failure : Failure}
    (h : Contents.place v file = .error failure) : ¬failure.IsNotInstalled := by
  rw [Contents.place_eq] at h
  split at h
  · obtain rfl := Except.error.inj h
    simp [Failure.IsNotInstalled]
  · split at h
    · obtain rfl := Except.error.inj h
      simp [Contents.refusal, Failure.IsNotInstalled]
    · split at h
      · obtain rfl := Except.error.inj h
        simp [Contents.refusal, Failure.IsNotInstalled]
      · split at h
        · obtain rfl := Except.error.inj h
          simp [Failure.IsNotInstalled]
        · simp at h

theorem not_isNotInstalled_of_writing {file : Path} {contents : Text.Bytes} {failure : Failure}
    (h : Contents.writing v file contents = .error failure) : ¬failure.IsNotInstalled := by
  obtain hplace | ⟨cause, rfl⟩ := Contents.writing_eq_error h
  · exact not_isNotInstalled_of_place hplace
  · simp [Failure.IsNotInstalled]

/-- What was printed is written back at the place of the file, or not at all. -/
theorem Follows.writeBack (h : Follows f asked w deeds v) {n : Nat} {command : String}
    (hformatted : .format n command ∈ deeds) (file : Path) (before after : String)
    (write : Bool) :
    ∃ more, (∀ deed ∈ more, deed.file? = some n) ∧
      Follows f asked w (deeds ++ more) ((writeBack file before after write).outcome v).2 ∧
      ∀ failure, ((writeBack file before after write).outcome v).1 = .error failure →
        ¬failure.IsNotInstalled := by
  rw [Formatter.writeBack]
  split
  · exact ⟨[], by simp, by simpa using h, by simp⟩
  · cases write with
    | false => exact ⟨[], by simp, by simpa using h.log _, by simp [Except.map]⟩
    | true =>
        simp only [if_true, outcome_get_bind, Contents.write_eq]
        obtain ⟨more, hmore, hwritten⟩ : ∃ more, (∀ deed ∈ more, deed.file? = some n) ∧
            Follows f asked w (deeds ++ more)
              (v.withFiles (Contents.written v file (Text.Utf8.encode after) v.files)) := by
          obtain hkept | ⟨found, hfound⟩ :=
            Contents.written_cases v file (Text.Utf8.encode after) v.files
          · exact ⟨[], by simp, by simpa [hkept] using h⟩
          · exact ⟨[.write n], by simp [Deed.file?], by
              rw [hfound]
              exact h.write hformatted found _⟩
        cases hwriting : Contents.writing v file (Text.Utf8.encode after) with
        | error failure =>
            refine ⟨more, hmore, hwritten, ?_⟩
            rintro cause ⟨⟩
            exact not_isNotInstalled_of_writing hwriting
        | ok _ => exact ⟨more, hmore, hwritten.log _, by simp [Except.map, outcome_bind]⟩

end Parts

end Formatter

end FormatLauncher
