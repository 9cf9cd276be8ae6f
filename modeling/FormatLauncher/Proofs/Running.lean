/-
# The running half of a request

A program that was started is supervised, and what supervision saw is turned into a verdict.  Only
supervision adds to the list of runs and only it may change files; everything around it reads and
logs.  So each way of running the formatter is described by the start, the supervision and a
verdict that is a plain function.
-/

import FormatLauncher.Proofs.Launch
import FormatLauncher.Proofs.Reading

namespace FormatLauncher

open Action

/-- What is left of a started program: its run is remembered, and its files count if it finished. -/
def World.afterRun (w : World) (run : Run) (finished : Option Finish) : World :=
  { w with runs := w.runs ++ [run], files := (finished.map Finish.files).getD w.files }

@[simp]
theorem World.afterRun_logging (w : World) (records : List LogRecord) (run : Run)
    (finished : Option Finish) :
    (w.logging records).afterRun run finished = (w.afterRun run finished).logging records := rfl

/-- A run that leaves the files as they are keeps the scene. -/
theorem World.scene_afterRun {w : World} {finished : Option Finish} (run : Run)
    (hfiles : ∀ finish, finished = some finish → finish.files = w.files) :
    (w.afterRun run finished).scene = w.scene := by
  cases finished with
  | none => rfl
  | some finish => simp [afterRun, scene, hfiles]

/-- The scene after a run depends on the scene before it. -/
theorem World.scene_afterRun_eq {w other : World} (hscene : w.scene = other.scene)
    (run run' : Run) (finished : Option Finish) :
    (w.afterRun run finished).scene = (other.afterRun run' finished).scene := by
  simp only [scene, World.mk.injEq] at hscene
  simp [afterRun, scene, hscene]

/-- Limits that are floating point numbers fit one. -/
theorem Seconds.isSome_toBinary?_of_mem_map_real {limit : Option Binary64} :
    ∀ s ∈ limit.map Seconds.real, s.toBinary?.isSome = true := by
  intro s hs
  obtain ⟨x, -, rfl⟩ := Option.map_eq_some_iff.mp hs
  rfl

namespace Locator

theorem fits_limit {limit : Option Seconds} (hlimit : ∀ s ∈ limit, s.toBinary?.isSome = true) :
    (limit.any fun s => s.toBinary?.isNone) = false := by
  cases limit with
  | none => rfl
  | some s => simpa using hlimit s rfl

/-- Supervision in closed form. -/
theorem outcome_supervise (ready : Launch.Ready) (input : Text.Bytes) (limit : Option Seconds)
    (schedule : Schedule) (w : World) :
    (supervise ready input limit schedule).outcome w =
      if limit.any fun s => s.toBinary?.isNone then
        (.error .numberTooLarge, w.afterRun (ready.run false) none)
      else
        match schedule.watch? limit (ready.finish? input w.files).isSome with
        | none => (.error .unending, w.afterRun (ready.run false) none)
        | some watch =>
          let finished := if watch.completed then ready.finish? input w.files else none
          (.ok (watch.ending, finished), w.afterRun (ready.run watch.completed) finished) := by
  unfold supervise Launch.Ready.finish? Launch.Ready.run
  by_cases hlimit : (limit.any fun s => s.toBinary?.isNone) = true
  · simp only [hlimit, if_true, outcome_bind, outcome_recordRun]
    rfl
  · simp only [hlimit, Bool.false_eq_true, if_false, outcome_bind, outcome_get]
    generalize ready.program ⟨ready.directory, ready.arguments, input⟩ w.files = finish
    cases schedule.watch? limit finish.isSome with
    | none => rfl
    | some watch =>
        simp only [outcome_bind, outcome_recordRun]
        by_cases hcompleted : watch.completed = true
        · cases finish <;> simp [hcompleted, World.afterRun, Except.map]
        · simp [hcompleted, World.afterRun]

/-- Supervision ignores the history. -/
theorem ignoresHistory_supervise (ready : Launch.Ready) (input : Text.Bytes)
    (limit : Option Seconds) (schedule : Schedule) :
    (supervise ready input limit schedule).IgnoresHistory := by
  intro w other hscene
  have hfiles := World.files_eq_of_scene_eq hscene
  rw [outcome_supervise, outcome_supervise, hfiles]
  split
  · exact ⟨rfl, World.scene_afterRun_eq hscene _ _ _⟩
  · split
    · exact ⟨rfl, hscene⟩
    · exact ⟨rfl, World.scene_afterRun_eq hscene _ _ _⟩

/-- Supervision keeps a scene in which the program leaves the files as they are. -/
theorem keepsScene_supervise {ready : Launch.Ready} {s : World}
    (hleaves : ready.LeavesFiles s.files) (input : Text.Bytes) (limit : Option Seconds)
    (schedule : Schedule) : (supervise ready input limit schedule).KeepsScene s := by
  intro w hscene
  have hfiles := World.files_eq_of_scene_eq hscene
  rw [outcome_supervise]
  split
  · exact hscene
  · split
    · exact hscene
    · next watch _ =>
        rw [← hscene]
        apply World.scene_afterRun
        intro finish hfinish
        rw [hfiles]
        apply hleaves input
        cases hcompleted : watch.completed <;> simp_all

/-- Supervision starts the program that is ready, in the directory it was made ready for. -/
theorem runs_supervise (ready : Launch.Ready) (input : Text.Bytes) (limit : Option Seconds)
    (schedule : Schedule) (w : World) :
    ∃ finished, ((supervise ready input limit schedule).outcome w).2.runs =
      w.runs ++ [ready.run finished] := by
  rw [outcome_supervise]
  split
  · exact ⟨false, rfl⟩
  · split
    · exact ⟨false, rfl⟩
    · exact ⟨_, rfl⟩

/-- Supervision starts one program. -/
theorem startsAtMost_supervise (ready : Launch.Ready) (input : Text.Bytes)
    (limit : Option Seconds) (schedule : Schedule) :
    (supervise ready input limit schedule).StartsAtMost 1 := by
  intro w
  rw [outcome_supervise]
  split
  · exact ⟨rfl, _, rfl, by simp⟩
  · split
    · exact ⟨rfl, _, rfl, by simp⟩
    · exact ⟨rfl, _, rfl, by simp⟩

/-- A supervised run that ends with output did finish. -/
theorem finish?_of_supervise_eq_ok {ready : Launch.Ready} {input : Text.Bytes}
    {limit : Option Seconds} {schedule : Schedule} {w : World} {ending : Ending}
    {finish : Finish}
    (h : ((supervise ready input limit schedule).outcome w).1 = .ok (ending, some finish)) :
    ready.finish? input w.files = some finish := by
  rw [outcome_supervise] at h
  split at h
  · simp at h
  · split at h
    · simp at h
    · next watch _ => cases hcompleted : watch.completed <;> simp_all

end Locator

namespace Execution

/-- The bytes a run is given as its input. -/
def inputBytes : Option String → Text.Bytes
  | some text => Text.Utf8.encode text
  | none => []

/-- Why a run that did not start failed. -/
def refusalFailure (command : String) : Launch.Refusal → Failure
  | .embeddedNul => .embeddedNul
  | .system cause => .notStarted command cause

/-- What a supervised run of a command comes to. -/
def verdict (command : String) (limit : Option Seconds) (strict : Bool) :
    Ending × Option Finish → Except Failure Output
  | (.waiterCancelled, _) => .error .waiterCancelled
  | (.cancelled, _) => .error (.cancelled command)
  | (.output, some finish) =>
    let errors := Text.Utf8.decodeLenient finish.errors
    if strict && finish.code = 0 then
      match Text.Utf8.decode finish.output with
      | .ok output => .ok ⟨finish.code, output, errors⟩
      | .error e => .error (.invalidOutput command e.defect)
    else .ok ⟨finish.code, Text.Utf8.decodeLenient finish.output, errors⟩
  | _ => .error (.timedOut command (limit.getD Locator.usualLimit))

/-- A command that is refused fails, and nothing is run. -/
theorem outcome_execute_of_refused {w : World} {command : String} {arguments : List String}
    {terms : Terms} {refusal : Launch.Refusal}
    (hstart : Launch.start w command arguments terms.directory = .error refusal)
    (input : Option String) (strict : Bool) :
    ∃ records, (execute (command :: arguments) input terms strict).outcome w =
      (.error (refusalFailure command refusal), w.logging records) := by
  simp only [execute, outcome_bind, outcome_say, outcome_get]
  rw [show Launch.start (w.logging _) command arguments terms.directory = .error refusal
    from hstart]
  cases refusal with
  | embeddedNul => exact ⟨_, rfl⟩
  | system cause => exact ⟨_, by simp [outcome_bind, refusalFailure]; rfl⟩

/-- A command that starts is supervised, and the verdict on what supervision saw is the answer. -/
theorem outcome_execute_of_started {w : World} {command : String} {arguments : List String}
    {terms : Terms} {ready : Launch.Ready}
    (hstart : Launch.start w command arguments terms.directory = .ok ready)
    (input : Option String) (strict : Bool) :
    ∃ first second, (execute (command :: arguments) input terms strict).outcome w =
      let supervised := (Locator.supervise ready (inputBytes input) terms.limit
        terms.schedule).outcome (w.logging first)
      (supervised.1.bind (verdict command terms.limit strict),
        supervised.2.logging second) := by
  simp only [execute, outcome_bind, outcome_say, outcome_get]
  rw [show Launch.start (w.logging _) command arguments terms.directory = .ok ready from hstart]
  dsimp only
  refine ⟨_, outcome_bind_of_answers (fun seen => ?_) _ _⟩
  rcases seen with ⟨ending, finished⟩
  cases ending with
  | waiterCancelled => exact answers_throw _
  | cancelled => exact (answers_say _ _).bind (answers_throw _)
  | timedOut => exact (answers_say _ _).bind (answers_throw _)
  | output =>
      cases finished with
      | none => exact (answers_say _ _).bind (answers_throw _)
      | some finish =>
          simp only [verdict]
          split
          · cases Text.Utf8.decode finish.output with
            | ok output => exact answers_pure _
            | error e => exact (answers_say _ _).bind (answers_throw _)
          · exact answers_pure _

/-- The result of a run, when its exit code says that it succeeded. -/
def accept (command : String) (result : Output) : Except Failure Output :=
  if result.code ≠ 0 then .error (.executionFailed command result.code result.errors)
  else .ok result

theorem answers_sayStream (level : Level) (name text : String) :
    (sayStream level name text).Answers (.ok ()) := by
  rw [sayStream]
  split
  · exact answers_pure _
  · exact answers_say _ _

/-- What a supervised filter comes to: its output as text. -/
def filterVerdict (command : String) (limit : Option Seconds) (seen : Ending × Option Finish) :
    Except Failure String :=
  (verdict command limit true seen).bind fun result => (accept command result).map Output.output

/-- A filter succeeds when it ended with the code for success and printed UTF-8. -/
theorem filterVerdict_eq_ok {command : String} {limit : Option Seconds}
    {seen : Ending × Option Finish} {after : String}
    (h : filterVerdict command limit seen = .ok after) :
    ∃ finish, seen = (.output, some finish) ∧ finish.code = 0 ∧
      Text.Utf8.decode finish.output = .ok after := by
  rcases seen with ⟨ending, finished⟩
  cases ending with
  | waiterCancelled => simp [filterVerdict, verdict, Except.bind] at h
  | cancelled => simp [filterVerdict, verdict, Except.bind] at h
  | timedOut => simp [filterVerdict, verdict, Except.bind] at h
  | output =>
      cases finished with
      | none => simp [filterVerdict, verdict, Except.bind] at h
      | some finish =>
          by_cases hcode : finish.code = 0
          · cases hdecode : Text.Utf8.decode finish.output with
            | error e => simp [filterVerdict, verdict, Except.bind, hcode, hdecode] at h
            | ok output =>
                obtain rfl : output = after := by
                  simpa [filterVerdict, verdict, accept, Except.bind, Except.map, hcode, hdecode]
                    using h
                exact ⟨finish, rfl, hcode, hdecode⟩
          · simp [filterVerdict, verdict, accept, Except.bind, Except.map, hcode] at h

/-- What a filter comes to does not depend on the files, if what its program prints does not. -/
theorem supervise_filter_eq {ready : Launch.Ready} {input : Text.Bytes} {v w : World}
    (hfinish : ready.finish? input v.files =
      (ready.finish? input w.files).map fun finish => { finish with files := v.files })
    (command : String) (limit : Option Seconds) (schedule : Schedule) :
    ((Locator.supervise ready input limit schedule).outcome v).1.bind
        (filterVerdict command limit) =
      ((Locator.supervise ready input limit schedule).outcome w).1.bind
        (filterVerdict command limit) := by
  rw [Locator.outcome_supervise, Locator.outcome_supervise, hfinish, Option.isSome_map]
  split
  · rfl
  · split
    · rfl
    · next watch _ =>
        cases watch.completed with
        | false => rfl
        | true =>
            cases ready.finish? input w.files with
            | none => rfl
            | some finish => cases watch.ending <;> rfl

/-- A filter that is refused fails, and nothing is run. -/
theorem outcome_asFilter_of_refused {w : World} {command : String} {arguments : List String}
    {terms : Terms} {refusal : Launch.Refusal}
    (hstart : Launch.start w command (arguments ++ [inputMark]) terms.directory = .error refusal)
    (text : String) :
    ∃ records, (asFilter command arguments text terms).outcome w =
      (.error (refusalFailure command refusal), w.logging records) := by
  obtain ⟨records, hexecute⟩ := outcome_execute_of_refused hstart (some text) true
  refine ⟨records, ?_⟩
  rw [asFilter, outcome_bind, List.cons_append, hexecute]

/-- A filter that starts is supervised with the text on its input, and the verdict on what
supervision saw is the answer. -/
theorem outcome_asFilter_of_started {w : World} {command : String} {arguments : List String}
    {terms : Terms} {ready : Launch.Ready}
    (hstart : Launch.start w command (arguments ++ [inputMark]) terms.directory = .ok ready)
    (text : String) :
    ∃ first second, (asFilter command arguments text terms).outcome w =
      let supervised := (Locator.supervise ready (Text.Utf8.encode text) terms.limit
        terms.schedule).outcome (w.logging first)
      (supervised.1.bind (filterVerdict command terms.limit),
        supervised.2.logging second) := by
  obtain ⟨first, second, hexecute⟩ := outcome_execute_of_started hstart (some text) true
  have hjudge : ∃ third, (asFilter command arguments text terms).outcome w =
      (((execute (command :: (arguments ++ [inputMark])) (some text) terms true).outcome w).1.bind
          fun result => (accept command result).map Output.output,
        ((execute (command :: (arguments ++ [inputMark])) (some text) terms true).outcome
          w).2.logging third) := by
    refine outcome_bind_of_answers (fun result => ?_) _ _
    rw [accept]
    split
    · exact (answers_say _ _).bind <| (answers_sayStream _ _ _).bind (answers_throw _)
    · exact (answers_sayStream _ _ _).bind <| (answers_sayStream _ _ _).bind (answers_pure _)
  rcases hjudge with ⟨third, hfilter⟩
  refine ⟨first, second ++ third, ?_⟩
  rw [hfilter, hexecute]
  simp only [inputBytes, World.logging_logging]
  rcases (Locator.supervise ready (Text.Utf8.encode text) terms.limit terms.schedule).outcome
    (w.logging first) with ⟨failure | seen, later⟩ <;> rfl

/-- What a filter that succeeds has started, and what that printed. -/
theorem asFilter_eq_ok {w : World} {command : String} {arguments : List String} {terms : Terms}
    {text after : String} (h : ((asFilter command arguments text terms).outcome w).1 = .ok after) :
    ∃ ready finish,
      Launch.start w command (arguments ++ [inputMark]) terms.directory = .ok ready ∧
      ready.finish? (Text.Utf8.encode text) w.files = some finish ∧ finish.code = 0 ∧
      Text.Utf8.decode finish.output = .ok after := by
  cases hstart : Launch.start w command (arguments ++ [inputMark]) terms.directory with
  | error refusal =>
      obtain ⟨_, hw⟩ := outcome_asFilter_of_refused hstart text
      simp [hw] at h
  | ok ready =>
      obtain ⟨first, _, hw⟩ := outcome_asFilter_of_started hstart text
      rw [hw] at h
      cases hseen : ((Locator.supervise ready (Text.Utf8.encode text) terms.limit
          terms.schedule).outcome (w.logging first)).1 with
      | error failure => simp [hseen, Except.bind] at h
      | ok seen =>
          obtain ⟨finish, rfl, hcode, houtput⟩ :=
            filterVerdict_eq_ok (by simpa [hseen, Except.bind] using h)
          have hfinish := Locator.finish?_of_supervise_eq_ok hseen
          exact ⟨ready, finish, rfl, hfinish, hcode, houtput⟩

/-- In-place work that is refused fails, and nothing is run. -/
theorem outcome_inPlace_of_refused {w : World} {command : String} {arguments targets : List String}
    {terms : Terms} {refusal : Launch.Refusal}
    (hstart : Launch.start w command (arguments ++ targets) terms.directory = .error refusal) :
    ∃ records, (inPlace command arguments targets terms).outcome w =
      (.error (refusalFailure command refusal), w.logging records) := by
  obtain ⟨records, hexecute⟩ := outcome_execute_of_refused hstart none false
  refine ⟨records, ?_⟩
  rw [inPlace, outcome_bind, List.cons_append, hexecute]

/-- In-place work that starts is supervised without input, and the verdict on what supervision saw
is the answer. -/
theorem outcome_inPlace_of_started {w : World} {command : String} {arguments targets : List String}
    {terms : Terms} {ready : Launch.Ready}
    (hstart : Launch.start w command (arguments ++ targets) terms.directory = .ok ready) :
    ∃ first second, (inPlace command arguments targets terms).outcome w =
      let supervised := (Locator.supervise ready [] terms.limit terms.schedule).outcome
        (w.logging first)
      (supervised.1.bind fun seen =>
          (verdict command terms.limit false seen).bind (accept command),
        supervised.2.logging second) := by
  obtain ⟨first, second, hexecute⟩ := outcome_execute_of_started hstart none false
  have hjudge : ∃ third, (inPlace command arguments targets terms).outcome w =
      (((execute (command :: (arguments ++ targets)) none terms false).outcome w).1.bind
          (accept command),
        ((execute (command :: (arguments ++ targets)) none terms false).outcome w).2.logging
          third) := by
    refine outcome_bind_of_answers (fun result => ?_) _ _
    refine (answers_sayStream _ _ _).bind <| (answers_sayStream _ _ _).bind ?_
    rw [accept]
    split
    · exact (answers_say _ _).bind (answers_throw _)
    · exact answers_pure _
  rcases hjudge with ⟨third, hinPlace⟩
  refine ⟨first, second ++ third, ?_⟩
  rw [hinPlace, hexecute]
  simp only [inputBytes, World.logging_logging]
  rcases (Locator.supervise ready [] terms.limit terms.schedule).outcome
    (w.logging first) with ⟨failure | seen, later⟩ <;> rfl

/-- A filter ignores the history. -/
theorem ignoresHistory_asFilter (command : String) (arguments : List String) (text : String)
    (terms : Terms) : (asFilter command arguments text terms).IgnoresHistory := by
  intro w other hscene
  have hsame := Launch.start_eq_of_scene_eq hscene command (arguments ++ [inputMark])
    terms.directory
  cases hstart : Launch.start w command (arguments ++ [inputMark]) terms.directory with
  | error refusal =>
      obtain ⟨_, hw⟩ := outcome_asFilter_of_refused hstart text
      obtain ⟨_, hother⟩ := outcome_asFilter_of_refused (hsame.symm.trans hstart) text
      simp [hw, hother, hscene]
  | ok ready =>
      obtain ⟨first, _, hw⟩ := outcome_asFilter_of_started hstart text
      obtain ⟨first', _, hother⟩ := outcome_asFilter_of_started (hsame.symm.trans hstart) text
      have hsupervise := Locator.ignoresHistory_supervise ready (Text.Utf8.encode text)
        terms.limit terms.schedule (w.logging first) (other.logging first') (by simpa using hscene)
      simp [hw, hother, hsupervise]

/-- A filter keeps a scene in which what it starts leaves the files as they are. -/
theorem keepsScene_asFilter {s : World} {command : String} {arguments : List String}
    {terms : Terms}
    (hleaves : ∀ ready, Launch.start s command (arguments ++ [inputMark]) terms.directory =
      .ok ready → ready.LeavesFiles s.files) (text : String) :
    (asFilter command arguments text terms).KeepsScene s := by
  intro w hscene
  have hsame := Launch.start_eq_of_scene_eq hscene command (arguments ++ [inputMark])
    terms.directory
  cases hstart : Launch.start w command (arguments ++ [inputMark]) terms.directory with
  | error refusal =>
      obtain ⟨_, hw⟩ := outcome_asFilter_of_refused hstart text
      simpa [hw] using hscene
  | ok ready =>
      obtain ⟨first, _, hw⟩ := outcome_asFilter_of_started hstart text
      have hsupervise := Locator.keepsScene_supervise (hleaves ready (hsame.symm.trans hstart))
        (Text.Utf8.encode text) terms.limit terms.schedule (w.logging first)
        (by simpa using hscene)
      simpa [hw] using hsupervise

end Execution

end FormatLauncher
