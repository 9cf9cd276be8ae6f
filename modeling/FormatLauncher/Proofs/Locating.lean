/-
# What locating does

Locating inspects a command, and only when its file passes the checks is it asked for its version.
So locating has three shapes: the inspection fails, the file does not pass, or the answer is that of
the version query.  Whatever comes of it is read off the scene.
-/

import FormatLauncher.Proofs.Running
import FormatLauncher.Proofs.Value

namespace FormatLauncher.Locator

open Action

/-- What a refused version query comes to. -/
def refusedProbe : Launch.Refusal → Except Failure Bool
  | .embeddedNul => .error .embeddedNul
  | .system _ => .ok false

/-- What a supervised version query with this limit comes to. -/
def probeVerdict (limit : Option Seconds) : Ending × Option Finish → Except Failure Bool
  | (.waiterCancelled, _) => .error .waiterCancelled
  | (.output, some finish) => .ok (finish.code = 0)
  | _ => (limitText limit).map fun _ => false

/-- The limit that the wait for a version query keeps. -/
def probeLimit (limit : Option Seconds) : Option Seconds := limit.map Seconds.notBelowZero

/-- A request to cancel is for the formatter's run, never for its version query. -/
def probeSchedule (schedule : Schedule) : Schedule := { schedule with cancelAt := none }

section Limit

variable {limit : Option Seconds} (hlimit : ∀ s ∈ limit, s.toBinary?.isSome = true)

include hlimit in
/-- What is waited for is a floating point number when the limit is. -/
theorem fits_probeLimit : ∀ s ∈ probeLimit limit, s.toBinary?.isSome = true := by
  intro s hs
  obtain ⟨given, hgiven, rfl⟩ := Option.map_eq_some_iff.mp hs
  have hfits := hlimit given hgiven
  cases given with
  | flag b => exact hfits
  | real x => exact hfits
  | whole n =>
      by_cases hn : 0 ≤ n
      · rwa [Seconds.notBelowZero, max_eq_left hn]
      · rw [Seconds.notBelowZero, max_eq_right (by omega)]
        decide

include hlimit in
/-- A limit that is a floating point number can be written. -/
theorem limitText_eq_ok : ∃ shown, limitText limit = .ok shown := by
  cases hgiven : limit with
  | none => exact ⟨_, rfl⟩
  | some given =>
      cases given with
      | flag b => exact ⟨_, rfl⟩
      | real x => exact ⟨_, rfl⟩
      | whole n =>
          have hfinite : ¬(Binary64.ofInt n).isInfinite = true := fun hinfinite => by
            simpa [Seconds.toBinary?, hinfinite] using hlimit _ hgiven
          rw [Binary64.isInfinite_ofInt_iff] at hfinite
          have hleast := Value.leastOverflowing_le_leastUnwritable
          exact ⟨toString n, by rw [limitText, Value.integerText?, if_pos (by omega)]; rfl⟩

end Limit

theorem outcome_probe_of_refused {w : World} {path : String} {arguments : List String}
    {refusal : Launch.Refusal} (hstart : Launch.start w path arguments none = .error refusal)
    (limit : Option Seconds) (schedule : Schedule) :
    ∃ records, (probe path arguments limit schedule).outcome w =
      (refusedProbe refusal, w.logging records) := by
  simp only [probe, startProbe, outcome_bind, outcome_get, hstart]
  cases refusal with
  | embeddedNul => exact ⟨[], by simp [refusedProbe]⟩
  | system cause => exact ⟨_, by simp [refusedProbe]; rfl⟩

theorem outcome_probe_of_started {w : World} {path : String} {arguments : List String}
    {ready : Launch.Ready} (hstart : Launch.start w path arguments none = .ok ready)
    (limit : Option Seconds) (schedule : Schedule) :
    ∃ records, (probe path arguments limit schedule).outcome w =
      let supervised :=
        (supervise ready [] (probeLimit limit) (probeSchedule schedule)).outcome w
      (supervised.1.bind (probeVerdict limit), supervised.2.logging records) := by
  have hready : (startProbe path arguments).outcome w = (.ok (some ready), w) := by
    simp [startProbe, outcome_bind, hstart]
  unfold probe
  rw [outcome_bind, hready]
  apply outcome_bind_of_answers
  have hover : (do
      let shown ← Action.ofExcept (limitText limit)
      Action.say .warning ("Liveness probe for " ++ path ++ " timed out after " ++ shown ++ "s")
      return false).Answers ((limitText limit).map fun _ => false) := by
    cases limitText limit with
    | error failure => exact answers_throw failure
    | ok shown => exact (answers_pure shown).bind <| (answers_say _ _).bind (answers_pure false)
  rintro ⟨ending, finished⟩
  cases ending with
  | waiterCancelled => exact answers_throw _
  | cancelled => exact hover
  | timedOut => exact hover
  | output =>
      cases finished with
      | none => exact hover
      | some finish =>
          dsimp only [probeVerdict]
          split
          · exact (answers_say _ _).bind (answers_pure _)
          · exact answers_pure _

/-- A version query that was answered was started. -/
theorem runs_of_probe_eq_true {w : World} {path : String} {arguments : List String}
    {limit : Option Seconds} {schedule : Schedule}
    (h : ((probe path arguments limit schedule).outcome w).1 = .ok true) :
    ∃ query, ((probe path arguments limit schedule).outcome w).2.runs = w.runs ++ [query] := by
  cases hstart : Launch.start w path arguments none with
  | error refusal =>
      obtain ⟨_, hw⟩ := outcome_probe_of_refused hstart limit schedule
      cases refusal <;> simp [hw, refusedProbe] at h
  | ok ready =>
      obtain ⟨_, hw⟩ := outcome_probe_of_started hstart limit schedule
      obtain ⟨finished, hruns⟩ :=
        runs_supervise ready [] (probeLimit limit) (probeSchedule schedule) w
      exact ⟨ready.run finished, by simpa [hw] using hruns⟩

/-- The version query starts one program. -/
theorem startsAtMost_probe (path : String) (arguments : List String) (limit : Option Seconds)
    (schedule : Schedule) : (probe path arguments limit schedule).StartsAtMost 1 := by
  intro w
  cases hstart : Launch.start w path arguments none with
  | error refusal =>
      obtain ⟨_, hw⟩ := outcome_probe_of_refused hstart limit schedule
      exact ⟨by simp [hw], [], by simp [hw]⟩
  | ok ready =>
      obtain ⟨_, hw⟩ := outcome_probe_of_started hstart limit schedule
      have hsupervise :=
        startsAtMost_supervise ready [] (probeLimit limit) (probeSchedule schedule) w
      simpa [hw] using hsupervise

/-- The version query ignores the history. -/
theorem ignoresHistory_probe (path : String) (arguments : List String) (limit : Option Seconds)
    (schedule : Schedule) : (probe path arguments limit schedule).IgnoresHistory := by
  intro w other hscene
  have hsame := Launch.start_eq_of_scene_eq hscene path arguments none
  cases hstart : Launch.start w path arguments none with
  | error refusal =>
      obtain ⟨_, hw⟩ := outcome_probe_of_refused hstart limit schedule
      obtain ⟨_, hother⟩ := outcome_probe_of_refused (hsame.symm.trans hstart) limit schedule
      simp [hw, hother, hscene]
  | ok ready =>
      obtain ⟨_, hw⟩ := outcome_probe_of_started hstart limit schedule
      obtain ⟨_, hother⟩ := outcome_probe_of_started (hsame.symm.trans hstart) limit schedule
      have hsupervise := ignoresHistory_supervise ready [] (probeLimit limit)
        (probeSchedule schedule) w other hscene
      simp [hw, hother, hsupervise]

/-- The version query keeps a scene in which what it starts leaves the files as they are. -/
theorem keepsScene_probe {s : World} {path : String} {arguments : List String}
    (hleaves : ∀ ready, Launch.start s path arguments none = .ok ready →
      ready.LeavesFiles s.files) (limit : Option Seconds) (schedule : Schedule) :
    (probe path arguments limit schedule).KeepsScene s := by
  intro w hscene
  have hsame := Launch.start_eq_of_scene_eq hscene path arguments none
  cases hstart : Launch.start w path arguments none with
  | error refusal =>
      obtain ⟨_, hw⟩ := outcome_probe_of_refused hstart limit schedule
      simpa [hw] using hscene
  | ok ready =>
      obtain ⟨_, hw⟩ := outcome_probe_of_started hstart limit schedule
      have hsupervise := keepsScene_supervise (hleaves ready (hsame.symm.trans hstart)) []
        (probeLimit limit) (probeSchedule schedule) w hscene
      simpa [hw] using hsupervise

theorem answers_report (q : Query) (resolved : Resolved) :
    (report q resolved >>= fun _ => pure resolved).Answers (.ok resolved) := by
  rw [report]
  split <;> exact (answers_say _ _).bind (answers_pure _)

/-- Locating fails when its inspection does. -/
theorem outcome_locate_of_error {w : World} {q : Query} {failure : Failure}
    (hinspect : ((inspect q).outcome w).1 = .error failure) (limit : Option Seconds)
    (schedule : Schedule) :
    ∃ records, (locate q limit schedule).outcome w = (.error failure, w.logging records) := by
  obtain ⟨records, hw⟩ := (reads_inspect q).outcome_eq w
  exact ⟨records, by rw [locate, outcome_bind, hw, hinspect]⟩

/-- A file that does not pass the checks is not available, and nothing is run. -/
theorem outcome_locate_of_failing {w : World} {q : Query} {path : String}
    (hinspect : ((inspect q).outcome w).1 = .ok (path, false)) (limit : Option Seconds)
    (schedule : Schedule) :
    ∃ records, (locate q limit schedule).outcome w = (.ok ⟨path, false⟩, w.logging records) := by
  obtain ⟨first, hw⟩ := (reads_inspect q).outcome_eq w
  obtain ⟨second, hreport⟩ := answers_report q ⟨path, false⟩ (w.logging first)
  refine ⟨first ++ second, ?_⟩
  rw [locate, outcome_bind, hw, hinspect, ← World.logging_logging]
  exact hreport

/-- A file that passes the checks is as available as its version query says. -/
theorem outcome_locate_of_passing {w : World} {q : Query} {path : String}
    (hinspect : ((inspect q).outcome w).1 = .ok (path, true)) (limit : Option Seconds)
    (schedule : Schedule) :
    ∃ first second, (locate q limit schedule).outcome w =
      let probed := (probe path q.toolOrUsual.versionArguments limit schedule).outcome
        (w.logging first)
      (probed.1.bind fun available => .ok ⟨path, available⟩, probed.2.logging second) := by
  obtain ⟨first, hw⟩ := (reads_inspect q).outcome_eq w
  refine ⟨first, ?_⟩
  rw [locate, outcome_bind, hw, hinspect]
  exact outcome_bind_of_answers (fun available => answers_report q ⟨path, available⟩) _ _

/-- What is available has passed the checks and was asked for its version. -/
theorem locate_eq_available {w later : World} {q : Query} {resolved : Resolved}
    {limit : Option Seconds} {schedule : Schedule}
    (h : (locate q limit schedule).outcome w = (.ok resolved, later))
    (havailable : resolved.isAvailable = true) :
    ((inspect q).outcome w).1 = .ok (resolved.path, true) ∧
      ∃ query, later.runs = w.runs ++ [query] := by
  cases hinspect : ((inspect q).outcome w).1 with
  | error failure =>
      obtain ⟨_, hw⟩ := outcome_locate_of_error hinspect limit schedule
      simp [hw] at h
  | ok inspected =>
      rcases inspected with ⟨path, passes⟩
      cases passes with
      | false =>
          obtain ⟨_, hw⟩ := outcome_locate_of_failing hinspect limit schedule
          obtain ⟨rfl, -⟩ : (⟨path, false⟩ : Resolved) = resolved ∧ _ := by simpa [hw] using h
          simp at havailable
      | true =>
          obtain ⟨first, second, hw⟩ := outcome_locate_of_passing hinspect limit schedule
          rw [hw] at h
          cases hprobe : ((probe path q.toolOrUsual.versionArguments limit schedule).outcome
              (w.logging first)).1 with
          | error failure => simp [hprobe, Except.bind] at h
          | ok available =>
              simp only [hprobe, Except.bind, Prod.mk.injEq, Except.ok.injEq] at h
              rcases h with ⟨rfl, rfl⟩
              obtain rfl : available = true := havailable
              exact ⟨rfl, by simpa using runs_of_probe_eq_true hprobe⟩

/-- What locating comes to: the answer of the inspection, and of the version query if there is
nothing to object. -/
theorem result_locate (q : Query) (limit : Option Seconds) (schedule : Schedule) (w : World) :
    ((locate q limit schedule).outcome w).1 =
      ((inspect q).outcome w).1.bind fun (path, passes) =>
        if passes then
          ((probe path q.toolOrUsual.versionArguments limit schedule).outcome w).1.map (⟨path, ·⟩)
        else .ok ⟨path, false⟩ := by
  cases hinspect : ((inspect q).outcome w).1 with
  | error failure =>
      obtain ⟨_, hw⟩ := outcome_locate_of_error hinspect limit schedule
      simp [hw, Except.bind]
  | ok inspected =>
      rcases inspected with ⟨path, passes⟩
      cases passes with
      | false =>
          obtain ⟨_, hw⟩ := outcome_locate_of_failing hinspect limit schedule
          simp [hw, Except.bind]
      | true =>
          obtain ⟨first, _, hw⟩ := outcome_locate_of_passing hinspect limit schedule
          have hprobe := (ignoresHistory_probe path q.toolOrUsual.versionArguments limit schedule
            (w.logging first) w (by simp)).1
          rw [hw]
          simp only [hprobe, Except.bind, if_true]
          cases ((probe path q.toolOrUsual.versionArguments limit schedule).outcome w).1 <;> rfl

/-- The formatter is found at a path exactly if the inspection arrives there with nothing to object
and the file answers the version query. -/
theorem locate_eq_available_iff {w : World} {q : Query} {limit : Option Seconds}
    {schedule : Schedule} {path : String} :
    ((locate q limit schedule).outcome w).1 = .ok ⟨path, true⟩ ↔
      ((inspect q).outcome w).1 = .ok (path, true) ∧
        ((probe path q.toolOrUsual.versionArguments limit schedule).outcome w).1 = .ok true := by
  rw [result_locate]
  cases hinspect : ((inspect q).outcome w).1 with
  | error failure => simp [Except.bind]
  | ok inspected =>
      rcases inspected with ⟨file, passes⟩
      cases passes with
      | false => simp [Except.bind]
      | true =>
          constructor
          · intro hlocated
            cases hanswer : ((probe file q.toolOrUsual.versionArguments limit
                schedule).outcome w).1 with
            | error failure => simp [hanswer, Except.bind, Except.map] at hlocated
            | ok available =>
                obtain ⟨rfl, rfl⟩ : file = path ∧ available = true := by
                  simpa [hanswer, Except.bind, Except.map] using hlocated
                exact ⟨rfl, hanswer⟩
          · rintro ⟨harrives, hanswer⟩
            obtain rfl : file = path := by simpa using harrives
            simp [hanswer, Except.bind, Except.map]

/-- Locating starts at most the version query. -/
theorem startsAtMost_locate (q : Query) (limit : Option Seconds) (schedule : Schedule) :
    (locate q limit schedule).StartsAtMost 1 := by
  refine ((reads_inspect q).startsAtMost 0).bind (m := 1) fun (path, passes) => ?_
  cases passes with
  | false => exact (answers_report q ⟨path, false⟩).reads.startsAtMost 1
  | true =>
      exact (startsAtMost_probe _ _ _ _).bind (m := 0) fun available =>
        (answers_report q ⟨path, available⟩).reads.startsAtMost 0

/-- Locating ignores the history. -/
theorem ignoresHistory_locate (q : Query) (limit : Option Seconds) (schedule : Schedule) :
    (locate q limit schedule).IgnoresHistory := by
  apply (reads_inspect q).ignoresHistory.bind
  rintro ⟨path, passes⟩
  cases passes with
  | false => exact (answers_report q ⟨path, false⟩).reads.ignoresHistory
  | true =>
      exact (ignoresHistory_probe _ _ _ _).bind fun available =>
        (answers_report q ⟨path, available⟩).reads.ignoresHistory

/-- Locating keeps a scene in which the version query leaves the files as they are. -/
theorem keepsScene_locate {s : World} {q : Query}
    (hleaves : ∀ path, ((inspect q).outcome s).1 = .ok (path, true) →
      ∀ ready, Launch.start s path q.toolOrUsual.versionArguments none = .ok ready →
        ready.LeavesFiles s.files) (limit : Option Seconds) (schedule : Schedule) :
    (locate q limit schedule).KeepsScene s := by
  intro w hscene
  have hsame := ((reads_inspect q).ignoresHistory w s hscene).1
  cases hinspect : ((inspect q).outcome w).1 with
  | error failure =>
      obtain ⟨_, hw⟩ := outcome_locate_of_error hinspect limit schedule
      simpa [hw] using hscene
  | ok inspected =>
      rcases inspected with ⟨path, passes⟩
      cases passes with
      | false =>
          obtain ⟨_, hw⟩ := outcome_locate_of_failing hinspect limit schedule
          simpa [hw] using hscene
      | true =>
          obtain ⟨first, _, hw⟩ := outcome_locate_of_passing hinspect limit schedule
          have hprobe := keepsScene_probe (hleaves path (hsame.symm.trans hinspect)) limit
            schedule (w.logging first) (by simpa using hscene)
          simpa [hw] using hprobe

end FormatLauncher.Locator
