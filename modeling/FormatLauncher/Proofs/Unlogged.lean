/-
# Actions that ignore the log

Nothing that a request does looks at the log.  So in worlds that differ in their logs only, a
request comes to the same, starts the same programs and leaves the same files.
-/

import FormatLauncher.Proofs.Turns

namespace FormatLauncher

open Action

namespace World

/-- The world without its log. -/
def unlogged (w : World) : World := { w with log := [] }

@[simp]
theorem unlogged_logging (w : World) (records : List LogRecord) :
    (w.logging records).unlogged = w.unlogged := rfl

/-- Worlds are the same up to their logs when they have one scene and the same runs. -/
theorem unlogged_eq_iff {w other : World} :
    w.unlogged = other.unlogged ↔ w.scene = other.scene ∧ w.runs = other.runs := by
  simp only [unlogged, scene, mk.injEq, true_and, and_assoc]
  exact and_congr_right fun _ => and_congr_right fun _ => and_congr_right fun _ =>
    and_congr_right fun _ => and_comm

theorem scene_eq_of_unlogged_eq {w other : World} (h : w.unlogged = other.unlogged) :
    w.scene = other.scene :=
  (unlogged_eq_iff.mp h).1

end World

namespace Action

variable {α β : Type}

/-- The result of the action, and the world that it leaves but for the log, do not depend on the
log. -/
def IgnoresLog (action : Action α) : Prop :=
  ∀ w other, w.unlogged = other.unlogged →
    (action.outcome w).1 = (action.outcome other).1 ∧
      (action.outcome w).2.unlogged = (action.outcome other).2.unlogged

/-- An action that only reads ignores the log. -/
theorem Reads.ignoresLog {action : Action α} (h : action.Reads) : action.IgnoresLog := by
  intro w other hsame
  obtain ⟨_, hw⟩ := h w
  obtain ⟨_, hother⟩ := h other
  simp [hw, hother, hsame, World.scene_eq_of_unlogged_eq hsame]

theorem IgnoresLog.attempt {action : Action α} (h : action.IgnoresLog) :
    (attempt action).IgnoresLog := by
  intro w other hsame
  obtain ⟨hresult, hlater⟩ := h w other hsame
  exact ⟨by simp [hresult], hlater⟩

/-- A sequence of actions that ignore the log ignores it. -/
theorem IgnoresLog.bind {action : Action α} {next : α → Action β} (haction : action.IgnoresLog)
    (hnext : ∀ x, (next x).IgnoresLog) : (action >>= next).IgnoresLog := by
  intro w other hsame
  obtain ⟨hresult, hlater⟩ := haction w other hsame
  rw [outcome_bind, outcome_bind]
  rcases hw : action.outcome w with ⟨failure | x, later⟩ <;>
    rcases hother : action.outcome other with ⟨failure' | x', later'⟩ <;>
    simp only [hw, hother, reduceCtorEq, Except.ok.injEq, Except.error.injEq] at hresult hlater
  · exact ⟨by rw [hresult], hlater⟩
  · subst hresult
    exact hnext x later later' hlater

end Action

namespace Locator

/-- Supervision ignores the log. -/
theorem ignoresLog_supervise (ready : Launch.Ready) (input : Text.Bytes) (limit : Option Seconds)
    (schedule : Schedule) : (supervise ready input limit schedule).IgnoresLog := by
  intro w other hsame
  have hfiles := World.files_eq_of_scene_eq (World.scene_eq_of_unlogged_eq hsame)
  have hafter (run : Run) (finished : Option Finish) :
      (w.afterRun run finished).unlogged = (other.afterRun run finished).unlogged := by
    obtain ⟨hscene, hruns⟩ := World.unlogged_eq_iff.mp hsame
    exact World.unlogged_eq_iff.mpr
      ⟨World.scene_afterRun_eq hscene run run finished, by simp [World.afterRun, hruns]⟩
  rw [outcome_supervise, outcome_supervise, hfiles]
  split
  · exact ⟨rfl, hafter _ _⟩
  · split
    · exact ⟨rfl, hafter _ _⟩
    · exact ⟨rfl, hafter _ _⟩

/-- The version query ignores the log. -/
theorem ignoresLog_probe (path : String) (arguments : List String) (limit : Option Seconds)
    (schedule : Schedule) : (probe path arguments limit schedule).IgnoresLog := by
  intro w other hsame
  have hstarts := Launch.start_eq_of_scene_eq (World.scene_eq_of_unlogged_eq hsame) path arguments
    none
  cases hstart : Launch.start w path arguments none with
  | error refusal =>
      obtain ⟨_, hw⟩ := outcome_probe_of_refused hstart limit schedule
      obtain ⟨_, hother⟩ := outcome_probe_of_refused (hstarts.symm.trans hstart) limit schedule
      simp [hw, hother, hsame]
  | ok ready =>
      obtain ⟨_, hw⟩ := outcome_probe_of_started hstart limit schedule
      obtain ⟨_, hother⟩ := outcome_probe_of_started (hstarts.symm.trans hstart) limit schedule
      have hsupervise := ignoresLog_supervise ready [] (probeLimit limit) (probeSchedule schedule)
        w other hsame
      simp [hw, hother, hsupervise]

/-- Locating ignores the log. -/
theorem ignoresLog_locate (q : Query) (limit : Option Seconds) (schedule : Schedule) :
    (locate q limit schedule).IgnoresLog := by
  apply (reads_inspect q).ignoresLog.bind
  rintro ⟨path, passes⟩
  cases passes with
  | false => exact (answers_report q ⟨path, false⟩).reads.ignoresLog
  | true =>
      exact (ignoresLog_probe _ _ _ _).bind fun available =>
        (answers_report q ⟨path, available⟩).reads.ignoresLog

end Locator

/-- A filter ignores the log. -/
theorem Execution.ignoresLog_asFilter (command : String) (arguments : List String) (text : String)
    (terms : Terms) : (asFilter command arguments text terms).IgnoresLog := by
  intro w other hsame
  have hstarts := Launch.start_eq_of_scene_eq (World.scene_eq_of_unlogged_eq hsame) command
    (arguments ++ [inputMark]) terms.directory
  cases hstart : Launch.start w command (arguments ++ [inputMark]) terms.directory with
  | error refusal =>
      obtain ⟨_, hw⟩ := outcome_asFilter_of_refused hstart text
      obtain ⟨_, hother⟩ := outcome_asFilter_of_refused (hstarts.symm.trans hstart) text
      simp [hw, hother, hsame]
  | ok ready =>
      obtain ⟨first, _, hw⟩ := outcome_asFilter_of_started hstart text
      obtain ⟨first', _, hother⟩ := outcome_asFilter_of_started (hstarts.symm.trans hstart) text
      have hsupervise := Locator.ignoresLog_supervise ready (Text.Utf8.encode text) terms.limit
        terms.schedule (w.logging first) (other.logging first') (by simpa using hsame)
      simp [hw, hother, hsupervise]

namespace Formatter

/-- Running the formatter for a planned file ignores the log. -/
theorem ignoresLog_print (f : Formatter) (draft : Draft) (located : Locator.Outcome)
    (schedule : Schedule) : (f.print draft located schedule).IgnoresLog :=
  (reads_ofExcept located).ignoresLog.bind fun resolved =>
    (f.reads_invocation draft.plan resolved).ignoresLog.bind fun _ =>
      Execution.ignoresLog_asFilter _ _ _ _

/-- Writing back ignores the log. -/
theorem ignoresLog_writeBack (file : Path) (before after : String) (write : Bool) :
    (writeBack file before after write).IgnoresLog := by
  intro w other hsame
  have hscene := World.scene_eq_of_unlogged_eq hsame
  rw [writeBack]
  split
  · exact ⟨rfl, hsame⟩
  · cases write with
    | false => exact ⟨rfl, hsame⟩
    | true =>
        have hwrite : Contents.write w file (Text.Utf8.encode after) =
            Contents.write other file (Text.Utf8.encode after) := by
          show Contents.write w.scene file _ = Contents.write other.scene file _
          rw [hscene]
        simp only [if_true, outcome_get_bind, hwrite]
        rcases Contents.write other file (Text.Utf8.encode after) with ⟨failure | _, tree⟩ <;>
          exact ⟨rfl, congrArg (World.withFiles · tree) hsame⟩

end Formatter

/-! ## Batches -/

/-- Locating through a cache ignores the log. -/
theorem Locator.Cache.ignoresLog_locateAll (cache : Cache) (limit : Option Seconds)
    (schedule : Schedule) (queries : List Query) :
    (cache.locateAll limit schedule queries).IgnoresLog := by
  induction queries generalizing cache with
  | nil => exact (reads_pure _).ignoresLog
  | cons q rest ih =>
      have hone : (cache.locate q limit schedule).IgnoresLog := by
        rw [Cache.locate]
        split
        · exact (reads_pure _).ignoresLog
        · exact (ignoresLog_locate q limit schedule).attempt.bind fun _ =>
            (reads_pure _).ignoresLog
      exact hone.bind fun _ => (ih _).bind fun _ => (reads_pure _).ignoresLog

namespace Formatter

theorem ignoresLog_collecting {α : Type} (file : Path) {action : Action α}
    (h : action.IgnoresLog) : (collecting file action).IgnoresLog := by
  intro w other hsame
  obtain ⟨_, hw⟩ := outcome_collecting file action w
  obtain ⟨_, hother⟩ := outcome_collecting file action other
  simp [hw, hother, h w other hsame]

/-- Abandoning a query ignores the log. -/
theorem ignoresLog_abandon (q : Locator.Query) : (abandon q).IgnoresLog := by
  have hreport (resolved : Locator.Resolved) :
      (Locator.report q resolved >>= fun _ => pure resolved).IgnoresLog :=
    (Locator.answers_report q resolved).reads.ignoresLog
  refine IgnoresLog.attempt ((Locator.reads_inspect q).ignoresLog.bind ?_)
  rintro ⟨path, passes⟩
  cases passes with
  | false => exact hreport _
  | true =>
      refine (Locator.reads_startProbe _ _).ignoresLog.bind fun started => ?_
      cases started with
      | none => exact hreport _
      | some ready =>
          refine IgnoresLog.bind (fun w other hsame => ⟨rfl, ?_⟩) fun _ =>
            (reads_throw _).ignoresLog
          obtain ⟨hscene, hruns⟩ := World.unlogged_eq_iff.mp hsame
          exact World.unlogged_eq_iff.mpr ⟨hscene, congrArg (· ++ [_]) hruns⟩

theorem ignoresLog_abandonAll (f : Formatter) (seen : List (Locator.Key × Locator.Outcome))
    (planned : List (Path × Draft)) : (f.abandonAll seen planned).IgnoresLog := by
  induction planned generalizing seen with
  | nil => exact (reads_pure _).ignoresLog
  | cons first rest ih =>
      have hgo (outcome : Locator.Outcome) := (reads_collecting first.1
        ((reads_ofExcept outcome).bind fun resolved =>
          f.reads_invocation first.2.plan resolved)).ignoresLog.bind fun _ =>
            ih ((first.2.plan.query.key, outcome) :: seen)
      rw [abandonAll]
      dsimp only
      split
      · exact hgo _
      · exact (ignoresLog_abandon _).bind hgo

/-- Finishing the files of a batch ignores the log. -/
theorem ignoresLog_finishAll (f : Formatter) (write : Bool) (schedule : Schedule)
    (drafts : List (Path × Except Failure Draft)) (located : List Locator.Outcome) :
    (f.finishAll write schedule drafts located).IgnoresLog := by
  have hfinish (file : Path) (draft : Draft) (outcome : Locator.Outcome) :
      (f.finish file draft outcome write schedule).IgnoresLog := by
    rw [finish_eq]
    exact (f.ignoresLog_print draft outcome schedule).bind fun _ => ignoresLog_writeBack _ _ _ _
  induction drafts generalizing located with
  | nil => exact (reads_pure _).ignoresLog
  | cons first rest ih =>
      rcases first with ⟨file, failure | draft⟩
      · exact (ih located).bind fun _ => (reads_pure _).ignoresLog
      · cases located with
        | nil => exact (reads_pure _).ignoresLog
        | cons outcome more =>
            exact (ignoresLog_collecting file (hfinish file draft outcome)).bind fun _ =>
              (ih more).bind fun _ => (reads_pure _).ignoresLog

/-- A batch ignores the log. -/
theorem ignoresLog_formatFiles (f : Formatter) (files : List Path) (write : Bool)
    (schedule : Schedule) : (f.formatFiles files write schedule).IgnoresLog := by
  refine (f.reads_drafting files).ignoresLog.bind fun drafts => ?_
  dsimp only
  split
  · exact (f.ignoresLog_abandonAll _ _).bind fun _ => (reads_throw _).ignoresLog
  · refine (Locator.Cache.ignoresLog_locateAll _ _ _ _).bind fun located =>
      (f.ignoresLog_finishAll _ _ _ _).bind fun results => ?_
    split
    · exact (reads_throw _).ignoresLog
    · exact (reads_pure _).ignoresLog

end Formatter

end FormatLauncher
