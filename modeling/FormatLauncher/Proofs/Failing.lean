/-
# How a request can fail

Every part of a request fails in known ways.  Planning it, inspecting a command and judging a run
fail only in ways that a batch collects.  What it does not collect comes from a few places: a NUL
that is handed to the system, the home and the links of a document's path, a run that nothing ends,
and the cancellation of whoever waits.  Of the configuration only strict requests complain, and a
formatter that is missing always comes with the hint of its tool.  A file is formatted forever only
if neither a limit nor a cancellation ends the wait for a program that does not end.
-/

import FormatLauncher.Formatter.Turns
import FormatLauncher.Proofs.Contents
import FormatLauncher.Proofs.Path
import FormatLauncher.Proofs.Preparing

namespace FormatLauncher

open Action

/-- The failure is one that no batch collects and that a request can meet on this schedule. -/
def Failure.IsStray (schedule : Schedule) : Failure → Prop
  | .embeddedNul | .homeUnknown | .linkLoop _ | .unending => True
  | .waiterCancelled => schedule.abandonAt ≠ none
  | _ => False

/-- The failure is one that a request can meet on this schedule. -/
def Failure.IsForeseen (schedule : Schedule) (failure : Failure) : Prop :=
  failure.isCollected = true ∨ failure.IsStray schedule

/-- The failure is about a path: the system refuses it, or it cannot be handed to the system, or
nobody can tell where it leads. -/
def Failure.IsOfPath : Failure → Prop
  | .embeddedNul | .homeUnknown | .linkLoop _ | .system _ => True
  | _ => False

/-- The failure comes from the system, from what a file holds or, when tokens must not be left over,
from the configuration. -/
def Failure.IsIncidental (strict : Bool) : Failure → Prop
  | .system _ | .undecodable _ => True
  | .configuration _ => strict = true
  | _ => False

/-- The failure is one that a part of a request can meet on this schedule, if it is as strict as
this and its tool has this hint. -/
def Failure.IsOfRequest (hint : String) (strict : Bool) (schedule : Schedule) : Failure → Prop
  | .notInstalled _ given => given = hint
  | .executionFailed _ _ _ | .notStarted _ _ | .cancelled _ | .timedOut _ _
  | .invalidOutput _ _ => True
  | failure => failure.IsIncidental strict ∨ failure.IsStray schedule

section Kinds

variable {hint : String} {strict : Bool} {schedule : Schedule} {failure : Failure}

theorem Failure.IsIncidental.isCollected (h : failure.IsIncidental strict) :
    failure.isCollected = true := by
  cases failure <;> simp_all [IsIncidental, Failure.isCollected, isFormatting]

theorem Failure.IsIncidental.mono (h : failure.IsIncidental strict) {strict' : Bool}
    (hmore : strict = true → strict' = true) : failure.IsIncidental strict' := by
  cases failure <;> simp_all [IsIncidental]

theorem Failure.IsIncidental.isOfRequest (h : failure.IsIncidental strict) :
    failure.IsOfRequest hint strict schedule := by
  cases failure <;> simp_all [IsIncidental, IsOfRequest]

theorem Failure.IsStray.isOfRequest (h : failure.IsStray schedule) :
    failure.IsOfRequest hint strict schedule := by
  cases failure <;> simp_all [IsStray, IsOfRequest]

theorem Failure.IsOfPath.isOfRequest (h : failure.IsOfPath) :
    failure.IsOfRequest hint strict schedule := by
  cases failure <;> simp_all [IsOfPath, IsOfRequest, IsIncidental, IsStray]

theorem Failure.IsOfRequest.isForeseen (h : failure.IsOfRequest hint strict schedule) :
    failure.IsForeseen schedule := by
  cases failure <;>
    simp_all [IsOfRequest, IsIncidental, IsForeseen, Failure.isCollected, isFormatting]

end Kinds

theorem Location.isIncidental_of_named {current : Location} {failure : Failure}
    (h : current.named = .error failure) (strict : Bool) : failure.IsIncidental strict := by
  obtain ⟨rfl, -⟩ := named_eq_error_iff.mp h
  trivial

theorem Contents.isIncidental_of_firstPresent {w : World} {paths : List Path} {failure : Failure}
    (h : firstPresent w paths = .error failure) (strict : Bool) : failure.IsIncidental strict := by
  obtain ⟨p, -, rfl⟩ := firstPresent_eq_error h
  trivial

theorem Contents.isOfPath_of_find {w : World} {p : Path} {failure : Failure}
    (h : find w p = .error failure) : failure.IsOfPath := by
  rw [find_eq_error_iff] at h
  split at h
  · subst h
    trivial
  · obtain ⟨fault, -, rfl⟩ | ⟨place, -, rfl⟩ := h <;> trivial

theorem Contents.isOfPath_of_writing {w : World} {p : Path} {contents : Text.Bytes}
    {failure : Failure} (h : writing w p contents = .error failure) : failure.IsOfPath := by
  obtain hplace | ⟨cause, rfl⟩ := writing_eq_error h
  · exact isOfPath_of_find (except_map_eq_error.mp hplace)
  · trivial

/-- Reading fails in a way that is not collected exactly for a path with a NUL. -/
theorem Formatter.readText_eq_error {w : World} {file : Path} {failure : Failure}
    (h : readText w file = .error failure) :
    failure.IsIncidental false ∧ Spelling.hasNul file.text = false ∨
      failure = .embeddedNul ∧ Spelling.hasNul file.text = true := by
  unfold readText at h
  split at h
  · next cause hread =>
      obtain rfl : cause = failure := Except.error.inj h
      rw [Contents.read_eq_error_iff, Contents.openFor_eq_error_iff,
        Contents.find_eq_error_iff] at hread
      obtain hfind | ⟨found, e, hfind, -, -, rfl⟩ := hread
      · split at hfind
        · next hnul => exact .inr ⟨hfind, hnul⟩
        · next hnul =>
            refine .inl ⟨?_, by simpa using hnul⟩
            obtain ⟨fault, -, rfl⟩ | ⟨place, -, rfl⟩ := hfind <;> trivial
      · exact .inl ⟨trivial, Contents.hasNul_of_place (by rw [Contents.place, hfind]; rfl)⟩
  · next bytes hread =>
      obtain ⟨found, hplace, -⟩ := Contents.exists_place_of_read hread
      split at h
      · simp at h
      · obtain rfl : _ = failure := Except.error.inj h
        exact .inl ⟨trivial, Contents.hasNul_of_place hplace⟩

/-- Expanding a path fails for what is wrong with its home, its names, its links or the current
directory. -/
theorem FileTree.isOfPath_of_expand {tree : FileTree} {environment : Bindings}
    {current : Location} {p : Path} {failure : Failure}
    (h : tree.expand environment current p = .error failure) : failure.IsOfPath := by
  rw [expand] at h
  split at h
  · next cause hhome =>
      obtain rfl : cause = failure := Except.error.inj h
      rw [(Path.expandHome_eq_error_iff.mp hhome).1]
      trivial
  · split at h
    · obtain rfl : _ = failure := Except.error.inj h
      trivial
    · split at h
      · obtain rfl : _ = failure := Except.error.inj h
        trivial
      · dsimp only at h
        split at h
        · obtain rfl : _ = failure := Except.error.inj h
          trivial
        · simp at h

theorem Interpreter.Source.failsOnly_find (source : Source) (folder : Option Path)
    (environment : Bindings) (strict : Bool) :
    (source.find folder environment).FailsOnly (·.IsIncidental strict) := by
  have hfirst (w : World) (paths : List Path) : (Action.ofExcept
      (Contents.firstPresent w paths)).FailsOnly (·.IsIncidental strict) :=
    failsOnly_ofExcept fun _ h => Contents.isIncidental_of_firstPresent h strict
  cases source with
  | given paths => exact failsOnly_pure _
  | discovered =>
      apply failsOnly_get_bind
      intro w
      apply (hfirst _ _).bind
      intro active
      split
      · exact (failsOnly_say _ _).bind fun _ => failsOnly_pure _
      · apply (hfirst _ _).bind
        intro inside
        split
        · exact (failsOnly_say _ _).bind fun _ => failsOnly_pure _
        · exact failsOnly_pure _

/-- Values are only refused for a token that is left over, and only by a strict request. -/
theorem Placeholder.failsOnly_resolve (values : List String) (context : Context)
    (interpreter : Option (List String)) (strict : Bool) :
    (resolve values context interpreter strict).FailsOnly (·.IsIncidental strict) := by
  unfold resolve Expansion.settle
  split
  · exact failsOnly_pure _
  · split
    · next hstrict =>
        exact (failsOnly_throw hstrict).bind fun _ =>
          (failsOnly_say _ _).bind fun _ => failsOnly_pure _
    · exact (failsOnly_say _ _).bind fun _ => failsOnly_pure _

namespace Formatter

/-- Planning fails only in ways that are collected. -/
theorem failsOnly_plan (f : Formatter) (folder : Option Folder) :
    (f.plan folder).FailsOnly (·.IsIncidental f.settings.strict) := by
  have hsurroundings : (f.surroundings folder).FailsOnly (·.IsIncidental f.settings.strict) :=
    failsOnly_get_bind fun w => (Interpreter.Source.failsOnly_find _ _ _ _).bind fun _ =>
      (failsOnly_ofExcept fun _ h => Location.isIncidental_of_named h _).bind fun _ =>
        failsOnly_pure _
  exact hsurroundings.bind fun _ => (Placeholder.failsOnly_resolve _ _ _ _).bind fun _ =>
    failsOnly_pure _

theorem failsOnly_invocation (f : Formatter) (plan : Plan) (resolved : Locator.Resolved) :
    (f.invocation plan resolved).FailsOnly
      (· = .notInstalled resolved.path f.tool.installHint) := by
  rw [invocation]
  split
  · exact failsOnly_pure _
  · exact (failsOnly_say _ _).bind fun _ => failsOnly_throw rfl

/-- A document has no folder only if nobody can tell where its path leads. -/
theorem failsOnly_folderFor (f : Formatter) (document : Option Path) :
    (f.folderFor document).FailsOnly Failure.IsOfPath := by
  intro w failure h
  rw [outcome_folderFor] at h
  cases document with
  | none => simp [Workspace.folderFor] at h
  | some file =>
      rw [Workspace.folderFor] at h
      cases hexpand : w.files.expand w.environment w.directory file with
      | ok place => simp [hexpand] at h
      | error cause =>
          obtain rfl : cause = failure := by simpa [hexpand] using h
          exact FileTree.isOfPath_of_expand hexpand

theorem failsOnly_draft (f : Formatter) (file : Path) {hint : String} {schedule : Schedule} :
    (f.draft file).FailsOnly (·.IsOfRequest hint f.settings.strict schedule) := by
  refine failsOnly_get_bind fun w => (failsOnly_ofExcept fun failure hread => ?_).bind fun _ =>
    (failsOnly_say _ _).bind fun _ =>
      ((f.failsOnly_folderFor file).mono fun _ h => h.isOfRequest).bind fun folder =>
        ((f.failsOnly_plan folder).mono fun _ h => h.isOfRequest).bind fun _ => failsOnly_pure _
  obtain ⟨hincidental, -⟩ | ⟨rfl, -⟩ := readText_eq_error hread
  · exact (hincidental.mono (by simp)).isOfRequest
  · exact .inr trivial

/-- Writing back fails as writing does. -/
theorem failsOnly_writeBack (file : Path) (before after : String) (write : Bool) :
    (writeBack file before after write).FailsOnly Failure.IsOfPath := by
  rw [writeBack]
  split
  · exact failsOnly_pure _
  · cases write with
    | false => exact (failsOnly_say _ _).bind fun _ => failsOnly_pure _
    | true =>
        refine failsOnly_get_bind fun w => FailsOnly.bind (fun _ _ h => by cases h) fun _ =>
          (failsOnly_ofExcept fun failure h => ?_).bind fun _ =>
            (failsOnly_say _ _).bind fun _ => failsOnly_pure _
        have hwrite := congrArg Prod.fst (Contents.write_eq w file (Text.Utf8.encode after))
        exact Contents.isOfPath_of_writing (hwrite.symm.trans h)

/-- No batch can plan the file: its path holds a NUL, or it is read but nobody can tell where its
path leads. -/
def Unplannable (w : World) (file : Path) : Prop :=
  Spelling.hasNul file.text = true ∨
    ∃ text failure, readText w file = .ok text ∧
      w.files.expand w.environment w.directory file = .error failure ∧
      failure.isCollected = false

/-- A file is not planned, for a reason that is not collected, exactly if its path is to blame. -/
theorem unplannable_iff (f : Formatter) (w : World) (file : Path) :
    Unplannable w file ↔ ∃ failure, ((f.draft file).outcome w).1 = .error failure ∧
      failure.isCollected = false := by
  rw [result_draft]
  cases hread : readText w file with
  | error failure =>
      dsimp only [Except.bind]
      rcases readText_eq_error hread with ⟨hcollected, hnul⟩ | ⟨rfl, hnul⟩
      · simp [Unplannable, hnul, hread, hcollected.isCollected]
      · simp [Unplannable, hnul, Failure.isCollected, Failure.isFormatting]
  | ok text =>
      have hnul : Spelling.hasNul file.text = false := by
        obtain ⟨bytes, hbytes, -⟩ := readText_eq_ok hread
        obtain ⟨found, hplace, -⟩ := Contents.exists_place_of_read hbytes
        exact Contents.hasNul_of_place hplace
      rw [Workspace.folderFor]
      cases hplace : w.files.expand w.environment w.directory file with
      | error failure => simp [Unplannable, hnul, hread, hplace, Except.bind]
      | ok place =>
          have hplan := f.failsOnly_plan (f.workspace.folderAt place)
          refine iff_of_false (by simp [Unplannable, hnul, hplace]) ?_
          rintro ⟨failure, hfailure, hstray⟩
          cases hplanned : ((f.plan (f.workspace.folderAt place)).outcome w).1 with
          | ok plan => simp [hplanned, Except.bind, Except.map] at hfailure
          | error cause =>
              obtain rfl : cause = failure := by
                simpa [hplanned, Except.bind, Except.map] using hfailure
              simp [(hplan _ _ hplanned).isCollected] at hstray

end Formatter

namespace Locator

/-- Looking for the formatter next to an interpreter never fails. -/
theorem failsOnly_sibling {kind : Failure → Prop} (interpreter : Option (List String))
    (tool : Tool) : (do
    if let some sibling := findSibling .slash (← get) (interpreter.getD []) tool.binary then
      Action.say .debug ("Found " ++ tool.binary ++ " next to interpreter: " ++ sibling)
      return sibling
    return tool.binary : Action String).FailsOnly kind := by
  apply failsOnly_get_bind
  intro w
  split
  · exact (failsOnly_say _ _).bind fun _ => failsOnly_pure _
  · exact failsOnly_pure _

theorem failsOnly_candidate (configured : Option String) (context : Placeholder.Context)
    (interpreter : Option (List String)) (tool : Tool) (strict : Bool) :
    (candidate configured context interpreter tool strict).FailsOnly (·.IsIncidental strict) := by
  rw [candidate]
  split
  · apply (Placeholder.failsOnly_resolve _ _ _ _).bind
    intro texts
    split
    · exact failsOnly_pure _
    · exact failsOnly_sibling _ _
  · exact failsOnly_sibling _ _

theorem failsOnly_inspect (q : Query) : (inspect q).FailsOnly (·.IsIncidental q.strict) := by
  apply (failsOnly_candidate _ _ _ _ _).bind
  intro command
  apply failsOnly_get_bind
  intro w
  dsimp only
  split
  · exact (failsOnly_say _ _).bind fun _ => failsOnly_pure _
  · refine (failsOnly_ofExcept fun failure h => ?_).bind fun _ =>
      (failsOnly_sayAll _).bind fun _ => failsOnly_pure _
    rw [absolute] at h
    split at h
    · simp at h
    · cases hnamed : w.directory.named with
      | error cause =>
          obtain rfl : cause = failure := by simpa [hnamed, Except.map] using h
          exact Location.isIncidental_of_named hnamed _
      | ok current => simp [hnamed, Except.map] at h

/-- Waiting is cancelled only if the schedule says so. -/
theorem abandonAt_of_ending {schedule : Schedule} {limit : Option Seconds} {completes : Bool}
    {watch : Watch} (hwatch : schedule.watch? limit completes = some watch)
    (hending : watch.ending = .waiterCancelled) : schedule.abandonAt ≠ none := by
  intro hnever
  unfold Schedule.watch? at hwatch
  rw [hnever] at hwatch
  dsimp only at hwatch
  split at hwatch
  · cases completes with
    | false => simp at hwatch
    | true =>
        obtain rfl : _ = watch := by simpa using hwatch
        simp [Watch.ending] at hending
  · next now hnow =>
      split at hwatch
      · obtain rfl : _ = watch := by simpa using hwatch
        simp [Watch.ending] at hending
      · -- The earlier of the limit and the request to cancel has come when it comes.
        have hreached : (reached (limit.bind Seconds.instant?) now ||
            reached schedule.cancelAt now) = true := by
          revert hnow
          cases limit.bind Seconds.instant? <;> cases schedule.cancelAt <;>
            simp only [earlier, reached, Option.some.injEq, reduceCtorEq, false_implies]
          · rintro rfl; simp
          · rintro rfl; simp
          · rintro rfl; grind
        rw [hreached] at hwatch
        obtain rfl : _ = watch := Option.some.inj hwatch
        cases hcancel : reached schedule.cancelAt now <;> simp [Watch.ending, hcancel] at hending

/-- Supervision with a limit that is a floating point number fails only if nothing ends the run, and
what it sees is foreseen. -/
theorem outcome_supervise_cases (ready : Launch.Ready) (input : Text.Bytes)
    {limit : Option Seconds} (hlimit : ∀ s ∈ limit, s.toBinary?.isSome = true)
    (schedule : Schedule) (w : World) :
    ((supervise ready input limit schedule).outcome w).1 = .error .unending ∨
      ∃ ending finished, ((supervise ready input limit schedule).outcome w).1 =
          .ok (ending, finished) ∧
        (ending = .waiterCancelled → schedule.abandonAt ≠ none) := by
  rw [outcome_supervise, fits_limit hlimit, if_neg (by simp)]
  cases hwatch : schedule.watch? limit (ready.finish? input w.files).isSome with
  | none => exact .inl rfl
  | some watch => exact .inr ⟨_, _, rfl, abandonAt_of_ending hwatch⟩

section Locate

variable {limit : Option Seconds} (hlimit : ∀ s ∈ limit, s.toBinary?.isSome = true)

include hlimit in
theorem failsOnly_probe (path : String) (arguments : List String) (schedule : Schedule) :
    (probe path arguments limit schedule).FailsOnly (·.IsStray schedule) := by
  intro w failure h
  cases hstart : Launch.start w path arguments none with
  | error refusal =>
      obtain ⟨_, hw⟩ := outcome_probe_of_refused hstart limit schedule
      cases refusal with
      | embeddedNul =>
          obtain rfl : Failure.embeddedNul = failure := by simpa [hw, refusedProbe] using h
          trivial
      | system cause => simp [hw, refusedProbe] at h
  | ok ready =>
      obtain ⟨_, hw⟩ := outcome_probe_of_started hstart limit schedule
      obtain hunending | ⟨ending, finished, hseen, hcancelled⟩ :=
        outcome_supervise_cases ready [] (fits_probeLimit hlimit) (probeSchedule schedule) w
      · obtain rfl : Failure.unending = failure := by simpa [hw, hunending, Except.bind] using h
        trivial
      · obtain ⟨shown, hshown⟩ := limitText_eq_ok hlimit
        rw [hw] at h
        simp only [hseen, Except.bind] at h
        cases ending with
        | waiterCancelled =>
            obtain rfl : Failure.waiterCancelled = failure := by simpa [probeVerdict] using h
            exact hcancelled rfl
        | cancelled => simp [probeVerdict, hshown, Except.map] at h
        | timedOut => simp [probeVerdict, hshown, Except.map] at h
        | output => cases finished <;> simp [probeVerdict, hshown, Except.map] at h

include hlimit in
theorem failsOnly_locate (q : Query) {hint : String} (schedule : Schedule) :
    (locate q limit schedule).FailsOnly (·.IsOfRequest hint q.strict schedule) := by
  refine ((failsOnly_inspect q).mono fun _ h => h.isOfRequest).bind ?_
  rintro ⟨path, passes⟩
  cases passes with
  | false =>
      exact (failsOnly_pure false).bind fun available =>
        (answers_report q ⟨path, available⟩).failsOnly
  | true =>
      exact ((failsOnly_probe hlimit _ _ _).mono fun _ h => h.isOfRequest).bind fun available =>
        (answers_report q ⟨path, available⟩).failsOnly

end Locate

end Locator

namespace Execution

variable {hint : String} {lenient : Bool}

/-- The verdict on a run says how the run ended or that its output cannot be read. -/
theorem isOfRequest_of_verdict {command : String} {limit : Option Seconds} {strict : Bool}
    {ending : Ending} {finished : Option Finish} {schedule : Schedule} {failure : Failure}
    (hcancelled : ending = .waiterCancelled → schedule.abandonAt ≠ none)
    (h : verdict command limit strict (ending, finished) = .error failure) :
    failure.IsOfRequest hint lenient schedule := by
  unfold verdict at h
  split at h
  · next hsame =>
      obtain rfl : Failure.waiterCancelled = failure := Except.error.inj h
      exact .inr (hcancelled (congrArg Prod.fst hsame))
  · obtain rfl : _ = failure := Except.error.inj h
    trivial
  · dsimp only at h
    split at h
    · split at h
      · simp at h
      · obtain rfl : _ = failure := Except.error.inj h
        trivial
    · simp at h
  · obtain rfl : _ = failure := Except.error.inj h
    trivial

theorem isOfRequest_of_filterVerdict {command : String} {limit : Option Seconds} {ending : Ending}
    {finished : Option Finish} {schedule : Schedule} {failure : Failure}
    (hcancelled : ending = .waiterCancelled → schedule.abandonAt ≠ none)
    (h : filterVerdict command limit (ending, finished) = .error failure) :
    failure.IsOfRequest hint lenient schedule := by
  rw [filterVerdict] at h
  cases hverdict : verdict command limit true (ending, finished) with
  | error cause =>
      obtain rfl : cause = failure := by simpa [hverdict, Except.bind] using h
      exact isOfRequest_of_verdict hcancelled hverdict
  | ok result =>
      by_cases hcode : result.code = 0
      · simp [hverdict, accept, Except.bind, Except.map, hcode] at h
      · obtain rfl : _ = failure := by
          simpa [hverdict, accept, Except.bind, Except.map, hcode] using h
        trivial

theorem failsOnly_asFilter (command : String) (arguments : List String) (text : String)
    (terms : Terms) (hlimit : ∀ s ∈ terms.limit, s.toBinary?.isSome = true) :
    (asFilter command arguments text terms).FailsOnly
      (·.IsOfRequest hint lenient terms.schedule) := by
  intro w failure h
  cases hstart : Launch.start w command (arguments ++ [inputMark]) terms.directory with
  | error refusal =>
      obtain ⟨_, hw⟩ := outcome_asFilter_of_refused hstart text
      cases refusal with
      | embeddedNul =>
          obtain rfl : Failure.embeddedNul = failure := by simpa [hw, refusalFailure] using h
          exact .inr trivial
      | system cause =>
          obtain rfl : _ = failure := by simpa [hw, refusalFailure] using h
          trivial
  | ok ready =>
      obtain ⟨first, _, hw⟩ := outcome_asFilter_of_started hstart text
      obtain hunending | ⟨ending, finished, hseen, hcancelled⟩ :=
        Locator.outcome_supervise_cases ready (Text.Utf8.encode text) hlimit terms.schedule
          (w.logging first)
      · obtain rfl : Failure.unending = failure := by simpa [hw, hunending, Except.bind] using h
        exact .inr trivial
      · rw [hw] at h
        simp only [hseen, Except.bind] at h
        exact isOfRequest_of_filterVerdict hcancelled h

end Execution

/-- Running the formatter for a file fails as locating it did, because it is missing, or as its run
does. -/
theorem Formatter.failsOnly_print (f : Formatter) (draft : Draft) {located : Locator.Outcome}
    {strict : Bool} {schedule : Schedule} {kind : Failure → Prop}
    (hkind : ∀ failure, failure.IsOfRequest f.tool.installHint strict schedule → kind failure)
    (hlocated : ∀ failure, located = .error failure → kind failure) :
    (f.print draft located schedule).FailsOnly kind :=
  (failsOnly_ofExcept hlocated).bind fun resolved =>
    ((f.failsOnly_invocation draft.plan resolved).mono fun failure h =>
      hkind failure (h ▸ rfl)).bind fun _ =>
        (Execution.failsOnly_asFilter _ _ _ _ Seconds.isSome_toBinary?_of_mem_map_real).mono hkind

/-! ## Requests that nothing ends -/

namespace Locator

end Locator

namespace Execution

end Execution

namespace Formatter

end Formatter

end FormatLauncher
