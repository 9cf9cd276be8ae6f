/-
# What comes of one file by itself

Every file of a batch is read, planned and located before anything is written.  If the formatter is
a filter for the batch, then what it prints for a file does not depend on what was written back for
the others, so the outcome for a file can be told from the world in which the batch starts.
-/

import FormatLauncher.Proofs.FormatFile
import FormatLauncher.Proofs.Trail

namespace FormatLauncher.Formatter

open Action

/-- The places of some files. -/
def places (w : World) (files : List Path) (found : Location) : Prop :=
  ∃ file ∈ files, Contents.place w file = .ok found

/-- The formatter is a filter for a batch of files: its version query writes nothing, no file of the
batch is opened to start it, and what it prints, and that it writes nothing, does not depend on what
the files of the batch hold. -/
structure FiltersFor (f : Formatter) (w : World) (files : List Path) : Prop where
  leaves : f.LeavesFiles w
  apart : ∀ {folder plan command}, f.Commands w folder plan command →
    ∀ place ∈ Launch.trail w command (plan.invocationOf command).directory, ¬places w files place
  steady : ∀ {folder plan command ready}, f.Commands w folder plan command →
    Launch.start w command (plan.arguments ++ [Execution.inputMark])
      (plan.invocationOf command).directory = .ok ready →
    ∀ tree, w.files.AgreesOff (places w files) tree → ∀ input,
      ready.finish? input tree =
        (ready.finish? input w.files).map fun finish => { finish with files := tree }

/-- Where programs print what they print whatever the files hold, and write none, every formatter is
a filter for files that cannot be run. -/
theorem filtersFor_of_programs {w : World}
    (hprograms : ∀ id call tree other, w.programs id call other =
      (w.programs id call tree).map fun finish => { finish with files := other })
    {files : List Path}
    (hfiles : ∀ place, places w files place → ∀ e, w.files.entryAt? place = some e →
      e.isRunnable = false) (f : Formatter) : f.FiltersFor w files where
  leaves := by
    apply leavesFiles_of_programs
    intro id call tree finish hfinish
    rw [hprograms id call tree tree] at hfinish
    obtain ⟨_, -, rfl⟩ := Option.map_eq_some_iff.mp hfinish
    rfl
  apart _ place hplace hin := by
    obtain ⟨e, hentry, hrunnable⟩ := Launch.isRunnable_of_mem_trail hplace
    simp [hfiles place hin e hentry] at hrunnable
  steady _ hstart tree _ input := by
    obtain ⟨⟨id, hprogram⟩, -, -⟩ := Launch.start_eq_ok hstart
    rw [Launch.Ready.finish?, Launch.Ready.finish?, hprogram]
    exact hprograms id _ _ tree

/-- What the formatter prints for a planned file. -/
def printed (f : Formatter) (w : World) (schedule : Schedule) (draft : Draft) :
    Except Failure String := do
  let resolved ← ((Locator.locate draft.plan.query f.probeLimit schedule).outcome w).1
  let invocation ← ((f.invocation draft.plan resolved).outcome w).1
  ((Execution.asFilter invocation.command invocation.arguments draft.text
    (f.terms invocation schedule)).outcome w).1

/-- The text of a file and what the formatter prints for it. -/
def alone (f : Formatter) (w : World) (schedule : Schedule) (file : Path) :
    Except Failure (String × String) := do
  let draft ← ((f.draft file).outcome w).1
  let after ← f.printed w schedule draft
  return (draft.text, after)

/-- Whether formatting changes a file, or why it was not formatted or not written back. -/
def resultAlone (f : Formatter) (w : World) (write : Bool) (schedule : Schedule) (file : Path) :
    Except Failure Bool :=
  (f.alone w schedule file).bind fun (before, after) => resultBack w file before after write

/-- A tree after a file was formatted and written back to it. -/
def settled (f : Formatter) (w : World) (write : Bool) (schedule : Schedule) (tree : FileTree)
    (file : Path) : FileTree :=
  match f.alone w schedule file with
  | .ok (before, after) => writtenBack w file before after write tree
  | .error _ => tree

/-- A draft is made from the text of the file and the plan of its folder. -/
theorem draft_eq_ok {f : Formatter} {w : World} {file : Path} {draft : Draft}
    (h : ((f.draft file).outcome w).1 = .ok draft) :
    readText w file = .ok draft.text ∧
      ∃ folder, ((f.plan folder).outcome w).1 = .ok draft.plan := by
  rw [result_draft] at h
  obtain ⟨text, hread, h⟩ := except_bind_eq_ok.mp h
  obtain ⟨folder, -, h⟩ := except_bind_eq_ok.mp h
  obtain ⟨plan, hplan, rfl⟩ := except_map_eq_ok.mp h
  exact ⟨hread, folder, hplan⟩

/-- A file that was planned comes to its text and to what is printed for it. -/
theorem alone_of_draft {f : Formatter} {w : World} {file : Path} {draft : Draft}
    (hdraft : ((f.draft file).outcome w).1 = .ok draft) (schedule : Schedule) :
    f.alone w schedule file =
      (f.printed w schedule draft).map fun after => (draft.text, after) := by
  rw [alone, hdraft]
  cases hprinted : f.printed w schedule draft <;>
    simp [bind, Except.bind, hprinted, Except.map, pure, Except.pure]

/-- A file that cannot be planned comes to nothing. -/
theorem alone_of_draft_eq_error {f : Formatter} {w : World} {file : Path} {failure : Failure}
    (hdraft : ((f.draft file).outcome w).1 = .error failure) (schedule : Schedule) :
    f.alone w schedule file = .error failure := by
  simp [alone, hdraft, bind, Except.bind]

/-- A file that comes to nothing by itself fails so, and is not written back. -/
theorem resultAlone_of_error {f : Formatter} {w : World} {schedule : Schedule} {file : Path}
    {failure : Failure} (halone : f.alone w schedule file = .error failure) (write : Bool) :
    f.resultAlone w write schedule file = .error failure := by
  rw [resultAlone, halone]
  rfl

theorem settled_of_error {f : Formatter} {w : World} {schedule : Schedule} {file : Path}
    {failure : Failure} (halone : f.alone w schedule file = .error failure) (write : Bool)
    (tree : FileTree) : f.settled w write schedule tree file = tree := by
  rw [settled, halone]

/-- A path has the place it has in the world wherever the tree has the same shape. -/
theorem place_eq_of_scene_eq {w v : World} {tree : FileTree} (hshape : w.files.SameShape tree)
    (hscene : v.scene = (w.withFiles tree).scene) (p : Path) :
    Contents.place v p = Contents.place w p := by
  have hfiles : v.files = tree := by
    simpa using World.files_eq_of_scene_eq hscene
  exact Contents.place_of_sameShape (hfiles ▸ hshape)
    (by simpa using World.directory_eq_of_scene_eq hscene) p

/-- In a tree of the same shape the formatter prints, for every request that was planned in the
world, what it prints there, and it leaves the tree as it is. -/
structure PrintsAlike (f : Formatter) (w : World) (tree : FileTree) : Prop where
  shape : w.files.SameShape tree
  prints : ∀ {folder plan command}, f.Commands w folder plan command →
    ∀ {v : World}, v.scene = (w.withFiles tree).scene → ∀ (text : String) (schedule : Schedule),
      let action := Execution.asFilter command plan.arguments text
        (f.terms (plan.invocationOf command) schedule)
      (action.outcome v).1 = (action.outcome w).1 ∧
        (action.outcome v).2.scene = (w.withFiles tree).scene

section Batch

variable {f : Formatter} {w : World} {files : List Path} (hfilter : f.FiltersFor w files)
  {tree : FileTree} (hagrees : w.files.AgreesOff (places w files) tree)

include hfilter hagrees in
/-- The formatter starts for a file whatever was written back for the others. -/
theorem start_eq_of_agreesOff {folder : Option Folder} {plan : Plan} {command : String}
    (hcommands : f.Commands w folder plan command) {v : World}
    (hscene : v.scene = (w.withFiles tree).scene) (arguments : List String) :
    Launch.start v command arguments (plan.invocationOf command).directory =
      Launch.start w command arguments (plan.invocationOf command).directory := by
  have hfiles : v.files = tree := by
    simpa using World.files_eq_of_scene_eq hscene
  refine Launch.start_eq_of_trail (hfiles ▸ hagrees.1) (hfiles ▸ hscene) (fun place hplace => ?_)
    arguments
  rw [hfiles]
  exact hagrees.2 place (hfilter.apart hcommands place hplace)

include hfilter hagrees in
/-- What the formatter prints does not depend on what was written back for others, and it writes
nothing. -/
theorem printsAlike_of_agreesOff : f.PrintsAlike w tree where
  shape := hagrees.1
  prints {folder plan command} hcommands {v} hscene text schedule := by
    have hfiles : v.files = tree := by
      simpa using World.files_eq_of_scene_eq hscene
    -- Both starts are spelled with the directory of the terms, for the lemmas about filters.
    have hstart : Launch.start v command (plan.arguments ++ [Execution.inputMark])
        (f.terms (plan.invocationOf command) schedule).directory =
          Launch.start w command (plan.arguments ++ [Execution.inputMark])
            (f.terms (plan.invocationOf command) schedule).directory :=
      start_eq_of_agreesOff hfilter hagrees hcommands hscene _
    intro action
    cases hready : Launch.start w command (plan.arguments ++ [Execution.inputMark])
        (f.terms (plan.invocationOf command) schedule).directory with
    | error refusal =>
        obtain ⟨_, hv⟩ := Execution.outcome_asFilter_of_refused (hstart.trans hready) text
        obtain ⟨_, hw⟩ := Execution.outcome_asFilter_of_refused hready text
        exact ⟨by simp [action, hv, hw], by simp [action, hv, hscene]⟩
    | ok ready =>
        have hsteady := hfilter.steady hcommands hready tree hagrees
        obtain ⟨first, _, hv⟩ := Execution.outcome_asFilter_of_started (hstart.trans hready) text
        obtain ⟨first', _, hw⟩ := Execution.outcome_asFilter_of_started hready text
        constructor
        · rw [show action.outcome v = _ from hv, show action.outcome w = _ from hw]
          exact Execution.supervise_filter_eq (by simpa [hfiles] using hsteady _) command _ _
        · have hleaves : ready.LeavesFiles tree := by
            intro input finish hfinish
            rw [hsteady input] at hfinish
            obtain ⟨_, -, rfl⟩ := Option.map_eq_some_iff.mp hfinish
            rfl
          have hkeeps := Locator.keepsScene_supervise (s := w.withFiles tree) hleaves
            (Text.Utf8.encode text) f.limit schedule (v.logging first) (by simpa using hscene)
          rw [show action.outcome v = _ from hv]
          exact hkeeps

end Batch

/-- A formatter that writes nothing prints alike in the files of the world themselves. -/
theorem printsAlike_of_leavesFiles {f : Formatter} {w : World} (hleaves : f.LeavesFiles w) :
    f.PrintsAlike w w.files where
  shape := .refl w.files
  prints {folder plan command} hcommands {v} hscene text _ :=
    ⟨(Execution.ignoresHistory_asFilter _ _ _ _ v w hscene).1,
      Execution.keepsScene_asFilter (hleaves folder plan command hcommands).2 text v hscene⟩

section Finish

variable {f : Formatter} {w : World} {tree : FileTree} (halike : f.PrintsAlike w tree)

include halike in
/-- For a planned file the formatter prints what it prints in the world of the start. -/
theorem outcome_printing {folder : Option Folder} {draft : Draft} {schedule : Schedule}
    (hplan : ((f.plan folder).outcome w).1 = .ok draft.plan) {v : World}
    (hscene : v.scene = (w.withFiles tree).scene) :
    ∃ later,
      (do
        let resolved ← Action.ofExcept
          ((Locator.locate draft.plan.query f.probeLimit schedule).outcome w).1
        let invocation ← f.invocation draft.plan resolved
        Execution.asFilter invocation.command invocation.arguments draft.text
          (f.terms invocation schedule) : Action String).outcome v =
        (f.printed w schedule draft, later) ∧
      later.scene = (w.withFiles tree).scene := by
  rw [printed]
  rw [outcome_ofExcept_bind]
  cases hlocated : ((Locator.locate draft.plan.query f.probeLimit schedule).outcome w).1 with
  | error failure => exact ⟨v, rfl, hscene⟩
  | ok resolved =>
      obtain ⟨first, hv⟩ := f.answers_invocation draft.plan resolved v
      obtain ⟨_, hw⟩ := f.answers_invocation draft.plan resolved w
      dsimp only
      rw [outcome_bind, hv]
      cases havailable : resolved.isAvailable with
      | false =>
          refine ⟨v.logging first, ?_, by simpa using hscene⟩
          simp [bind, Except.bind, hw, havailable]
      | true =>
          have hcommands : f.Commands w folder draft.plan resolved.path :=
            ⟨hplan, (Locator.locate_eq_available (Prod.ext hlocated rfl) havailable).1⟩
          obtain ⟨hprints, hkeeps⟩ := halike.prints hcommands
            (show (v.logging first).scene = (w.withFiles tree).scene by simpa using hscene)
            draft.text schedule
          refine ⟨_, Prod.ext ?_ rfl, hkeeps⟩
          simp only [if_true, bind, Except.bind, hw, havailable]
          exact hprints

include halike in
/-- Finishing a file of a batch gives what it gives alone, whatever was written back for others. -/
theorem outcome_finish {file : Path} {draft : Draft} {schedule : Schedule}
    (hdraft : ((f.draft file).outcome w).1 = .ok draft) {v : World}
    (hscene : v.scene = (w.withFiles tree).scene) (write : Bool) :
    ∃ later,
      (f.finish file draft
        ((Locator.locate draft.plan.query f.probeLimit schedule).outcome w).1 write
        schedule).outcome v = (f.resultAlone w write schedule file, later) ∧
      later.scene = (w.withFiles (f.settled w write schedule tree file)).scene := by
  obtain ⟨-, folder, hplan⟩ := draft_eq_ok hdraft
  obtain ⟨printed, hprinting, hprinted⟩ := outcome_printing halike hplan hscene
  have hfinish : f.finish file draft
      ((Locator.locate draft.plan.query f.probeLimit schedule).outcome w).1 write schedule =
      (do
        let resolved ← Action.ofExcept
          ((Locator.locate draft.plan.query f.probeLimit schedule).outcome w).1
        let invocation ← f.invocation draft.plan resolved
        Execution.asFilter invocation.command invocation.arguments draft.text
          (f.terms invocation schedule)) >>= fun after =>
        writeBack file draft.text after write := by
    simp only [Formatter.finish, bind_assoc]
  rw [hfinish, outcome_bind, hprinting]
  unfold resultAlone settled
  rw [alone_of_draft hdraft]
  cases f.printed w schedule draft with
  | error failure => exact ⟨printed, rfl, hprinted⟩
  | ok after => exact outcome_writeBack halike.shape hprinted file draft.text after write

end Finish

end FormatLauncher.Formatter
