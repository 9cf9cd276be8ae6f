/-
# A batch is its files, one by one

A batch returns exactly when each of its files does by itself, and then what comes of a file, and
what the file holds afterwards, does not depend on the others.  What ends a batch is a failure that
is not collected, whichever file it comes of; a file whose path is to blame ends it before anything
is written.
-/

import FormatLauncher.Proofs.Batch
import FormatLauncher.Proofs.Failing

namespace FormatLauncher.Formatter

open Action

/-- A failure that ends a batch while a file is planned ends the file by itself. -/
theorem escaping?_resultAlone_of_draft {f : Formatter} {w : World} {file : Path}
    {failure : Failure} (hdraft : escaping? ((f.draft file).outcome w).1 = some failure)
    (write : Bool) (schedule : Schedule) :
    escaping? (f.resultAlone w write schedule file) = some failure := by
  cases hresult : ((f.draft file).outcome w).1 with
  | ok draft => simp [hresult, escaping?] at hdraft
  | error failure' =>
      rw [resultAlone_of_error (alone_of_draft_eq_error hresult schedule)]
      simpa [hresult, escaping?] using hdraft

/-- A batch with a file that cannot be planned, for a reason that is not collected, fails for such a
file, and the scene stays as it is. -/
theorem outcome_formatFiles_of_unplanned (f : Formatter) {w : World} {files : List Path}
    {file : Path} (hfile : file ∈ files) {failure : Failure}
    (hdraft : escaping? ((f.draft file).outcome w).1 = some failure) (write : Bool)
    (schedule : Schedule) :
    ∃ first ∈ files, ∃ cause later, escaping? ((f.draft first).outcome w).1 = some cause ∧
      (f.formatFiles files write schedule).outcome w = (.error cause, later) ∧
      later.scene = w.scene := by
  obtain ⟨drafted, hdrafting, hscene⟩ := outcome_drafting f files (w := w) rfl
  rw [formatFiles, outcome_bind, hdrafting]
  dsimp only
  split
  · next cause hfirst =>
      obtain ⟨⟨first, result⟩, hmem, hcause⟩ := List.exists_of_findSome?_eq_some hfirst
      obtain ⟨first', hfirst', hsame⟩ := List.mem_map.mp hmem
      obtain ⟨rfl, rfl⟩ := Prod.mk.inj hsame
      obtain ⟨later, habandon, hlater⟩ :=
        f.outcome_abandonAll [] (planned (f.drafts w files)) drafted
      refine ⟨first', hfirst', cause, later, hcause, ?_, hlater.trans hscene⟩
      rw [outcome_bind, habandon]
      rfl
  · next hnone =>
      have hfirst := List.findSome?_eq_none_iff.mp
        (Option.eq_none_iff_forall_ne_some.mpr hnone) _ (List.mem_map_of_mem hfile)
      simp [hdraft] at hfirst

/-- A batch of files that are all planned, or are not for a reason that is collected, goes on to
finish them in the scene of the start, and fails for the first file whose failure is not
collected. -/
theorem outcome_formatFiles_of_finished {f : Formatter} {w after : World} {files : List Path}
    (hleaves : f.LeavesFiles w) {write : Bool} {schedule : Schedule}
    (hplanned : ∀ file ∈ files, escaping? ((f.draft file).outcome w).1 = none)
    (hfinish : ∀ v : World, v.scene = w.scene → ∃ later,
      (f.finishAll write schedule (f.drafts w files) (f.located w schedule files)).outcome v =
          (.ok (files.map fun file => ⟨file, f.resultAlone w write schedule file⟩), later) ∧
        later.scene = after.scene) :
    ∃ later, later.scene = after.scene ∧
      (f.formatFiles files write schedule).outcome w =
        match files.findSome? fun file => escaping? (f.resultAlone w write schedule file) with
        | some failure => (.error failure, later)
        | none =>
          (.ok (files.map fun file => ⟨file, f.resultAlone w write schedule file⟩), later) := by
  obtain ⟨drafted, hdrafting, hscene⟩ := outcome_drafting f files (w := w) rfl
  obtain ⟨cache, prepared, hlocating, hscene'⟩ := outcome_locating hleaves schedule files hscene
  obtain ⟨later, hfinishing, hlater⟩ := hfinish prepared hscene'
  refine ⟨later, hlater, ?_⟩
  rw [formatFiles, outcome_bind, hdrafting]
  dsimp only
  split
  · next cause hfirst =>
      obtain ⟨⟨first, result⟩, hmem, hcause⟩ := List.exists_of_findSome?_eq_some hfirst
      obtain ⟨first', hfirst', hsame⟩ := List.mem_map.mp hmem
      obtain ⟨rfl, rfl⟩ := Prod.mk.inj hsame
      simp [hplanned first' hfirst'] at hcause
  rw [outcome_bind, hlocating]
  dsimp only
  rw [outcome_bind, hfinishing]
  dsimp only
  rw [List.findSome?_map]
  cases hfirst : files.findSome? fun file => escaping? (f.resultAlone w write schedule file) with
  | none =>
      simp only [Function.comp_def, hfirst]
      rfl
  | some failure =>
      simp only [Function.comp_def, hfirst]
      rfl

/-- In the end every file of such a batch was settled, one after the other. -/
theorem outcome_formatFiles_of_planned {f : Formatter} {w : World} {files : List Path}
    (hfilter : f.FiltersFor w files) (write : Bool) (schedule : Schedule)
    (hplanned : ∀ file ∈ files, escaping? ((f.draft file).outcome w).1 = none) :
    ∃ later, later.scene = (w.withFiles (files.foldl (f.settled w write schedule) w.files)).scene ∧
      (f.formatFiles files write schedule).outcome w =
        match files.findSome? fun file => escaping? (f.resultAlone w write schedule file) with
        | some failure => (.error failure, later)
        | none =>
          (.ok (files.map fun file => ⟨file, f.resultAlone w write schedule file⟩), later) := by
  apply outcome_formatFiles_of_finished hfilter.leaves hplanned
  intro v hscene
  exact outcome_finishAll hfilter write schedule (fun file hfile => hfile) (.refl w.files _)
    (by simpa using hscene)

/-- A batch of one file that comes to something by itself settles this file.  Nothing is written
before the formatter is run, so it may look at the file. -/
theorem outcome_formatFiles_one {f : Formatter} {w : World} (hleaves : f.LeavesFiles w)
    {file : Path} {write : Bool} {schedule : Schedule} {changed : Bool}
    (hresult : f.resultAlone w write schedule file = .ok changed) :
    ∃ later, (f.formatFiles [file] write schedule).outcome w =
        (.ok [⟨file, .ok changed⟩], later) ∧
      later.scene = (w.withFiles (f.settled w write schedule w.files file)).scene := by
  obtain ⟨draft, hdraft⟩ : ∃ draft, ((f.draft file).outcome w).1 = .ok draft := by
    cases hdraft : ((f.draft file).outcome w).1 with
    | ok draft => exact ⟨draft, rfl⟩
    | error failure =>
        simp [resultAlone_of_error (alone_of_draft_eq_error hdraft schedule)] at hresult
  have hfinish : ∀ v : World, v.scene = w.scene → ∃ later,
      (f.finishAll write schedule (f.drafts w [file]) (f.located w schedule [file])).outcome v =
          (.ok ([file].map fun file => ⟨file, f.resultAlone w write schedule file⟩), later) ∧
        later.scene = (w.withFiles (f.settled w write schedule w.files file)).scene := by
    intro v hscene
    obtain ⟨finished, hfinished, hsettled⟩ : ∃ later, (f.finish file draft
          ((Locator.locate draft.plan.query f.probeLimit schedule).outcome w).1 write
          schedule).outcome v = (f.resultAlone w write schedule file, later) ∧ _ :=
      outcome_finish (printsAlike_of_leavesFiles hleaves) hdraft hscene write
    obtain ⟨records, hcollecting⟩ := outcome_collecting file (f.finish file draft
      (Locator.Cache.alone w f.probeLimit schedule draft.plan.query) write schedule) v
    rw [Locator.Cache.alone, hfinished] at hcollecting
    refine ⟨finished.logging records, ?_, hsettled⟩
    rw [drafts, List.map_cons, hdraft, located_cons_of_ok hdraft, finishAll, outcome_bind,
      Locator.Cache.alone, hcollecting]
    rfl
  obtain ⟨later, hlater, houtcome⟩ := outcome_formatFiles_of_finished hleaves
    (by simp [hdraft, escaping?]) hfinish
  refine ⟨later, ?_, hlater⟩
  simpa [hresult, escaping?] using houtcome

theorem isForeseen_of_printed {f : Formatter} {w : World} {schedule : Schedule} {draft : Draft}
    {failure : Failure} (h : f.printed w schedule draft = .error failure) :
    failure.IsForeseen schedule := by
  rw [printed] at h
  cases hlocated : ((Locator.locate draft.plan.query f.probeLimit schedule).outcome w).1 with
  | error cause =>
      obtain rfl : cause = failure := by simpa [hlocated, bind, Except.bind] using h
      exact (Locator.failsOnly_locate Seconds.isSome_toBinary?_of_mem_map_real draft.plan.query
        schedule w cause hlocated : cause.IsOfRequest f.tool.installHint _ _).isForeseen
  | ok resolved =>
      cases hinvocation : ((f.invocation draft.plan resolved).outcome w).1 with
      | error cause =>
          obtain rfl : cause = failure := by
            simpa [hlocated, hinvocation, bind, Except.bind] using h
          rw [f.failsOnly_invocation draft.plan resolved w cause hinvocation]
          exact .inl rfl
      | ok invocation =>
          refine (Execution.failsOnly_asFilter invocation.command invocation.arguments draft.text
            (f.terms invocation schedule) Seconds.isSome_toBinary?_of_mem_map_real w failure
              ?_ : failure.IsOfRequest f.tool.installHint f.settings.strict _).isForeseen
          simpa [hlocated, hinvocation, bind, Except.bind] using h

/-- A failure that is not collected, of a file by itself, is a stray one. -/
theorem isStray_of_escaping? {f : Formatter} {w : World} {write : Bool} {schedule : Schedule}
    {file : Path} {failure : Failure}
    (h : escaping? (f.resultAlone w write schedule file) = some failure) :
    failure.IsStray schedule := by
  have hforeseen : ∀ cause, f.resultAlone w write schedule file = .error cause →
      cause.IsForeseen schedule := by
    intro cause hcause
    obtain halone | ⟨⟨before, after⟩, -, hback⟩ := except_bind_eq_error.mp hcause
    · obtain hdraft | ⟨draft, -, hprinted⟩ := except_bind_eq_error.mp halone
      · exact (f.failsOnly_draft file w cause hdraft :
          cause.IsOfRequest f.tool.installHint _ _).isForeseen
      · exact isForeseen_of_printed (except_map_eq_error.mp hprinted)
    · exact ((Contents.isOfPath_of_writing (resultBack_eq_error hback).2.2).isOfRequest :
        cause.IsOfRequest f.tool.installHint f.settings.strict _).isForeseen
  cases hresult : f.resultAlone w write schedule file with
  | ok changed => simp [hresult, escaping?] at h
  | error cause =>
      cases hcollected : cause.isCollected with
      | true => simp [hresult, escaping?, hcollected] at h
      | false =>
          obtain rfl : cause = failure := by simpa [hresult, escaping?, hcollected] using h
          exact (hforeseen cause hresult).resolve_left (by simp [hcollected])

theorem FiltersFor.mono {f : Formatter} {w : World} {files fewer : List Path}
    (h : f.FiltersFor w files) (hfewer : ∀ file ∈ fewer, file ∈ files) :
    f.FiltersFor w fewer where
  leaves := h.leaves
  apart hcommands place hplace := fun ⟨file, hfile, hfound⟩ =>
    h.apart hcommands place hplace ⟨file, hfewer file hfile, hfound⟩
  steady hcommands hstart tree hagrees :=
    h.steady hcommands hstart tree (hagrees.mono fun _ ⟨file, hfile, hfound⟩ =>
      ⟨file, hfewer file hfile, hfound⟩)

/-- A batch fails with a failure that escapes it, of one of its files by itself, or there is none
and it gives every file what comes of the file by itself. -/
theorem outcome_formatFiles {f : Formatter} {w : World} {files : List Path}
    (hfilter : f.FiltersFor w files) (write : Bool) (schedule : Schedule) :
    (∃ file ∈ files, ∃ failure, escaping? (f.resultAlone w write schedule file) = some failure ∧
        ((f.formatFiles files write schedule).outcome w).1 = .error failure) ∨
      (∀ file ∈ files, escaping? (f.resultAlone w write schedule file) = none) ∧
        ∃ later, (f.formatFiles files write schedule).outcome w =
            (.ok (files.map fun file => ⟨file, f.resultAlone w write schedule file⟩), later) ∧
          later.scene =
            (w.withFiles (files.foldl (f.settled w write schedule) w.files)).scene := by
  by_cases hplanned : ∀ file ∈ files, escaping? ((f.draft file).outcome w).1 = none
  · obtain ⟨later, hscene, houtcome⟩ :=
      outcome_formatFiles_of_planned hfilter write schedule hplanned
    cases hfirst : files.findSome? fun file => escaping? (f.resultAlone w write schedule file) with
    | none =>
        refine .inr ⟨List.findSome?_eq_none_iff.mp hfirst, later, ?_, hscene⟩
        rw [houtcome, hfirst]
    | some failure =>
        obtain ⟨file, hfile, hfailure⟩ := List.exists_of_findSome?_eq_some hfirst
        refine .inl ⟨file, hfile, failure, hfailure, ?_⟩
        rw [houtcome, hfirst]
  · simp only [not_forall] at hplanned
    rcases hplanned with ⟨file, hfile, hdraft⟩
    obtain ⟨failure, hfailure⟩ := Option.ne_none_iff_exists'.mp hdraft
    obtain ⟨first, hfirst, cause, later, hcause, houtcome, -⟩ :=
      f.outcome_formatFiles_of_unplanned hfile hfailure write schedule
    refine .inl ⟨first, hfirst, cause, escaping?_resultAlone_of_draft hcause write schedule, ?_⟩
    rw [houtcome]

/-- A file by itself is a batch of one. -/
theorem formatFiles_singleton {f : Formatter} {w : World} {file : Path}
    (hfilter : f.FiltersFor w [file]) (write : Bool) (schedule : Schedule) :
    ((f.formatFiles [file] write schedule).outcome w).1 =
      match escaping? (f.resultAlone w write schedule file) with
      | some failure => .error failure
      | none => .ok [⟨file, f.resultAlone w write schedule file⟩] := by
  obtain ⟨other, hother, failure, hfailure, houtcome⟩ | ⟨hnone, later, houtcome, -⟩ :=
    outcome_formatFiles hfilter write schedule
  · obtain rfl : other = file := by simpa using hother
    rw [houtcome, hfailure]
  · rw [houtcome, hnone file (by simp)]
    rfl

/-- After a batch a path reads as it does after fewer files, if those left out are elsewhere. -/
theorem read_of_fewer {f : Formatter} {w : World} {files : List Path} {keep : Path → Bool}
    {write : Bool} {schedule : Schedule} {later after : World}
    (hlater : later.scene =
      (w.withFiles (files.foldl (f.settled w write schedule) w.files)).scene)
    (hafter : after.scene =
      (w.withFiles ((files.filter keep).foldl (f.settled w write schedule) w.files)).scene)
    {file : Path} (helsewhere : ∀ other ∈ files, keep other = false →
      ∀ found, Contents.place w file = .ok found → Contents.place w other ≠ .ok found) :
    Contents.read after file = Contents.read later file := by
  have hshape {rest : List Path} (hrest : ∀ file ∈ rest, file ∈ files) :
      w.files.SameShape (rest.foldl (f.settled w write schedule) w.files) :=
    (agreesOff_foldl_settled (f := f) (.refl w.files (places w files)) hrest write schedule).1
  have hwhole := hshape fun file hfile => hfile
  have hfewer := hshape fun file hfile => List.mem_of_mem_filter (p := keep) hfile
  have hfiles := World.files_eq_of_scene_eq hlater
  have hfiles' := World.files_eq_of_scene_eq hafter
  have hplace := place_eq_of_scene_eq hwhole hlater file
  refine Contents.read_eq_of_entryAt?_eq (by rw [hfiles, hfiles']; exact hwhole.symm.trans hfewer)
    ((World.directory_eq_of_scene_eq hafter).trans (World.directory_eq_of_scene_eq hlater).symm)
    ((World.storage_eq_of_scene_eq hafter).trans (World.storage_eq_of_scene_eq hlater).symm)
    file fun found hfound => ?_
  rw [hfiles, hfiles']
  exact entryAt?_foldl_settled_filter (f := f) keep (fun other hother hdropped =>
    helsewhere other hother hdropped found (hplace.symm.trans hfound)) rfl write schedule

/-- A batch is its files, one by one.  It returns exactly when each of its files does by itself.  If
it fails, then as one of its files does by itself, with a stray failure; so it does for every file
that cannot be planned, and then nothing is written.  If it returns, there is one result for each
file, in order, and leaving out some files changes neither the results of the others nor, at any
path that names none of those left out, the contents afterwards. -/
theorem formatFiles_each_alone {f : Formatter} {w : World} {files : List Path}
    (hfilter : f.FiltersFor w files) (write : Bool) (schedule : Schedule) :
    ((∃ results, ((f.formatFiles files write schedule).outcome w).1 = .ok results) ↔
      ∀ file ∈ files, ∃ result,
        ((f.formatFiles [file] write schedule).outcome w).1 = .ok [result]) ∧
    (∀ failure, ((f.formatFiles files write schedule).outcome w).1 = .error failure →
      failure.IsStray schedule ∧ ∃ file ∈ files,
        ((f.formatFiles [file] write schedule).outcome w).1 = .error failure) ∧
    (∀ file ∈ files, Unplannable w file →
      (∃ failure, ((f.formatFiles files write schedule).outcome w).1 = .error failure) ∧
        ((f.formatFiles files write schedule).outcome w).2.files = w.files) ∧
    ∀ results later, (f.formatFiles files write schedule).outcome w = (.ok results, later) →
      results.map FileResult.file = files ∧
      ∀ keep : Path → Bool, ∃ after,
        (f.formatFiles (files.filter keep) write schedule).outcome w =
          (.ok (results.filter fun result => keep result.file), after) ∧
        ∀ path, (∀ other ∈ files, keep other = false → ∀ found,
            Contents.place w path = .ok found → Contents.place w other ≠ .ok found) →
          Contents.read after path = Contents.read later path := by
  have hsingle (file : Path) (hfile : file ∈ files) :=
    formatFiles_singleton (hfilter.mono (by simpa using hfile) : f.FiltersFor w [file]) write
      schedule
  refine ⟨?_, ?_, ?_, ?_⟩
  · obtain ⟨file, hfile, failure, hfailure, hfails⟩ | ⟨hnone, later, hreturns, -⟩ :=
      outcome_formatFiles hfilter write schedule
    · apply iff_of_false (by simp [hfails])
      intro hall
      obtain ⟨result, hresult⟩ := hall file hfile
      simp [hsingle file hfile, hfailure] at hresult
    · apply iff_of_true (by simp [hreturns])
      intro file hfile
      exact ⟨_, by rw [hsingle file hfile, hnone file hfile]⟩
  · intro failure hfails
    obtain ⟨file, hfile, cause, hcause, houtcome⟩ | ⟨-, later, hreturns, -⟩ :=
      outcome_formatFiles hfilter write schedule
    · obtain rfl : cause = failure := by simpa [houtcome] using hfails
      exact ⟨isStray_of_escaping? hcause, file, hfile, by rw [hsingle file hfile, hcause]⟩
    · simp [hreturns] at hfails
  · intro file hfile hunplannable
    obtain ⟨failure, hdraft, hstray⟩ := (unplannable_iff f w file).mp hunplannable
    have hescapes : escaping? ((f.draft file).outcome w).1 = some failure := by
      simp [hdraft, escaping?, hstray]
    obtain ⟨-, -, cause, later, -, hfails, hscene⟩ :=
      f.outcome_formatFiles_of_unplanned hfile hescapes write schedule
    rw [hfails]
    exact ⟨⟨cause, rfl⟩, World.files_eq_of_scene_eq hscene⟩
  · intro results later hreturns
    obtain ⟨file, hfile, failure, -, hfails⟩ | ⟨hnone, last, houtcome, hlater⟩ :=
      outcome_formatFiles hfilter write schedule
    · simp [hreturns] at hfails
    obtain ⟨rfl, rfl⟩ :
        files.map (fun file => ⟨file, f.resultAlone w write schedule file⟩) = results ∧
          last = later := by
      simpa [houtcome] using hreturns
    refine ⟨by simp [Function.comp_def], ?_⟩
    intro keep
    have hfewer : ∀ file ∈ files.filter keep, file ∈ files :=
      fun file hfile => List.mem_of_mem_filter hfile
    obtain ⟨file, hfile, failure, hfailure, -⟩ | ⟨-, after, hafter, hscene⟩ :=
      outcome_formatFiles (hfilter.mono hfewer) write schedule
    · simp [hnone file (hfewer file hfile)] at hfailure
    refine ⟨after, ?_, fun path helsewhere => read_of_fewer hlater hscene helsewhere⟩
    rw [hafter, List.filter_map]
    rfl

/-- A path that holds a NUL ends a batch before anything is written, although the other file of the
batch can be formatted by itself. -/
theorem formatFiles_each_alone_nul :
    let files : List Path := [⟨.slash, ["a\x00b.sql"]⟩, ⟨.slash, ["a.sql"]⟩]
    (∃ failure, ((unlimited.formatFiles files true .quiet).outcome backwardsWorld).1 =
      .error failure) ∧
    ((unlimited.formatFiles files true .quiet).outcome backwardsWorld).2.files =
      backwardsWorld.files ∧
    ((unlimited.formatFiles [⟨.slash, ["a.sql"]⟩] true .quiet).outcome
      backwardsWorld).1.toOption.isSome = true := by
  intro files
  have hfilter : unlimited.FiltersFor backwardsWorld files := by
    apply filtersFor_of_programs (fun _ _ _ _ => rfl)
    intro place hin e hentry
    rcases hin with ⟨file, hfile, hplace⟩
    obtain rfl | rfl : file = ⟨.slash, ["a\x00b.sql"]⟩ ∨ file = ⟨.slash, ["a.sql"]⟩ := by
      simpa [files] using hfile
    · rw [Contents.place_eq, if_pos (by decide +kernel)] at hplace
      simp at hplace
    · have hfound : (Contents.place backwardsWorld ⟨.slash, ["a.sql"]⟩).toOption =
          some ["a.sql"] := by decide +kernel
      obtain rfl : ["a.sql"] = place := by simpa [hplace, Except.toOption] using hfound.symm
      obtain rfl : Entry.file [0x61, 0x62] 0o644 = e := Option.some.inj hentry
      rfl
  obtain ⟨hfails, hfiles⟩ := (formatFiles_each_alone hfilter true .quiet).2.2.1
    ⟨.slash, ["a\x00b.sql"]⟩ (by simp [files]) (.inl (by decide +kernel))
  exact ⟨hfails, hfiles, by decide +kernel⟩

end FormatLauncher.Formatter
