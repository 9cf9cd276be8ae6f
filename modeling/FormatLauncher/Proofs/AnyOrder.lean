/-
# A batch in any order

Whatever turns a batch takes, a file goes from stage to stage with what comes of it by itself.  At
every moment the scene is the one in which some of the files were written back, each one settled as
from the start; a query comes to what it comes to at the start, and so does what is printed for a
file.  One turn keeps this, hence any number of turns does.
-/

import FormatLauncher.Proofs.FormatInput
import FormatLauncher.Proofs.Path
import FormatLauncher.Proofs.Turns

namespace FormatLauncher.Formatter

open Action

/-! ## A file by itself -/

/-- A file that comes to something by itself was read. -/
theorem readText_of_alone {f : Formatter} {w : World} {schedule : Schedule} {file : Path}
    {before after : String} (h : f.alone w schedule file = .ok (before, after)) :
    readText w file = .ok before := by
  cases hdraft : ((f.draft file).outcome w).1 with
  | error failure => simp [alone, hdraft, bind, Except.bind] at h
  | ok draft =>
      rw [alone_of_draft hdraft] at h
      obtain ⟨_, -, hsame⟩ := except_map_eq_ok.mp h
      obtain ⟨rfl, -⟩ := Prod.mk.inj hsame
      exact (draft_eq_ok hdraft).1

/-- A file that comes to something by itself has a place. -/
theorem exists_place_of_alone {f : Formatter} {w : World} {schedule : Schedule} {file : Path}
    {before after : String} (h : f.alone w schedule file = .ok (before, after)) :
    ∃ found, Contents.place w file = .ok found := by
  obtain ⟨original, horiginal, -⟩ := readText_eq_ok (readText_of_alone h)
  obtain ⟨found, hplace, -⟩ := Contents.exists_place_of_read horiginal
  exact ⟨found, hplace⟩

/-- A request for one file comes to what the file comes to by itself, and settles it. -/
theorem outcome_formatFile {f : Formatter} {w : World} (hleaves : f.LeavesFiles w) (name : String)
    (write : Bool) (schedule : Schedule) :
    ∃ later, (f.formatFile (Path.parse name) write schedule).outcome w =
        (f.resultAlone w write schedule (Path.parse name), later) ∧
      later.scene =
        (w.withFiles (f.settled w write schedule w.files (Path.parse name))).scene := by
  have halone := alone_eq_formatText hleaves (Path.parse name).text schedule
  rw [Path.parse_text_parse] at halone
  rw [formatFile, outcome_get_bind, outcome_ofExcept_bind]
  cases hread : readText w (Path.parse name) with
  | error failure =>
      replace halone : f.alone w schedule (Path.parse name) = .error failure := by
        rw [halone, hread]
        rfl
      rw [resultAlone_of_error halone, settled_of_error halone]
      exact ⟨w, rfl, rfl⟩
  | ok before =>
      replace halone : f.alone w schedule (Path.parse name) =
          ((f.formatText before (some (Path.parse name).text) schedule).outcome w).1.map
            fun after => (before, after) := by
        rw [halone, hread]
        rfl
      have hscene := keepsScene_formatText hleaves before (some (Path.parse name).text) schedule w
        rfl
      dsimp only
      rw [outcome_bind]
      rcases hformat : (f.formatText before (some (Path.parse name).text) schedule).outcome w with
        ⟨failure | after, formatted⟩
      · rw [hformat] at hscene halone
        rw [resultAlone_of_error halone, settled_of_error halone]
        exact ⟨formatted, rfl, hscene⟩
      · rw [hformat] at hscene halone
        rw [resultAlone, settled, halone]
        exact outcome_writeBack (.refl w.files) hscene (Path.parse name) before after write

/-! ## What stands where a file was settled -/

section Settled

variable {f : Formatter} {w : World} {write : Bool} {schedule : Schedule} {file : Path}
  {found : Location}

/-- Settling a file once more changes nothing. -/
theorem entryAt?_settled_settled (hplace : Contents.place w file = .ok found) (tree : FileTree) :
    (f.settled w write schedule (f.settled w write schedule tree file) file).entryAt? found =
      (f.settled w write schedule tree file).entryAt? found := by
  unfold settled
  rcases f.alone w schedule file with failure | ⟨before, after⟩
  · rfl
  · dsimp only
    unfold writtenBack
    split
    · exact Contents.entryAt?_written_written hplace _ tree
    · rfl

/-- Settling files of one place that come to one thing by themselves is the same. -/
theorem settled_eq_of_place_eq {other : Path}
    (hplace : Contents.place w other = Contents.place w file)
    (halone : f.alone w schedule other = f.alone w schedule file) (tree : FileTree) :
    f.settled w write schedule tree other = f.settled w write schedule tree file := by
  simp only [settled, halone, writtenBack, Contents.written_of_place_eq hplace]

/-- Where the files of one place come to one thing by themselves, settling any of them settles the
place once and for all, and otherwise it stays as it is. -/
theorem entryAt?_foldl_settled_same (hplace : Contents.place w file = .ok found)
    {written : List Path}
    (hsame : ∀ other ∈ written, Contents.place w other = .ok found →
      f.alone w schedule other = f.alone w schedule file) (tree : FileTree) :
    (written.foldl (f.settled w write schedule) tree).entryAt? found =
      if ∃ other ∈ written, Contents.place w other = .ok found then
        (f.settled w write schedule tree file).entryAt? found
      else tree.entryAt? found := by
  induction written generalizing tree with
  | nil => simp
  | cons first rest ih =>
      rw [List.foldl_cons, ih fun other hother => hsame other (by simp [hother])]
      by_cases hfirst : Contents.place w first = .ok found
      · rw [settled_eq_of_place_eq (hfirst.trans hplace.symm) (hsame first (by simp) hfirst),
          entryAt?_settled_settled hplace]
        simp [hfirst]
      · have hkept := entryAt?_settled_of_ne (f := f) hfirst tree write schedule
        simp only [List.mem_cons, exists_eq_or_imp, hfirst, false_or]
        split
        · exact entryAt?_settled_congr hkept write schedule file
        · exact hkept

/-- Among files with a place each of their own, a file that is settled is so once and for all, and a
file that is not settled stays as it is. -/
theorem entryAt?_foldl_settled (hplace : Contents.place w file = .ok found)
    {written : List Path}
    (hdistinct : ∀ other ∈ written, other ≠ file → Contents.place w other ≠ .ok found)
    (tree : FileTree) :
    (written.foldl (f.settled w write schedule) tree).entryAt? found =
      if file ∈ written then (f.settled w write schedule tree file).entryAt? found
      else tree.entryAt? found := by
  have honly : ∀ other ∈ written, Contents.place w other = .ok found → other = file :=
    fun other hother => not_imp_not.mp (hdistinct other hother)
  rw [entryAt?_foldl_settled_same hplace fun other hother hfound => by
    rw [honly other hother hfound]]
  have hmem : (∃ other ∈ written, Contents.place w other = .ok found) ↔ file ∈ written :=
    ⟨fun ⟨other, hother, hfound⟩ => honly other hother hfound ▸ hother,
      fun hfile => ⟨file, hfile, hplace⟩⟩
  simp only [hmem]

end Settled

/-! ## What every turn keeps -/

/-- What is known of a file at a stage, when these files were written back. -/
def Stage.Sound (f : Formatter) (w : World) (write : Bool) (schedule : Schedule)
    (written : List Path) (file : Path) : Stage → Prop
  | .planned draft => ((f.draft file).outcome w).1 = .ok draft
  | .printed before after => f.alone w schedule file = .ok (before, after)
  | .settled outcome =>
    outcome = f.resultAlone w write schedule file ∧
      ∀ texts, f.alone w schedule file = .ok texts → file ∈ written

/-- A batch is where its files by themselves would be: every file is at its stage with what comes of
it in the world of the start, what is located is located as there, and the files that were written
back so far were settled as from there. -/
structure Progress.Sound (f : Formatter) (w : World) (files : List Path) (write : Bool)
    (schedule : Schedule) (progress : Progress) (written : List Path) (v : World) : Prop where
  names : progress.stages.map Prod.fst = files
  stages : ∀ file stage, (file, stage) ∈ progress.stages →
    stage.Sound f w write schedule written file
  known : ∀ folder plan, ((f.plan folder).outcome w).1 = .ok plan → ∀ located,
    progress.cache.outcome? plan.query.key = some located →
      located = Locator.Cache.alone w f.probeLimit schedule plan.query
  within : ∀ file ∈ written, file ∈ files
  scene : v.scene = (w.withFiles (written.foldl (f.settled w write schedule) w.files)).scene

section Turns

variable {f : Formatter} {w : World} {files : List Path} {write : Bool} {schedule : Schedule}

theorem Stage.Sound.mono {written more : List Path} {file : Path} {stage : Stage}
    (h : stage.Sound f w write schedule written file) :
    stage.Sound f w write schedule (written ++ more) file := by
  cases stage with
  | planned draft => exact h
  | printed before after => exact h
  | settled outcome =>
      exact ⟨h.1, fun texts halone => List.mem_append_left _ (h.2 texts halone)⟩

/-- A file comes to another stage, and some more files were written back. -/
theorem Progress.Sound.put {progress : Progress} {written more : List Path} {v later : World}
    (h : progress.Sound f w files write schedule written v) {n : Nat} {file : Path}
    {old new : Stage} (hstage : progress.stages[n]? = some (file, old))
    (hnew : new.Sound f w write schedule (written ++ more) file)
    (hmore : ∀ other ∈ more, other ∈ files)
    (hscene : later.scene =
      (w.withFiles ((written ++ more).foldl (f.settled w write schedule) w.files)).scene) :
    (progress.put n file new).Sound f w files write schedule (written ++ more) later where
  names := by
    have hsame : (progress.stages.map Prod.fst)[n]? = some file := by simp [hstage]
    obtain ⟨hlength, hget⟩ := List.getElem?_eq_some_iff.mp hsame
    rw [Progress.put, List.map_set, ← hget, List.set_getElem_self, h.names]
  stages other stage hmem := by
    obtain hmem | heq := List.mem_or_eq_of_mem_set hmem
    · exact (h.stages other stage hmem).mono
    · obtain ⟨rfl, rfl⟩ := Prod.mk.inj heq
      exact hnew
  known := h.known
  within other hother := (List.mem_append.mp hother).elim (h.within other) (hmore other)
  scene := hscene

theorem Progress.Sound.mem_of_stage {progress : Progress} {written : List Path} {v : World}
    (h : progress.Sound f w files write schedule written v) {n : Nat} {file : Path} {stage : Stage}
    (hstage : progress.stages[n]? = some (file, stage)) :
    file ∈ files ∧ stage.Sound f w write schedule written file := by
  have hmem := List.mem_of_getElem? hstage
  exact ⟨h.names ▸ List.mem_map_of_mem hmem, h.stages file stage hmem⟩

/-- The files that were written back are the only ones that changed. -/
theorem Progress.Sound.agreesOff {progress : Progress} {written : List Path} {v : World}
    (h : progress.Sound f w files write schedule written v) :
    w.files.AgreesOff (places w files) (written.foldl (f.settled w write schedule) w.files) :=
  agreesOff_foldl_settled (.refl _ _) h.within write schedule

/-- A batch of which nothing was run is where its files by themselves would be. -/
theorem sound_start (write : Bool) (schedule : Schedule) {v : World} (hscene : v.scene = w.scene) :
    (Progress.start (f.drafts w files)).Sound f w files write schedule [] v where
  names := by simp [Progress.start, stagesOf, drafts, Function.comp_def]
  stages file stage hmem := by
    obtain ⟨file, -, hsame⟩ : ∃ file' ∈ files,
        (file', Stage.ofDraft ((f.draft file').outcome w).1) = (file, stage) := by
      simpa [Progress.start, stagesOf, drafts] using hmem
    obtain ⟨rfl, rfl⟩ := Prod.mk.inj hsame
    cases hdraft : ((f.draft file).outcome w).1 with
    | ok draft => exact hdraft
    | error failure =>
        have halone := alone_of_draft_eq_error hdraft schedule
        exact ⟨(resultAlone_of_error halone write).symm, by simp [halone]⟩
  known _ _ _ _ hlocated := by simp [Progress.start, Locator.Cache.outcome?] at hlocated
  within := by simp
  scene := hscene

/-- When a batch is done, every file has its own result, and the files that came to something were
settled. -/
theorem Progress.Sound.of_stagesOfResults {cache : Locator.Cache} {results : List FileResult}
    {written : List Path} {v : World}
    (h : Progress.Sound f w files write schedule ⟨cache, stagesOfResults results⟩ written v) :
    results = files.map (fun file => ⟨file, f.resultAlone w write schedule file⟩) ∧
      ∀ file ∈ files, ∀ texts, f.alone w schedule file = .ok texts → file ∈ written := by
  have hnames : results.map FileResult.file = files := by
    simpa [stagesOfResults, Function.comp_def] using h.names
  have hresult : ∀ r ∈ results, r.outcome = f.resultAlone w write schedule r.file ∧
      ∀ texts, f.alone w schedule r.file = .ok texts → r.file ∈ written :=
    fun r hr => h.stages r.file (.settled r.outcome) (List.mem_map_of_mem hr)
  constructor
  · rw [← hnames, List.map_map]
    refine (List.map_id results).symm.trans (List.map_congr_left fun r hr => ?_)
    rw [Function.comp_apply, ← (hresult r hr).1]
    rfl
  · intro file hfile
    obtain ⟨r, hr, rfl⟩ := List.mem_map.mp (hnames.symm ▸ hfile)
    exact (hresult r hr).2

variable (hindifferent : f.IndifferentTo w files)

include hindifferent in
/-- Locating a query keeps a batch where it is to be. -/
theorem sound_takeTurn_locate {progress : Progress} {written : List Path} {v : World}
    (h : progress.Sound f w files write schedule written v) {n : Nat} {file : Path} {draft : Draft}
    (hstage : progress.stages[n]? = some (file, .planned draft)) :
    ∃ progress' later, (f.takeTurn write schedule progress (.locate n)).outcome v =
        (.ok progress', later) ∧ progress'.Sound f w files write schedule written later := by
  obtain ⟨-, hdraft⟩ := h.mem_of_stage hstage
  obtain ⟨-, folder, hplan⟩ := draft_eq_ok hdraft
  obtain ⟨hlocated, hscene⟩ :=
    (hindifferent _ h.agreesOff).locates hplan h.scene schedule
  simp only [takeTurn, hstage]
  rw [outcome_bind]
  obtain ⟨known, -, houtcome⟩ | ⟨-, after, houtcome, hafter⟩ :=
    progress.cache.outcome_locate_cases draft.plan.query f.probeLimit schedule v
  · rw [houtcome]
    exact ⟨progress, v, rfl, h⟩
  · rw [houtcome]
    refine ⟨{ progress with cache := after }, _, rfl, ?_⟩
    exact {
      names := h.names
      stages := h.stages
      within := h.within
      scene := hscene
      known := by
        intro folder' plan' hplan' located hknown
        obtain hearlier | ⟨hkey, rfl⟩ := hafter _ _ hknown
        · exact h.known folder' plan' hplan' located hearlier
        · rw [hlocated, query_eq_of_key_eq hplan' hplan hkey] }

include hindifferent in
/-- Running the formatter for a file keeps a batch where it is to be. -/
theorem sound_takeTurn_print {progress : Progress} {written : List Path} {v : World}
    (h : progress.Sound f w files write schedule written v) {n : Nat} {file : Path} {draft : Draft}
    (hstage : progress.stages[n]? = some (file, .planned draft)) {located : Locator.Outcome}
    (hknown : progress.cache.outcome? draft.plan.query.key = some located) :
    ∃ progress' later, (f.takeTurn write schedule progress (.print n)).outcome v =
        (.ok progress', later) ∧ progress'.Sound f w files write schedule written later := by
  obtain ⟨-, hdraft⟩ := h.mem_of_stage hstage
  obtain ⟨-, folder, hplan⟩ := draft_eq_ok hdraft
  obtain rfl := h.known folder draft.plan hplan located hknown
  have halone := alone_of_draft hdraft schedule
  obtain ⟨printed, hprint, hscene⟩ : ∃ later, (f.print draft
      (Locator.Cache.alone w f.probeLimit schedule draft.plan.query) schedule).outcome v =
        (f.printed w schedule draft, later) ∧ _ :=
    outcome_printing (hindifferent _ h.agreesOff).toPrintsAlike hplan h.scene
  obtain ⟨records, hcollecting⟩ := outcome_collecting file
    (f.print draft (Locator.Cache.alone w f.probeLimit schedule draft.plan.query) schedule) v
  rw [hprint] at hcollecting
  refine ⟨progress.put n file (.ofPrinted draft.text (f.printed w schedule draft)),
    printed.logging records, ?_, ?_⟩
  · simp only [takeTurn, hstage, hknown]
    rw [outcome_bind, hcollecting]
    rfl
  · rw [← List.append_nil written]
    refine h.put hstage ?_ (by simp) (by simpa using hscene)
    cases hprinted : f.printed w schedule draft with
    | error failure =>
        rw [hprinted] at halone
        exact ⟨(resultAlone_of_error halone write).symm, by simp [halone, Except.map]⟩
    | ok after => simp [Stage.ofPrinted, Stage.Sound, halone, hprinted, Except.map]

/-- Writing back what was printed for a file keeps a batch where it is to be. -/
theorem sound_takeTurn_write {progress : Progress} {written : List Path} {v : World}
    (h : progress.Sound f w files write schedule written v) {n : Nat} {file : Path}
    {before after : String} (hstage : progress.stages[n]? = some (file, .printed before after)) :
    ∃ progress' later, (f.takeTurn write schedule progress (.write n)).outcome v =
        (.ok progress', later) ∧
      progress'.Sound f w files write schedule (written ++ [file]) later := by
  obtain ⟨hfile, halone⟩ := h.mem_of_stage hstage
  have halone : f.alone w schedule file = .ok (before, after) := halone
  obtain ⟨later, hwritten, hlater⟩ :=
    outcome_writeBack h.agreesOff.1 h.scene file before after write
  obtain ⟨records, hcollecting⟩ := outcome_collecting file (writeBack file before after write) v
  rw [hwritten] at hcollecting
  refine ⟨progress.put n file (.settled (resultBack w file before after write)),
    later.logging records, ?_, ?_⟩
  · simp only [takeTurn, hstage]
    rw [outcome_bind, hcollecting]
    rfl
  · refine h.put hstage ⟨?_, by simp⟩ (by simpa using hfile) ?_
    · rw [resultAlone, halone]
      rfl
    · rw [World.scene_logging, hlater, List.foldl_append, List.foldl_cons, List.foldl_nil,
        settled, halone]

include hindifferent in
/-- One step: whatever turn comes next, the batch stays where it is to be. -/
theorem sound_takeTurn {progress : Progress} {written : List Path} {v : World}
    (h : progress.Sound f w files write schedule written v) (turn : Turn) :
    ∃ progress' written' later, (f.takeTurn write schedule progress turn).outcome v =
        (.ok progress', later) ∧ progress'.Sound f w files write schedule written' later := by
  by_cases hready : turn.Ready progress
  · cases hready with
    | locate hstage =>
        obtain ⟨progress', later, hlater⟩ := sound_takeTurn_locate hindifferent h hstage
        exact ⟨progress', written, later, hlater⟩
    | print hstage hknown =>
        obtain ⟨progress', later, hlater⟩ := sound_takeTurn_print hindifferent h hstage hknown
        exact ⟨progress', written, later, hlater⟩
    | write hstage =>
        obtain ⟨progress', later, hlater⟩ := sound_takeTurn_write h hstage
        exact ⟨progress', _, later, hlater⟩
  · rw [takeTurn_of_not_ready hready]
    exact ⟨progress, written, v, rfl, h⟩

include hindifferent in
/-- Whatever turns are taken, the batch stays where it is to be, by induction on the turns. -/
theorem sound_takeTurns {progress : Progress} {written : List Path} {v : World}
    (h : progress.Sound f w files write schedule written v) (turns : List Turn) :
    ∃ progress' written' later, (f.takeTurns write schedule progress turns).outcome v =
        (.ok progress', later) ∧ progress'.Sound f w files write schedule written' later := by
  induction turns generalizing progress written v with
  | nil => exact ⟨progress, written, v, rfl, h⟩
  | cons turn turns ih =>
      obtain ⟨between, settled, taken, htaken, hbetween⟩ := sound_takeTurn hindifferent h turn
      obtain ⟨progress', written', later, hlater, hsound⟩ := ih hbetween
      refine ⟨progress', written', later, ?_, hsound⟩
      rw [takeTurns, outcome_bind, htaken]
      exact hlater

end Turns

/-- Planning a batch only reads, unless the failure of some file escapes the batch; then nothing is
run to its end. -/
theorem outcome_planFiles_cases (f : Formatter) (files : List Path) (w : World) :
    ((∀ file ∈ files, escaping? ((f.draft file).outcome w).1 = none) ∧
      ∃ records, (f.planFiles files).outcome w =
        (.ok (.start (f.drafts w files)), w.logging records)) ∨
    ∃ file ∈ files, ∃ failure later, escaping? ((f.draft file).outcome w).1 = some failure ∧
      (f.planFiles files).outcome w = (.error failure, later) ∧ later.scene = w.scene := by
  obtain ⟨records, hdrafting⟩ := (reads_drafting f files).outcome_eq w
  obtain ⟨_, hdrafts, -⟩ := outcome_drafting f files (w := w) rfl
  rw [congrArg Prod.fst hdrafts] at hdrafting
  rw [planFiles, outcome_bind_of_ok hdrafting]
  split
  · next failure hescapes =>
      obtain ⟨_, hdraft, hfailure⟩ := List.exists_of_findSome?_eq_some hescapes
      obtain ⟨file, hfile, rfl⟩ := List.mem_map.mp hdraft
      obtain ⟨later, habandon, hlater⟩ :=
        f.outcome_abandonAll [] (planned (f.drafts w files)) (w.logging records)
      exact .inr ⟨file, hfile, failure, later, hfailure, outcome_bind_of_ok habandon,
        by simpa using hlater⟩
  · next hnone =>
      refine .inl ⟨fun file hfile => ?_, records, rfl⟩
      exact List.findSome?_eq_none_iff.mp (Option.eq_none_iff_forall_ne_some.mpr hnone) _
        (List.mem_map_of_mem (f := fun file => (file, ((f.draft file).outcome w).1)) hfile)

/-- A batch that returns was planned, its turns settled every file, and no failure escapes it. -/
theorem takeTurns_of_formatFilesInTurns {f : Formatter} {w later : World} {files : List Path}
    {turns : List Turn} {write : Bool} {schedule : Schedule} {results : List FileResult}
    (h : (f.formatFilesInTurns files turns write schedule).outcome w =
      (.ok (some results), later)) :
    (∀ file ∈ files, escaping? ((f.draft file).outcome w).1 = none) ∧
      (∀ r ∈ results, escaping? r.outcome = none) ∧
      ∃ records cache,
        (f.planFiles files).outcome w = (.ok (.start (f.drafts w files)), w.logging records) ∧
        (f.takeTurns write schedule (.start (f.drafts w files)) turns).outcome
          (w.logging records) = (.ok ⟨cache, stagesOfResults results⟩, later) := by
  obtain ⟨hnone, records, hplan⟩ | ⟨_, -, failure, _, -, hplan, -⟩ :=
    f.outcome_planFiles_cases files w
  · rw [formatFilesInTurns, outcome_bind_of_ok hplan] at h
    obtain ⟨⟨cache, stages⟩, last, hturns, hrest⟩ := outcome_bind_eq_ok.mp h
    cases hresults : Progress.results? ⟨cache, stages⟩ with
    | none => simp [hresults] at hrest
    | some done =>
        obtain rfl := results?_eq_some hresults
        simp only [hresults] at hrest
        split at hrest
        · simp at hrest
        · next hkept =>
            obtain ⟨rfl, rfl⟩ : done = results ∧ last = later := by simpa using hrest
            have hnothing := Option.eq_none_iff_forall_ne_some.mpr hkept
            exact ⟨hnone, List.findSome?_eq_none_iff.mp hnothing, records, cache, hplan, hturns⟩
  · simp [formatFilesInTurns, outcome_bind_of_error hplan] at h

/-- What a batch comes to when it returns, whatever its turns: every file has its own result, and
the files that came to something were settled, in some order and perhaps more than once. -/
theorem formatFilesInTurns_eq_ok {f : Formatter} {w later : World} {files : List Path}
    (hsteady : f.SteadyFor w files) {turns : List Turn} {write : Bool} {schedule : Schedule}
    {results : List FileResult}
    (h : (f.formatFilesInTurns files turns write schedule).outcome w =
      (.ok (some results), later)) :
    results = files.map (fun file => ⟨file, f.resultAlone w write schedule file⟩) ∧
      ∃ written : List Path, (∀ file ∈ written, file ∈ files) ∧
        (∀ file ∈ files, ∀ texts, f.alone w schedule file = .ok texts → file ∈ written) ∧
        later.scene = (w.withFiles (written.foldl (f.settled w write schedule) w.files)).scene := by
  obtain ⟨-, -, records, cache, -, htaken⟩ := takeTurns_of_formatFilesInTurns h
  obtain ⟨progress, written, last, hturns, hsound⟩ :=
    sound_takeTurns hsteady.indifferentTo
      (sound_start write schedule (v := w.logging records) (by simp)) turns
  obtain ⟨rfl, rfl⟩ : progress = ⟨cache, stagesOfResults results⟩ ∧ last = later := by
    simpa [hturns] using htaken
  obtain ⟨hresults, hsettled⟩ := hsound.of_stagesOfResults
  exact ⟨hresults, written, hsound.within, hsettled, hsound.scene⟩

/-- A batch is its files taken one by one from the start, in whatever order its tasks take their
turns.  Worked off in order it is the batch; and in any order in which it returns, a file has the
result that a request for the file by itself comes to in the world of the start, and holds what that
request leaves in it.  So a file that is listed twice is formatted once.  Nothing else has
changed. -/
theorem formatFiles_in_any_order {f : Formatter} {w : World} {names : List String}
    (hsteady : f.SteadyFor w (names.map Path.parse))
    (hdistinct : ∀ file ∈ names.map Path.parse, ∀ other ∈ names.map Path.parse, other ≠ file →
      ∀ found, Contents.place w file = .ok found → Contents.place w other ≠ .ok found)
    (write : Bool) :
    let files := names.map Path.parse
    let alone := fun file => (f.formatFile file write .quiet).outcome w
    f.formatFilesInTurns files (turnsInOrder files.length) write .quiet =
        some <$> f.formatFiles files write .quiet ∧
      ∀ turns results later,
        (f.formatFilesInTurns files turns write .quiet).outcome w = (.ok (some results), later) →
          results = files.map (fun file => ⟨file, (alone file).1⟩) ∧
          (∀ file ∈ files, Contents.read later file = Contents.read (alone file).2 file) ∧
          ∀ found, (∀ file ∈ files, Contents.place w file ≠ .ok found) →
            later.files.entryAt? found = w.files.entryAt? found := by
  intro files alone
  refine ⟨f.formatFilesInTurns_turnsInOrder files write .quiet, ?_⟩
  intro turns results later hreturns
  obtain ⟨hresults, written, hwithin, hsettled, hscene⟩ :=
    formatFilesInTurns_eq_ok hsteady hreturns
  have hagrees := agreesOff_foldl_settled (f := f) (.refl w.files (places w files)) hwithin write
    .quiet
  have halone (file : Path) (hfile : file ∈ files) :
      (alone file).1 = f.resultAlone w write .quiet file ∧
        (alone file).2.scene = (w.withFiles (f.settled w write .quiet w.files file)).scene := by
    obtain ⟨name, -, rfl⟩ := List.mem_map.mp hfile
    obtain ⟨last, hlast, hlast'⟩ := outcome_formatFile hsteady.leaves name write .quiet
    exact ⟨congrArg Prod.fst hlast, by rw [show (alone _).2 = last from congrArg Prod.snd hlast,
      hlast']⟩
  refine ⟨?_, ?_, ?_⟩
  · rw [hresults]
    exact List.map_congr_left fun file hfile => by rw [(halone file hfile).1]
  · intro file hfile
    have hself := (agreesOff_settled (f := f) (.refl w.files (places w files)) hfile write
      .quiet).1
    have hfiles := World.files_eq_of_scene_eq hscene
    have hfiles' := World.files_eq_of_scene_eq (halone file hfile).2
    have hplace := place_eq_of_scene_eq hself (halone file hfile).2 file
    refine Contents.read_eq_of_entryAt?_eq
      (by rw [hfiles, hfiles']; exact hself.symm.trans hagrees.1)
      ((World.directory_eq_of_scene_eq hscene).trans
        (World.directory_eq_of_scene_eq (halone file hfile).2).symm)
      ((World.storage_eq_of_scene_eq hscene).trans
        (World.storage_eq_of_scene_eq (halone file hfile).2).symm) file fun found hfound => ?_
    rw [hplace] at hfound
    rw [hfiles, hfiles', World.files_withFiles, World.files_withFiles,
      entryAt?_foldl_settled hfound fun other hother hne =>
        hdistinct file hfile other (hwithin other hother) hne found hfound]
    split
    · rfl
    · next hskipped =>
        cases hresult : f.alone w .quiet file with
        | ok texts => exact absurd (hsettled file hfile texts hresult) hskipped
        | error failure => rw [settled_of_error hresult]
  · intro found helsewhere
    rw [World.files_eq_of_scene_eq hscene]
    exact hagrees.2 found fun ⟨file, hfile, hplace⟩ => helsewhere file hfile hplace

/-- A file that is listed twice is printed backwards once, although the second task runs the
formatter after the first one has written the file back. -/
theorem formatFiles_in_any_order_twice :
    ∃ results later,
      (unlimited.formatFilesInTurns (["/a.sql", "/a.sql"].map Path.parse)
        [.locate 1, .print 1, .write 1, .print 0, .write 0] true .quiet).outcome backwardsWorld =
          (.ok (some results), later) ∧
      results.map (fun r => (r.file.text, r.outcome.toOption)) =
        [("/a.sql", some true), ("/a.sql", some true)] ∧
      (Contents.read later (Path.parse "/a.sql")).toOption = some [0x62, 0x61] := by
  have hsteady : unlimited.SteadyFor backwardsWorld (["/a.sql", "/a.sql"].map Path.parse) :=
    steadyFor_of_files (fun _ _ _ _ => rfl) (by decide +kernel) _
  have hreturns : ((unlimited.formatFilesInTurns (["/a.sql", "/a.sql"].map Path.parse)
      [.locate 1, .print 1, .write 1, .print 0, .write 0] true .quiet).outcome
        backwardsWorld).1.toOption.join.isSome = true := by decide +kernel
  rcases houtcome : (unlimited.formatFilesInTurns (["/a.sql", "/a.sql"].map Path.parse)
    [.locate 1, .print 1, .write 1, .print 0, .write 0] true .quiet).outcome backwardsWorld with
    ⟨failure | (_ | results), later⟩
  · rw [houtcome] at hreturns
    cases hreturns
  · rw [houtcome] at hreturns
    cases hreturns
  · obtain ⟨-, hany⟩ := formatFiles_in_any_order hsteady (by simp) true
    obtain ⟨rfl, hread, -⟩ := hany _ _ _ houtcome
    refine ⟨_, later, rfl, by decide +kernel, ?_⟩
    rw [hread _ (by simp)]
    decide +kernel

end FormatLauncher.Formatter
