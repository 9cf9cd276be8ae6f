/-
# A batch in order

A batch that is worked off in order takes its turns in one order among many: every query is located,
and then one file after the other is printed for and written back.  Formatting files side by side in
these turns is formatting them.
-/

import FormatLauncher.Formatter.Turns
import FormatLauncher.Proofs.Steady

namespace FormatLauncher.Formatter

open Action

/-! ## What a turn does -/

/-- Something is ready for the turn. -/
inductive Turn.Ready (progress : Progress) : Turn → Prop
  | locate {n : Nat} {file : Path} {draft : Draft}
      (hstage : progress.stages[n]? = some (file, .planned draft)) : Ready progress (.locate n)
  | print {n : Nat} {file : Path} {draft : Draft} {located : Locator.Outcome}
      (hstage : progress.stages[n]? = some (file, .planned draft))
      (hknown : progress.cache.outcome? draft.plan.query.key = some located) :
      Ready progress (.print n)
  | write {n : Nat} {file : Path} {before after : String}
      (hstage : progress.stages[n]? = some (file, .printed before after)) :
      Ready progress (.write n)

/-- A turn that nothing is ready for leaves the batch as it is. -/
theorem takeTurn_of_not_ready {progress : Progress} {turn : Turn} (h : ¬turn.Ready progress)
    (f : Formatter) (write : Bool) (schedule : Schedule) :
    f.takeTurn write schedule progress turn = pure progress := by
  cases turn with
  | locate n =>
      rcases hstage : progress.stages[n]? with _ | ⟨file, draft | _ | _⟩
      · simp only [takeTurn, hstage]
      · exact absurd (.locate hstage) h
      · simp only [takeTurn, hstage]
      · simp only [takeTurn, hstage]
  | print n =>
      rcases hstage : progress.stages[n]? with _ | ⟨file, draft | _ | _⟩
      · simp only [takeTurn, hstage]
      · cases hknown : progress.cache.outcome? draft.plan.query.key with
        | none => simp only [takeTurn, hstage, hknown]
        | some located => exact absurd (.print hstage hknown) h
      · simp only [takeTurn, hstage]
      · simp only [takeTurn, hstage]
  | write n =>
      rcases hstage : progress.stages[n]? with _ | ⟨file, _ | ⟨before, after⟩ | _⟩
      · simp only [takeTurn, hstage]
      · simp only [takeTurn, hstage]
      · exact absurd (.write hstage) h
      · simp only [takeTurn, hstage]

/-! ## Working off a batch in order -/

/-- The turns that locate, taken in order, locate every query of the batch. -/
theorem takeTurns_locate (f : Formatter) (write : Bool) (schedule : Schedule)
    (cache : Locator.Cache) (before : List (Path × Stage))
    (drafts : List (Path × Except Failure Draft)) :
    f.takeTurns write schedule ⟨cache, before ++ stagesOf drafts⟩
        ((List.range' before.length drafts.length).map .locate) =
      (fun located => ⟨located.2, before ++ stagesOf drafts⟩) <$>
        cache.locateAll f.probeLimit schedule
          ((planned drafts).map fun (_, draft) => draft.plan.query) := by
  induction drafts generalizing before cache with
  | nil => rfl
  | cons first rest ih =>
      rcases first with ⟨file, result⟩
      have hstages : before ++ stagesOf ((file, result) :: rest) =
          before ++ [(file, .ofDraft result)] ++ stagesOf rest := by simp [stagesOf]
      have hrest := fun cache => ih cache (before ++ [(file, .ofDraft result)])
      rw [← hstages, List.length_append, List.length_singleton] at hrest
      rw [List.length_cons, List.range'_succ, List.map_cons, takeTurns]
      have hfirst : (before ++ stagesOf ((file, result) :: rest))[before.length]? =
          some (file, .ofDraft result) := by simp [stagesOf]
      cases result with
      | error failure =>
          simp only [takeTurn, hfirst, Stage.ofDraft, pure_bind, hrest]
          rfl
      | ok draft =>
          simp only [takeTurn, hfirst, Stage.ofDraft, bind_assoc, pure_bind, hrest]
          simp [planned, Except.toOption, Locator.Cache.locateAll]

/-- Running the formatter for a file and writing back what it prints finishes the file. -/
theorem finish_eq (f : Formatter) (file : Path) (draft : Draft) (located : Locator.Outcome)
    (write : Bool) (schedule : Schedule) :
    f.finish file draft located write schedule =
      f.print draft located schedule >>= fun after => writeBack file draft.text after write := by
  simp only [finish, print, bind_assoc]

/-- The turns of one file finish it. -/
theorem takeTurns_finish (f : Formatter) (write : Bool) (schedule : Schedule)
    (progress : Progress) {n : Nat} {file : Path} {draft : Draft} {located : Locator.Outcome}
    (hstage : progress.stages[n]? = some (file, .planned draft))
    (hlocated : progress.cache.outcome? draft.plan.query.key = some located) (rest : List Turn) :
    f.takeTurns write schedule progress (.print n :: .write n :: rest) =
      collecting file (f.finish file draft located write schedule) >>= fun outcome =>
        f.takeTurns write schedule (progress.put n file (.settled outcome)) rest := by
  have hlength : n < progress.stages.length := (List.getElem?_eq_some_iff.mp hstage).1
  rw [finish_eq, collecting_bind]
  simp only [takeTurns, takeTurn, hstage, hlocated, bind_assoc, pure_bind]
  congr 1
  funext result
  cases result with
  | error failure => simp [Stage.ofPrinted, Progress.put, hlength]
  | ok after => simp [Stage.ofPrinted, Progress.put, hlength]

theorem takeTurns_append (f : Formatter) (write : Bool) (schedule : Schedule)
    (progress : Progress) (turns rest : List Turn) :
    f.takeTurns write schedule progress (turns ++ rest) =
      f.takeTurns write schedule progress turns >>= fun progress =>
        f.takeTurns write schedule progress rest := by
  induction turns generalizing progress with
  | nil => simp [takeTurns]
  | cons turn turns ih => simp only [List.cons_append, takeTurns, bind_assoc, ih]

/-- The stages of files that are done. -/
def stagesOfResults (results : List FileResult) : List (Path × Stage) :=
  results.map fun r => (r.file, .settled r.outcome)

/-- The turns that print and write, taken in order, finish every file of the batch. -/
theorem takeTurns_finishAll (f : Formatter) (write : Bool) (schedule : Schedule)
    (cache : Locator.Cache) (before : List (Path × Stage))
    {drafts : List (Path × Except Failure Draft)} {located : List Locator.Outcome}
    (hlocated : (planned drafts).map (fun (_, draft) => cache.outcome? draft.plan.query.key) =
      located.map some) :
    f.takeTurns write schedule ⟨cache, before ++ stagesOf drafts⟩
        ((List.range' before.length drafts.length).flatMap fun i => [.print i, .write i]) =
      (fun results => ⟨cache, before ++ stagesOfResults results⟩) <$>
        f.finishAll write schedule drafts located := by
  induction drafts generalizing before located with
  | nil => cases located <;> rfl
  | cons first rest ih =>
      rcases first with ⟨file, result⟩
      have hrest (outcome : Except Failure Bool) {located : List Locator.Outcome} :=
        @ih (before ++ [(file, .settled outcome)]) located
      simp only [List.length_append, List.length_singleton] at hrest
      have hfirst : (before ++ stagesOf ((file, result) :: rest))[before.length]? =
          some (file, .ofDraft result) := by simp [stagesOf]
      rw [List.length_cons, List.range'_succ, List.flatMap_cons]
      cases result with
      | error failure =>
          have hstages : before ++ stagesOf ((file, .error failure) :: rest) =
              before ++ [(file, .settled (.error failure))] ++ stagesOf rest := by
            simp [stagesOf, Stage.ofDraft]
          simp only [List.cons_append, List.nil_append, takeTurns, takeTurn, hfirst,
            Stage.ofDraft, pure_bind]
          rw [hstages, hrest (.error failure) hlocated, finishAll]
          simp [stagesOfResults]
      | ok draft =>
          cases located with
          | nil => simp [planned, Except.toOption] at hlocated
          | cons outcome more =>
              obtain ⟨hdraft, hmore⟩ : cache.outcome? draft.plan.query.key = some outcome ∧
                  (planned rest).map (fun (_, draft) => cache.outcome? draft.plan.query.key) =
                    more.map some := by
                simpa [planned, Except.toOption] using hlocated
              rw [List.cons_append, List.cons_append, List.nil_append,
                takeTurns_finish f write schedule ⟨cache, _⟩ hfirst hdraft, finishAll]
              simp only [Progress.put, map_bind]
              congr 1
              funext finished
              have hput : (before ++ stagesOf ((file, .ok draft) :: rest)).set before.length
                  (file, .settled finished) =
                    before ++ [(file, .settled finished)] ++ stagesOf rest := by
                simp [stagesOf]
              rw [hput, hrest finished hmore]
              simp [stagesOfResults]

theorem results?_stagesOfResults (cache : Locator.Cache) (results : List FileResult) :
    Progress.results? ⟨cache, stagesOfResults results⟩ = some results := by
  induction results with
  | nil => rfl
  | cons r rest ih =>
      simp only [Progress.results?, stagesOfResults, List.map_cons, List.mapM_cons] at ih ⊢
      rw [ih]
      rfl

/-- The results of a batch whose files are all done. -/
theorem results?_eq_some {stages : List (Path × Stage)} {cache : Locator.Cache}
    {results : List FileResult} (h : Progress.results? ⟨cache, stages⟩ = some results) :
    stages = stagesOfResults results := by
  induction stages generalizing results with
  | nil =>
      obtain rfl : [] = results := by simpa [Progress.results?] using h
      rfl
  | cons first rest ih =>
      rcases first with ⟨file, stage⟩
      simp only [Progress.results?, List.mapM_cons, Option.bind_eq_bind,
        Option.bind_eq_some_iff, Option.pure_def, Option.some.injEq] at h ih
      obtain ⟨r, hfirst, more, hrest, rfl⟩ := h
      cases stage with
      | planned draft => simp [Stage.result?] at hfirst
      | printed before after => simp [Stage.result?] at hfirst
      | settled outcome =>
          obtain rfl : ⟨file, outcome⟩ = r := by simpa [Stage.result?] using hfirst
          rw [ih hrest]
          rfl

/-- Formatting files side by side in order is formatting them. -/
theorem formatFilesInTurns_turnsInOrder (f : Formatter) (files : List Path) (write : Bool)
    (schedule : Schedule) :
    f.formatFilesInTurns files (turnsInOrder files.length) write schedule =
      some <$> f.formatFiles files write schedule := by
  apply ext_outcome
  intro w
  obtain ⟨drafted, hdrafting, -⟩ := outcome_drafting f files (w := w) rfl
  have hlength : (f.drafts w files).length = files.length := List.length_map _
  rw [formatFilesInTurns, planFiles, outcome_map, formatFiles, bind_assoc, outcome_bind,
    outcome_bind, hdrafting]
  dsimp only
  cases hescapes : List.findSome? _ (f.drafts w files) with
  | some failure =>
      obtain ⟨later, habandon, -⟩ := f.outcome_abandonAll [] (planned (f.drafts w files)) drafted
      simp only [bind_assoc]
      rw [outcome_bind, outcome_bind, habandon]
      rfl
  | none =>
      obtain ⟨located, cache, between, hlocate⟩ := Locator.Cache.exists_outcome_locateAll .empty
        f.probeLimit schedule ((planned (f.drafts w files)).map fun (_, draft) => draft.plan.query)
        drafted
      obtain ⟨hlocated, -⟩ := Locator.Cache.outcome?_of_locateAll hlocate
      rw [List.map_map] at hlocated
      have hlocates := f.takeTurns_locate write schedule .empty [] (f.drafts w files)
      have hfinishes := f.takeTurns_finishAll write schedule cache [] hlocated
      simp only [List.nil_append, List.length_nil, hlength, ← List.range_eq_range']
        at hlocates hfinishes
      have hwork : (f.takeTurns write schedule (.start (f.drafts w files))
          (turnsInOrder files.length)).outcome drafted =
          ((fun results => (⟨cache, stagesOfResults results⟩ : Progress)) <$>
            f.finishAll write schedule (f.drafts w files) located).outcome between := by
        rw [turnsInOrder, takeTurns_append, ← hfinishes, outcome_bind, Progress.start, hlocates,
          outcome_map, hlocate]
        rfl
      rw [outcome_bind, outcome_bind, hlocate]
      simp only [outcome_pure]
      rw [outcome_bind, hwork, outcome_map, outcome_bind]
      rcases (f.finishAll write schedule (f.drafts w files) located).outcome between with
        ⟨failure | results, later⟩
      · rfl
      · simp only [Except.map, results?_stagesOfResults]
        cases results.findSome? fun r => escaping? r.outcome <;> rfl

end FormatLauncher.Formatter
