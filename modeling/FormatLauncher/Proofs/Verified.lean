/-
# What a batch starts

A batch shares its questions: the formatter may be run for a file under a command that was located
for another one.  Whatever its turns, the commands that the cache knows to be there were asked
before and exited with success, and every file is at a stage that its own deeds explain.  So the
batch too runs nothing unverified, and nothing is run for a file that ends without the formatter.
-/

import FormatLauncher.Proofs.Requests
import FormatLauncher.Proofs.Turns

namespace FormatLauncher.Formatter

open Action

/-- What a batch asks for: a file is formatted through a filter, as it was planned at the start. -/
def BatchAsks (f : Formatter) (w : World) (files : List Path) (n : Nat) (plan : Plan)
    (following : List String) : Prop :=
  ∃ file draft, files[n]? = some file ∧ ((f.draft file).outcome w).1 = .ok draft ∧
    plan = draft.plan ∧ following = [Execution.inputMark]

/-- The deeds for a file that is at a stage. -/
def Stage.Explained (f : Formatter) (w : World) (deeds : List Deed) (n : Nat) (file : Path) :
    Stage → Prop
  | .planned draft =>
    ((f.draft file).outcome w).1 = .ok draft ∧ ∀ deed ∈ deeds, deed.file? ≠ some n
  | .printed _ _ => ∃ command, .format n command ∈ deeds
  | .settled outcome => ∀ failure, outcome = .error failure → failure.IsNotInstalled →
    ∀ deed ∈ deeds, deed.file? ≠ some n

/-- What is known of a batch after some deeds: the commands that were found were asked and exited
with success, and the stages of the files are explained. -/
structure Progress.Explained (f : Formatter) (w : World) (files : List Path) (deeds : List Deed)
    (progress : Progress) : Prop where
  known : ∀ key path, progress.cache.outcome? key = some (.ok ⟨path, true⟩) →
    .query path (some 0) ∈ deeds
  stages : ∀ n file (stage : Stage), progress.stages[n]? = some (file, stage) →
    files[n]? = some file ∧ stage.Explained f w deeds n file

section Turns

variable {f : Formatter} {w v : World} {files : List Path} {deeds more : List Deed}
  {progress : Progress}

/-- Deeds for other files leave a stage explained. -/
theorem Stage.Explained.append {n : Nat} {file : Path} {stage : Stage}
    (h : stage.Explained f w deeds n file) (hmore : ∀ deed ∈ more, deed.file? ≠ some n) :
    stage.Explained f w (deeds ++ more) n file := by
  have hboth (hdeeds : ∀ deed ∈ deeds, deed.file? ≠ some n) :
      ∀ deed ∈ deeds ++ more, deed.file? ≠ some n := fun deed hdeed =>
    (List.mem_append.mp hdeed).elim (hdeeds deed) (hmore deed)
  cases stage with
  | planned draft => exact ⟨h.1, hboth h.2⟩
  | printed before after =>
      obtain ⟨command, hcommand⟩ := h
      exact ⟨command, List.mem_append_left _ hcommand⟩
  | settled outcome => exact fun failure hfailure hmissing => hboth (h failure hfailure hmissing)

/-- A file comes to another stage by deeds for this file. -/
theorem Progress.Explained.put (h : progress.Explained f w files deeds) {n : Nat} {file : Path}
    {old new : Stage} (hstage : progress.stages[n]? = some (file, old))
    (hmore : ∀ deed ∈ more, deed.file? = some n)
    (hnew : new.Explained f w (deeds ++ more) n file) :
    (progress.put n file new).Explained f w files (deeds ++ more) where
  known key path hknown := List.mem_append_left _ (h.known key path hknown)
  stages m other stage hget := by
    obtain ⟨hlength, -⟩ := List.getElem?_eq_some_iff.mp hstage
    simp only [Progress.put, List.getElem?_set, hlength, if_true] at hget
    split at hget
    · next hsame =>
        subst hsame
        obtain ⟨rfl, rfl⟩ := Prod.mk.inj (Option.some.inj hget)
        exact ⟨(h.stages n file old hstage).1, hnew⟩
    · next hne =>
        obtain ⟨hfile, hexplained⟩ := h.stages m other stage hget
        exact ⟨hfile, hexplained.append fun deed hdeed => by simp [hmore deed hdeed, hne]⟩

/-- What a turn does to a batch whose stages are explained. -/
def Advances (f : Formatter) (w : World) (files : List Path) (deeds : List Deed)
    (outcome : Except Failure Progress × World) : Prop :=
  ∃ progress more, outcome.1 = .ok progress ∧
    Follows f (f.BatchAsks w files) w (deeds ++ more) outcome.2 ∧
    progress.Explained f w files (deeds ++ more)

variable (h : Follows f (f.BatchAsks w files) w deeds v)
  (hexplained : progress.Explained f w files deeds)

include h hexplained in
/-- Nothing is ready for the turn. -/
theorem advances_pure : Advances f w files deeds ((pure progress : Action Progress).outcome v) :=
  ⟨progress, [], rfl, by simpa using h, by simpa using hexplained⟩

include h hexplained in
/-- Locating a query asks at most the file that it finds. -/
theorem advances_locate {n : Nat} {file : Path} {draft : Draft} (write : Bool)
    (schedule : Schedule) (hstage : progress.stages[n]? = some (file, .planned draft)) :
    Advances f w files deeds ((f.takeTurn write schedule progress (.locate n)).outcome v) := by
  obtain ⟨-, hdraft, -⟩ := hexplained.stages n file _ hstage
  obtain ⟨-, folder, hplan⟩ := draft_eq_ok hdraft
  obtain ⟨more, hmore, hlocate, hfound⟩ := h.locate (folder_and_tool_of_plan hplan).2 schedule
  simp only [takeTurn, hstage]
  rw [outcome_bind]
  obtain ⟨known, -, houtcome⟩ | ⟨-, cache, houtcome, hcache⟩ :=
    progress.cache.outcome_locate_cases draft.plan.query f.probeLimit schedule v
  · rw [houtcome]
    exact advances_pure h hexplained
  · rw [houtcome]
    refine ⟨_, more, rfl, hlocate, ?_, ?_⟩
    · intro key path hknown
      obtain hearlier | ⟨-, hlocated⟩ := hcache key _ hknown
      · exact List.mem_append_left _ (hexplained.known key path hearlier)
      · exact List.mem_append_right _ (hfound path hlocated.symm)
    · intro m other stage hget
      obtain ⟨hfile, hstage⟩ := hexplained.stages m other stage hget
      exact ⟨hfile, hstage.append fun deed hdeed => by simp [hmore deed hdeed]⟩

include h in
/-- The formatter is run for a planned file if its command is there. -/
theorem Follows.print {n : Nat} {file : Path} {draft : Draft} {located : Locator.Outcome}
    (hfile : files[n]? = some file) (hdraft : ((f.draft file).outcome w).1 = .ok draft)
    (hknown : ∀ path, located = .ok ⟨path, true⟩ → .query path (some 0) ∈ deeds)
    (schedule : Schedule) :
    ∃ more, (∀ deed ∈ more, deed.file? = some n) ∧
      Follows f (f.BatchAsks w files) w (deeds ++ more)
        ((f.print draft located schedule).outcome v).2 ∧
      (∀ after, ((f.print draft located schedule).outcome v).1 = .ok after →
        ∃ command, .format n command ∈ more) ∧
      ∀ failure, ((f.print draft located schedule).outcome v).1 = .error failure →
        failure.IsNotInstalled → more = [] := by
  rw [Formatter.print, outcome_ofExcept_bind]
  cases located with
  | error failure => exact ⟨[], by simp, by simpa using h, by simp, fun _ _ _ => rfl⟩
  | ok resolved =>
      rcases resolved with ⟨path, available⟩
      obtain ⟨records, hv⟩ := f.answers_invocation draft.plan ⟨path, available⟩ v
      dsimp only
      rw [outcome_bind, hv]
      cases available with
      | false => exact ⟨[], by simp, by simpa using h.log records, by simp, fun _ _ _ => rfl⟩
      | true =>
          obtain ⟨more, hmore, hfollows, hformats, hfails⟩ := Formats.asFilter (h.log records)
            (hknown path rfl) (n := n) ⟨file, draft, hfile, hdraft, rfl, rfl⟩ draft.text schedule
          exact ⟨more, hmore, hfollows, hformats, fun failure hfailure hmissing =>
            absurd hmissing (hfails failure hfailure)⟩

include h hexplained in
/-- Running the formatter for a file. -/
theorem advances_print {n : Nat} {file : Path} {draft : Draft} {located : Locator.Outcome}
    (write : Bool) (schedule : Schedule)
    (hstage : progress.stages[n]? = some (file, .planned draft))
    (hlocated : progress.cache.outcome? draft.plan.query.key = some located) :
    Advances f w files deeds ((f.takeTurn write schedule progress (.print n)).outcome v) := by
  obtain ⟨hfile, hdraft, hnone⟩ := hexplained.stages n file _ hstage
  obtain ⟨more, hmore, hfollows, hformats, hmissing⟩ := h.print hfile hdraft
    (fun path hpath => hexplained.known _ path (hlocated.trans (congrArg some hpath))) schedule
  obtain ⟨records, hcollecting⟩ := outcome_collecting file (f.print draft located schedule) v
  refine ⟨progress.put n file (.ofPrinted draft.text
    ((f.print draft located schedule).outcome v).1), more, ?_, ?_, hexplained.put hstage hmore ?_⟩
  · simp only [takeTurn, hstage, hlocated]
    rw [outcome_bind, hcollecting]
    rfl
  · simp only [takeTurn, hstage, hlocated]
    rw [outcome_bind, hcollecting]
    exact hfollows.log records
  · cases hprinted : ((f.print draft located schedule).outcome v).1 with
    | ok after =>
        obtain ⟨command, hcommand⟩ := hformats after hprinted
        exact ⟨command, List.mem_append_right _ hcommand⟩
    | error failure =>
        rintro cause ⟨⟩ hcause
        rw [hmissing failure hprinted hcause, List.append_nil]
        exact hnone

include h hexplained in
/-- Writing back what was printed for a file. -/
theorem advances_write {n : Nat} {file : Path} {before after : String} (write : Bool)
    (schedule : Schedule) (hstage : progress.stages[n]? = some (file, .printed before after)) :
    Advances f w files deeds ((f.takeTurn write schedule progress (.write n)).outcome v) := by
  obtain ⟨-, command, hformatted⟩ := hexplained.stages n file _ hstage
  obtain ⟨more, hmore, hfollows, hfails⟩ := h.writeBack hformatted file before after write
  obtain ⟨records, hcollecting⟩ := outcome_collecting file (writeBack file before after write) v
  refine ⟨progress.put n file (.settled ((writeBack file before after write).outcome v).1), more,
    ?_, ?_, hexplained.put hstage hmore fun failure hfailure hmissing =>
      absurd hmissing (hfails failure hfailure)⟩
  · simp only [takeTurn, hstage]
    rw [outcome_bind, hcollecting]
    rfl
  · simp only [takeTurn, hstage]
    rw [outcome_bind, hcollecting]
    exact hfollows.log records

include h hexplained in
/-- One step: whatever turn comes next, it does only what it may. -/
theorem advances_takeTurn (write : Bool) (schedule : Schedule) (turn : Turn) :
    Advances f w files deeds ((f.takeTurn write schedule progress turn).outcome v) := by
  by_cases hready : turn.Ready progress
  · cases hready with
    | locate hstage => exact advances_locate h hexplained write schedule hstage
    | print hstage hlocated => exact advances_print h hexplained write schedule hstage hlocated
    | write hstage => exact advances_write h hexplained write schedule hstage
  · rw [takeTurn_of_not_ready hready]
    exact advances_pure h hexplained

include h hexplained in
/-- Whatever turns are taken, they do only what they may, by induction on the turns. -/
theorem advances_takeTurns (write : Bool) (schedule : Schedule) (turns : List Turn) :
    Advances f w files deeds ((f.takeTurns write schedule progress turns).outcome v) := by
  induction turns generalizing progress deeds v with
  | nil => exact advances_pure h hexplained
  | cons turn turns ih =>
      obtain ⟨between, first, hturn, hfollows, hbetween⟩ :=
        advances_takeTurn h hexplained write schedule turn
      obtain ⟨progress', second, hturns, hfollows', hprogress⟩ := ih hfollows hbetween
      rw [takeTurns, outcome_bind, ← Prod.eta ((f.takeTurn write schedule progress turn).outcome v),
        hturn]
      exact ⟨progress', first ++ second, hturns, by simpa using hfollows', by simpa using hprogress⟩

end Turns

/-! ## Planning a batch -/

section Planning

variable {f : Formatter} {w v : World} {deeds : List Deed} {asked : Nat → Plan → List String → Prop}

/-- Abandoning a query asks at most the file that it finds, which is ended before it exits. -/
theorem Follows.abandon (h : Follows f asked w deeds v) {q : Locator.Query}
    (htool : q.toolOrUsual = f.tool) :
    ∃ more, (∀ deed ∈ more, deed.file? = none) ∧
      Follows f asked w (deeds ++ more) ((Formatter.abandon q).outcome v).2 := by
  have hreport {v : World} (h : Follows f asked w deeds v) (resolved : Locator.Resolved) :
      ∃ more, (∀ deed ∈ more, deed.file? = none) ∧ Follows f asked w (deeds ++ more)
        ((Locator.report q resolved >>= fun _ => pure resolved : Action _).outcome v).2 :=
    ⟨[], by simp, by simpa using h.of_reads (Locator.answers_report q resolved).reads⟩
  obtain ⟨first, hinspect⟩ := (Locator.reads_inspect q).outcome_eq v
  rw [Formatter.abandon, outcome_attempt, outcome_bind, hinspect]
  rcases hinspected : ((Locator.inspect q).outcome v).1 with failure | ⟨path, passes⟩
  · exact ⟨[], by simp, by simpa using h.log first⟩
  · cases passes with
    | false => exact hreport (h.log first) _
    | true =>
        obtain ⟨habsolute, hfile⟩ := Locator.passes_of_inspect hinspected
        simp only [if_true, Locator.startProbe, bind_assoc, outcome_get_bind, htool]
        cases hstart : Launch.start (v.logging first) path f.tool.versionArguments none with
        | error refusal =>
            cases refusal with
            | embeddedNul => exact ⟨[], by simp, by simpa using h.log first⟩
            | system cause =>
                rw [outcome_bind]
                exact hreport ((h.log first).log [_]) ⟨path, false⟩
        | ok query =>
            have hran : query.Ran [] (v.logging first) none
                ((v.logging first).afterRun (query.run false) none) := ⟨by simp, rfl⟩
            exact ⟨[.query path none], by simp [Deed.file?],
              (h.log first).query ⟨habsolute, hfile, hstart⟩ hran⟩

/-- A batch that ends before anything is run to its end only asks. -/
theorem Follows.abandonAll (h : Follows f asked w deeds v) {planned : List (Path × Draft)}
    (htool : ∀ entry ∈ planned, entry.2.plan.query.toolOrUsual = f.tool)
    (seen : List (Locator.Key × Locator.Outcome)) :
    ∃ more, (∀ deed ∈ more, deed.file? = none) ∧
      Follows f asked w (deeds ++ more) ((f.abandonAll seen planned).outcome v).2 := by
  induction planned generalizing seen deeds v with
  | nil => exact ⟨[], by simp, by simpa [Formatter.abandonAll] using h⟩
  | cons first rest ih =>
      rcases first with ⟨file, draft⟩
      have hgo (outcome : Locator.Outcome) {deeds : List Deed} {v : World}
          (h : Follows f asked w deeds v) :
          ∃ more, (∀ deed ∈ more, deed.file? = none) ∧ Follows f asked w (deeds ++ more) ((do
            let _ ← collecting file do
              f.invocation draft.plan (← Action.ofExcept outcome)
            Formatter.abandonAll f ((draft.plan.query.key, outcome) :: seen) rest).outcome v).2 :=
        by
        have hreads : (collecting file do
            f.invocation draft.plan (← Action.ofExcept outcome)).Reads :=
          reads_collecting file
            ((reads_ofExcept outcome).bind fun resolved => f.reads_invocation draft.plan resolved)
        obtain ⟨records, hcollecting⟩ := outcome_collecting file
          (do f.invocation draft.plan (← Action.ofExcept outcome)) v
        have hlater := h.of_reads hreads
        rw [outcome_bind]
        rw [hcollecting] at hlater ⊢
        exact ih hlater (fun entry hentry => htool entry (by simp [hentry])) _
      rw [Formatter.abandonAll]
      dsimp only
      cases hseen : seen.lookup draft.plan.query.key with
      | some outcome => exact hgo outcome h
      | none =>
          obtain ⟨more, hmore, habandon⟩ := h.abandon (htool (file, draft) (by simp))
          obtain ⟨outcome, between, houtcome⟩ : ∃ outcome between,
              (Formatter.abandon draft.plan.query).outcome v = (.ok outcome, between) :=
            ⟨_, _, rfl⟩
          rw [houtcome] at habandon
          dsimp only
          rw [outcome_bind, houtcome]
          obtain ⟨rest, hrest, hlater⟩ := hgo outcome habandon
          refine ⟨more ++ rest, ?_, by simpa using hlater⟩
          exact fun deed hdeed => (List.mem_append.mp hdeed).elim (hmore deed) (hrest deed)

/-- Planning a batch only reads, or else ends it after some questions. -/
theorem follows_planFiles (asked : Nat → Plan → List String → Prop) (f : Formatter)
    (files : List Path) (w : World) :
    ∃ deeds, (∀ deed ∈ deeds, deed.file? = none) ∧
      Follows f asked w deeds ((f.planFiles files).outcome w).2 ∧
      ∀ progress, ((f.planFiles files).outcome w).1 = .ok progress →
        progress = .start (f.drafts w files) := by
  obtain ⟨records, hdrafting⟩ := (reads_drafting f files).outcome_eq w
  obtain ⟨drafted, hdrafts, -⟩ := outcome_drafting f files (w := w) rfl
  rw [congrArg Prod.fst hdrafts] at hdrafting
  have hread : Follows f asked w [] (w.logging records) := Follows.start.log records
  rw [planFiles, outcome_bind, hdrafting]
  dsimp only
  split
  · next failure _ =>
      have htool : ∀ entry ∈ planned (f.drafts w files),
          entry.2.plan.query.toolOrUsual = f.tool := by
        intro entry hentry
        obtain ⟨folder, plan, hplan, hquery⟩ := exists_plan_of_mem_planned
          (List.mem_map_of_mem (f := fun (entry : Path × Draft) => entry.2.plan.query) hentry)
        rw [← hquery]
        exact (folder_and_tool_of_plan hplan).2
      obtain ⟨more, hmore, habandon⟩ := hread.abandonAll htool []
      obtain ⟨later, habandoned, -⟩ :=
        f.outcome_abandonAll [] (planned (f.drafts w files)) (w.logging records)
      rw [outcome_bind]
      rw [habandoned] at habandon ⊢
      exact ⟨more, hmore, by simpa using habandon, by simp⟩
  · exact ⟨[], by simp, hread, fun progress hprogress =>
      (Except.ok.inj hprogress).symm⟩

/-- At the start of a batch nothing is located, and no file has got anything. -/
theorem explained_start (hdeeds : ∀ deed ∈ deeds, deed.file? = none) (files : List Path) :
    (Progress.start (f.drafts w files)).Explained f w files deeds where
  known key path hknown := by simp [Progress.start, Locator.Cache.outcome?] at hknown
  stages n file stage hget := by
    simp only [Progress.start, stagesOf, drafts, List.map_map, List.getElem?_map,
      Option.map_eq_some_iff] at hget
    obtain ⟨other, hfile, hstage⟩ := hget
    obtain ⟨rfl, rfl⟩ := Prod.mk.inj hstage
    refine ⟨hfile, ?_⟩
    have hnone : ∀ deed ∈ deeds, deed.file? ≠ some n := fun deed hdeed => by
      simp [hdeeds deed hdeed]
    dsimp only
    cases hdraft : ((f.draft other).outcome w).1 with
    | error failure => exact fun _ _ _ => hnone
    | ok draft => exact ⟨hdraft, hnone⟩

/-- What a batch does, whatever its turns. -/
theorem follows_formatFilesInTurns (f : Formatter) (files : List Path) (turns : List Turn)
    (write : Bool) (schedule : Schedule) (w : World) :
    ∃ deeds, Follows f (f.BatchAsks w files) w deeds
        ((f.formatFilesInTurns files turns write schedule).outcome w).2 ∧
      ∀ results, ((f.formatFilesInTurns files turns write schedule).outcome w).1 =
          .ok (some results) →
        ∀ n r failure, results[n]? = some r → r.outcome = .error failure →
          failure.IsNotInstalled → ∀ deed ∈ deeds, deed.file? ≠ some n := by
  obtain ⟨asking, hasking, hplan, hstart⟩ := follows_planFiles (f.BatchAsks w files) f files w
  rw [formatFilesInTurns, outcome_bind]
  rcases houtcome : (f.planFiles files).outcome w with ⟨failure | progress, started⟩
  · rw [houtcome] at hplan
    exact ⟨asking, hplan, by simp⟩
  · rw [houtcome] at hplan hstart
    obtain rfl := hstart progress rfl
    obtain ⟨⟨cache, stages⟩, more, hturns, hfollows, hexplained⟩ :=
      advances_takeTurns hplan (explained_start hasking files) write schedule turns
    dsimp only
    rw [outcome_bind, ← Prod.eta ((f.takeTurns write schedule _ turns).outcome started), hturns]
    refine ⟨asking ++ more, ?_, ?_⟩
    · dsimp only
      split
      · exact hfollows
      · split
        · exact hfollows
        · exact hfollows
    · intro results hresults n r failure hr hfailure hmissing
      have hdone : Progress.results? ⟨cache, stages⟩ = some results := by
        dsimp only at hresults
        split at hresults
        · simp at hresults
        · next done hdone =>
            split at hresults
            · simp at hresults
            · rw [hdone]
              simpa using hresults
      obtain rfl := results?_eq_some hdone
      have hget : (stagesOfResults results)[n]? = some (r.file, .settled r.outcome) := by
        simp [stagesOfResults, hr]
      exact (hexplained.stages n r.file _ hget).2 failure hfailure hmissing

end Planning

/-- Nothing unverified is ever run.  A request, and a batch in whatever turns, does to a world only
what may be done to it: a formatter is started only under the absolute path of a file that was a
regular one with an execute bit and that exited with success when it was asked for its version
before, and it gets the arguments of the plan and the mark of a filter or the targets after them.
There are as many runs as deeds that start something.  A request that does not find the formatter
has only asked, and nothing is run or written for a file of a batch that does not find it. -/
theorem runs_only_verified (f : Formatter) (schedule : Schedule) (w : World) :
    (∀ request : Request,
      let performed := (request.perform f schedule).outcome w
      ∃ deeds, Follows f (request.Asks f w) w deeds performed.2 ∧
        (∃ runs, performed.2.runs = w.runs ++ runs ∧ runs.length = deeds.countP Deed.starts) ∧
        ∀ failure, performed.1 = .error failure → failure.IsNotInstalled →
          (∀ deed ∈ deeds, deed.file? = none) ∧
          ((∀ command query, f.Queries w command query → query.LeavesFiles w.files) →
            performed.2.files = w.files)) ∧
    ∀ files turns write,
      let formatted := (f.formatFilesInTurns files turns write schedule).outcome w
      ∃ deeds, Follows f (f.BatchAsks w files) w deeds formatted.2 ∧
        (∃ runs, formatted.2.runs = w.runs ++ runs ∧ runs.length = deeds.countP Deed.starts) ∧
        ∀ results, formatted.1 = .ok (some results) →
          ∀ n r failure, results[n]? = some r → r.outcome = .error failure →
            failure.IsNotInstalled → ∀ deed ∈ deeds, deed.file? ≠ some n := by
  constructor
  · intro request performed
    obtain ⟨deeds, hfollows, -, hmissing⟩ := performs_request f request schedule w
    refine ⟨deeds, hfollows, hfollows.runs, fun failure hfailure hnot => ?_⟩
    have hasking := hmissing failure hfailure hnot
    exact ⟨hasking, fun hleaves =>
      World.files_eq_of_scene_eq (hfollows.scene_eq hleaves hasking)⟩
  · intro files turns write formatted
    obtain ⟨deeds, hfollows, hmissing⟩ :=
      follows_formatFilesInTurns f files turns write schedule w
    exact ⟨deeds, hfollows, hfollows.runs, hmissing⟩

/-- Where a file is printed backwards, one file is asked and the formatter is run once; where the
formatter is not there, no file changes. -/
theorem runs_only_verified_backwards :
    let request := Request.file ⟨.slash, ["a.sql"]⟩ true
    let elsewhere := { unlimited with settings.path := some "/bin/other" }
    (∃ deeds, Follows unlimited (request.Asks unlimited backwardsWorld) backwardsWorld deeds
        ((request.perform unlimited .quiet).outcome backwardsWorld).2 ∧
      deeds.countP Deed.starts = 2) ∧
    ((request.perform elsewhere .quiet).outcome backwardsWorld).2.files =
      backwardsWorld.files := by
  intro request elsewhere
  constructor
  · obtain ⟨deeds, hfollows, ⟨runs, hruns, hlength⟩, -⟩ :=
      (runs_only_verified unlimited .quiet backwardsWorld).1 request
    refine ⟨deeds, hfollows, ?_⟩
    have htwo : ((request.perform unlimited .quiet).outcome backwardsWorld).2.runs.length = 2 := by
      decide +kernel
    rw [hruns, List.length_append, hlength] at htwo
    simpa [backwardsWorld] using htwo
  · obtain ⟨deeds, -, -, hmissing⟩ := (runs_only_verified elsewhere .quiet backwardsWorld).1 request
    have hanswer : ((request.perform elsewhere .quiet).outcome backwardsWorld).1 =
        .error (.notInstalled "/bin/other" Tool.sqlfmt.installHint) := by decide +kernel
    refine (hmissing _ hanswer trivial).2 fun command query hqueries =>
      Launch.Ready.leavesFiles_of_programs (fun id call tree finish hfinish => ?_) hqueries.starts
    obtain rfl : _ = finish := Option.some.inj hfinish
    rfl

end FormatLauncher.Formatter
