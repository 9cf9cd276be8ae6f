/-
# The phases of a batch

A batch reads and plans every file, then locates every query once, and only then runs the formatter,
file after file.  Each phase gives a file what it gives the file by itself.  What is written back
for a file is seen at the place of that file only, so the files of a batch can be told apart
afterwards.
-/

import FormatLauncher.Proofs.Alone
import FormatLauncher.Proofs.Cache

namespace FormatLauncher.Formatter

open Action

/-- Collecting a failure logs it. -/
theorem outcome_collecting_eq {α : Type} (file : Path) (action : Action α) (w : World) :
    (collecting file action).outcome w =
      (.ok (action.outcome w).1, match (action.outcome w).1 with
        | .ok _ => (action.outcome w).2
        | .error failure =>
          if failure.isCollected then
            (action.outcome w).2.logging
              [⟨.debug, file.text ++ ": " ++ failure.kindName ++ ": " ++ failure.message⟩]
          else (action.outcome w).2) := by
  rw [collecting, outcome_bind, outcome_attempt]
  cases (action.outcome w).1 with
  | ok x => rfl
  | error failure => cases hcollected : failure.isCollected <;> simp [hcollected, Except.map]

/-- Collecting never fails, and all it does by itself is to log. -/
theorem outcome_collecting {α : Type} (file : Path) (action : Action α) (w : World) :
    ∃ records, (collecting file action).outcome w =
      (.ok (action.outcome w).1, (action.outcome w).2.logging records) := by
  rw [outcome_collecting_eq]
  split
  · exact ⟨[], by simp⟩
  · split
    · exact ⟨_, rfl⟩
    · exact ⟨[], by simp⟩

theorem reads_collecting {α : Type} (file : Path) {action : Action α} (h : action.Reads) :
    (collecting file action).Reads := by
  refine h.attempt.bind fun outcome => ?_
  cases outcome with
  | ok x => exact reads_pure _
  | error failure =>
      dsimp only
      split
      · exact (reads_say _ _).bind fun _ => reads_pure _
      · exact reads_pure _

/-- Collecting a sequence is collecting its first action, and then its second. -/
theorem collecting_bind {α β : Type} (file : Path) (action : Action α) (next : α → Action β) :
    collecting file (action >>= next) = do
      match ← collecting file action with
      | .ok x => collecting file (next x)
      | .error failure => return .error failure := by
  apply ext_outcome
  intro w
  rw [outcome_bind, outcome_collecting_eq, outcome_collecting_eq, outcome_bind]
  rcases action.outcome w with ⟨failure | x, later⟩
  · rfl
  · exact (outcome_collecting_eq file (next x) later).symm

/-- The files of a batch, read and planned. -/
def drafts (f : Formatter) (w : World) (files : List Path) : List (Path × Except Failure Draft) :=
  files.map fun file => (file, ((f.draft file).outcome w).1)

/-- Reading and planning gives every file what it gives the file by itself. -/
theorem outcome_drafting (f : Formatter) {w : World} (files : List Path) {v : World}
    (hscene : v.scene = w.scene) :
    ∃ later, (files.mapM fun file => (do
        return (file, ← collecting file (f.draft file)) : Action _)).outcome v =
      (.ok (f.drafts w files), later) ∧ later.scene = w.scene := by
  induction files generalizing v with
  | nil => exact ⟨v, rfl, hscene⟩
  | cons file rest ih =>
      have hdraft := ((f.reads_draft file).ignoresHistory v w hscene).1
      have hkeeps := ((f.reads_draft file).keepsScene w) v hscene
      obtain ⟨records, hcollecting⟩ := outcome_collecting file (f.draft file) v
      obtain ⟨later, hrest, hlater⟩ := ih (v := ((f.draft file).outcome v).2.logging records)
        (by simpa using hkeeps)
      refine ⟨later, ?_, hlater⟩
      rw [List.mapM_cons]
      simp only [outcome_bind, outcome_pure, hcollecting, hrest, hdraft]
      rfl

/-- Reading and planning the files of a batch only reads. -/
theorem reads_drafting (f : Formatter) (files : List Path) :
    (files.mapM fun file => (do
      return (file, ← collecting file (f.draft file)) : Action _)).Reads := by
  induction files with
  | nil => exact reads_pure _
  | cons file rest ih =>
      rw [List.mapM_cons]
      exact ((reads_collecting file (f.reads_draft file)).bind fun _ => reads_pure _).bind
        fun _ => ih.bind fun _ => reads_pure _

/-- Nothing is run to its end for a query that is abandoned. -/
theorem keepsScene_abandon (q : Locator.Query) (s : World) : (abandon q).KeepsScene s := by
  apply KeepsScene.attempt
  apply ((Locator.reads_inspect q).keepsScene s).bind
  rintro ⟨path, passes⟩ _ _ _
  have hreport (resolved : Locator.Resolved) :
      (Locator.report q resolved >>= fun _ => pure resolved).KeepsScene s :=
    (Locator.answers_report q resolved).reads.keepsScene s
  cases passes with
  | false => exact hreport _
  | true =>
      apply ((Locator.reads_startProbe _ _).keepsScene s).bind
      intro started _ _ _
      cases started with
      | none => exact hreport _
      | some ready => exact fun _ hscene => hscene

/-- A batch that ends before anything is run to its end leaves the scene as it is. -/
theorem outcome_abandonAll (f : Formatter) (seen : List (Locator.Key × Locator.Outcome))
    (planned : List (Path × Draft)) (w : World) :
    ∃ later, (f.abandonAll seen planned).outcome w = (.ok (), later) ∧
      later.scene = w.scene := by
  induction planned generalizing seen w with
  | nil => exact ⟨w, rfl, rfl⟩
  | cons first rest ih =>
      rcases first with ⟨file, draft⟩
      have hgo (outcome : Locator.Outcome) (v : World) :
          ∃ later, (do
            let _ ← collecting file do
              f.invocation draft.plan (← Action.ofExcept outcome)
            abandonAll f ((draft.plan.query.key, outcome) :: seen) rest).outcome v =
              (.ok (), later) ∧ later.scene = v.scene := by
        obtain ⟨records, hcollecting⟩ := outcome_collecting file
          (do f.invocation draft.plan (← Action.ofExcept outcome)) v
        have hreads : (do f.invocation draft.plan (← Action.ofExcept outcome)).Reads :=
          (reads_ofExcept outcome).bind fun resolved => f.reads_invocation draft.plan resolved
        obtain ⟨later, hrest, hlater⟩ := ih ((draft.plan.query.key, outcome) :: seen)
          (((do f.invocation draft.plan (← Action.ofExcept outcome)).outcome v).2.logging records)
        refine ⟨later, ?_, hlater.trans (hreads.keepsScene v v rfl)⟩
        rw [outcome_bind, hcollecting]
        exact hrest
      rw [abandonAll]
      dsimp only
      cases hseen : seen.lookup draft.plan.query.key with
      | some outcome => exact hgo outcome w
      | none =>
          obtain ⟨outcome, between, habandon⟩ : ∃ outcome between,
              (abandon draft.plan.query).outcome w = (.ok outcome, between) := ⟨_, _, rfl⟩
          have hkeeps := keepsScene_abandon draft.plan.query w w rfl
          rw [habandon] at hkeeps
          obtain ⟨later, hrest, hlater⟩ := hgo outcome between
          refine ⟨later, ?_, hlater.trans hkeeps⟩
          rw [outcome_bind, habandon]
          exact hrest

/-- What locating comes to for the planned files of a batch, by themselves. -/
def located (f : Formatter) (w : World) (schedule : Schedule) (files : List Path) :
    List Locator.Outcome :=
  (planned (f.drafts w files)).map fun (_, draft) =>
    Locator.Cache.alone w f.probeLimit schedule draft.plan.query

theorem located_cons_of_ok {f : Formatter} {w : World} {file : Path} {draft : Draft}
    (hdraft : ((f.draft file).outcome w).1 = .ok draft) (schedule : Schedule) (rest : List Path) :
    f.located w schedule (file :: rest) =
      Locator.Cache.alone w f.probeLimit schedule draft.plan.query ::
        f.located w schedule rest := by
  simp [located, drafts, planned, hdraft, Except.toOption]

theorem located_cons_of_error {f : Formatter} {w : World} {file : Path} {failure : Failure}
    (hdraft : ((f.draft file).outcome w).1 = .error failure) (schedule : Schedule)
    (rest : List Path) :
    f.located w schedule (file :: rest) = f.located w schedule rest := by
  simp [located, drafts, planned, hdraft, Except.toOption]

/-- The query of a planned file is the query of a plan. -/
theorem exists_plan_of_mem_planned {f : Formatter} {w : World} {files : List Path}
    {q : Locator.Query}
    (hq : q ∈ (planned (f.drafts w files)).map fun (_, draft) => draft.plan.query) :
    ∃ folder plan, ((f.plan folder).outcome w).1 = .ok plan ∧ plan.query = q := by
  induction files with
  | nil => simp [drafts, planned] at hq
  | cons file rest ih =>
      cases hdraft : ((f.draft file).outcome w).1 with
      | error failure => exact ih (by simpa [drafts, planned, hdraft, Except.toOption] using hq)
      | ok draft =>
          obtain rfl | hrest : q = draft.plan.query ∨
              q ∈ (planned (f.drafts w rest)).map fun (_, draft) => draft.plan.query := by
            simpa [drafts, planned, hdraft, Except.toOption] using hq
          · obtain ⟨-, folder, hplan⟩ := draft_eq_ok hdraft
            exact ⟨folder, draft.plan, hplan, rfl⟩
          · exact ih hrest

/-- Locating gives every planned file what locating comes to for it alone. -/
theorem outcome_locating {f : Formatter} {w : World} (hleaves : f.LeavesFiles w)
    (schedule : Schedule) (files : List Path) {v : World} (hscene : v.scene = w.scene) :
    ∃ cache later, (Locator.Cache.empty.locateAll f.probeLimit schedule
        ((planned (f.drafts w files)).map fun (_, draft) => draft.plan.query)).outcome v =
      (.ok (f.located w schedule files, cache), later) ∧ later.scene = w.scene := by
  have hkeeps : ∀ q ∈ (planned (f.drafts w files)).map fun (_, draft) => draft.plan.query,
      (Locator.locate q f.probeLimit schedule).KeepsScene w := by
    intro q hq
    obtain ⟨folder, plan, hplan, rfl⟩ := exists_plan_of_mem_planned hq
    exact keepsScene_locate_of_plan hleaves hplan schedule
  have hsame : ∀ q ∈ (planned (f.drafts w files)).map fun (_, draft) => draft.plan.query,
      ∀ other ∈ (planned (f.drafts w files)).map fun (_, draft) => draft.plan.query,
      other.key = q.key → Locator.Cache.alone w f.probeLimit schedule other =
        Locator.Cache.alone w f.probeLimit schedule q := by
    intro q hq other hother hkey
    obtain ⟨folder, plan, hplan, rfl⟩ := exists_plan_of_mem_planned hq
    obtain ⟨folder', plan', hplan', rfl⟩ := exists_plan_of_mem_planned hother
    rw [query_eq_of_key_eq hplan' hplan hkey]
  obtain ⟨cache, later, hlocated, hlater⟩ :=
    Locator.Cache.outcome_locateAll hkeeps hsame hscene
  refine ⟨cache, later, ?_, hlater⟩
  rw [hlocated, located, List.map_map]
  rfl

section Finish

variable {f : Formatter} {w : World} {files : List Path}

/-- Settling a file of a batch changes the files of the batch only. -/
theorem agreesOff_settled {tree : FileTree} (hagrees : w.files.AgreesOff (places w files) tree)
    {file : Path} (hfile : file ∈ files) (write : Bool) (schedule : Schedule) :
    w.files.AgreesOff (places w files) (f.settled w write schedule tree file) := by
  rw [settled]
  split
  · rw [writtenBack]
    split
    · exact Contents.agreesOff_written hagrees (fun found hplace => ⟨file, hfile, hplace⟩) _
    · exact hagrees
  · exact hagrees

/-- Finishing the files of a batch gives every file what it gives the file by itself. -/
theorem outcome_finishAll (hfilter : f.FiltersFor w files) (write : Bool) (schedule : Schedule)
    {rest : List Path} (hrest : ∀ file ∈ rest, file ∈ files) {tree : FileTree}
    (hagrees : w.files.AgreesOff (places w files) tree) {v : World}
    (hscene : v.scene = (w.withFiles tree).scene) :
    ∃ later, (f.finishAll write schedule (f.drafts w rest) (f.located w schedule rest)).outcome v =
        (.ok (rest.map fun file => ⟨file, f.resultAlone w write schedule file⟩), later) ∧
      later.scene = (w.withFiles (rest.foldl (f.settled w write schedule) tree)).scene := by
  induction rest generalizing tree v with
  | nil => exact ⟨v, rfl, hscene⟩
  | cons file rest ih =>
      have hfile := hrest file (by simp)
      have hothers : ∀ other ∈ rest, other ∈ files := fun other hother =>
        hrest other (by simp [hother])
      have hsettled := agreesOff_settled (f := f) hagrees hfile write schedule
      have hdrafts : f.drafts w (file :: rest) =
        (file, ((f.draft file).outcome w).1) :: f.drafts w rest := rfl
      cases hdraft : ((f.draft file).outcome w).1 with
      | error failure =>
          have halone := alone_of_draft_eq_error hdraft schedule
          have hsame : f.settled w write schedule tree file = tree := settled_of_error halone _ _
          obtain ⟨later, hlater, hscene'⟩ := ih hothers hagrees hscene
          refine ⟨later, ?_, by simpa [hsame] using hscene'⟩
          rw [hdrafts, hdraft, located_cons_of_error hdraft, finishAll, outcome_bind, hlater,
            List.map_cons, resultAlone_of_error halone]
          rfl
      | ok draft =>
          obtain ⟨finished, hfinish, hfinished⟩ :=
            outcome_finish (printsAlike_of_agreesOff hfilter hagrees) hdraft hscene write
          obtain ⟨records, hcollecting⟩ := outcome_collecting file (f.finish file draft
            (Locator.Cache.alone w f.probeLimit schedule draft.plan.query) write schedule) v
          rw [Locator.Cache.alone, hfinish] at hcollecting
          obtain ⟨later, hlater, hscene'⟩ := ih hothers hsettled
            (v := finished.logging records) (by simpa using hfinished)
          refine ⟨later, ?_, by simpa using hscene'⟩
          rw [hdrafts, hdraft, located_cons_of_ok hdraft, finishAll, outcome_bind,
            Locator.Cache.alone, hcollecting]
          dsimp only
          rw [outcome_bind, hlater, List.map_cons]
          rfl

theorem agreesOff_foldl_settled {tree : FileTree}
    (hagrees : w.files.AgreesOff (places w files) tree) {rest : List Path}
    (hrest : ∀ file ∈ rest, file ∈ files) (write : Bool) (schedule : Schedule) :
    w.files.AgreesOff (places w files) (rest.foldl (f.settled w write schedule) tree) := by
  induction rest generalizing tree with
  | nil => exact hagrees
  | cons file rest ih =>
      exact ih (agreesOff_settled hagrees (hrest file (by simp)) write schedule)
        fun other hother => hrest other (by simp [hother])

/-- What stands at a place after a file was settled depends on what stood there. -/
theorem entryAt?_settled_congr {tree other : FileTree} {found : Location}
    (hsame : other.entryAt? found = tree.entryAt? found) (write : Bool) (schedule : Schedule)
    (file : Path) :
    (f.settled w write schedule other file).entryAt? found =
      (f.settled w write schedule tree file).entryAt? found := by
  unfold settled
  split
  · unfold writtenBack
    split
    · exact Contents.entryAt?_written_congr hsame w file _
    · exact hsame
  · exact hsame

/-- Settling a file leaves every other place as it is. -/
theorem entryAt?_settled_of_ne {found : Location} {file : Path}
    (hne : Contents.place w file ≠ .ok found) (tree : FileTree) (write : Bool)
    (schedule : Schedule) :
    (f.settled w write schedule tree file).entryAt? found = tree.entryAt? found := by
  rw [settled]
  split
  · exact entryAt?_writtenBack_of_ne hne _ _ write tree
  · rfl

/-- Files that are elsewhere can be left out without a difference at a place. -/
theorem entryAt?_foldl_settled_filter {found : Location} (keep : Path → Bool) {rest : List Path}
    (helsewhere : ∀ file ∈ rest, keep file = false → Contents.place w file ≠ .ok found)
    {tree other : FileTree} (hsame : other.entryAt? found = tree.entryAt? found) (write : Bool)
    (schedule : Schedule) :
    ((rest.filter keep).foldl (f.settled w write schedule) other).entryAt? found =
      (rest.foldl (f.settled w write schedule) tree).entryAt? found := by
  induction rest generalizing tree other with
  | nil => exact hsame
  | cons file rest ih =>
      have hrest : ∀ file ∈ rest, keep file = false → Contents.place w file ≠ .ok found :=
        fun file hfile => helsewhere file (by simp [hfile])
      cases hkeep : keep file with
      | true =>
          rw [List.filter_cons_of_pos hkeep, List.foldl_cons, List.foldl_cons]
          exact ih hrest (entryAt?_settled_congr hsame write schedule file)
      | false =>
          rw [List.filter_cons_of_neg (by simp [hkeep]), List.foldl_cons]
          exact ih hrest (hsame.trans
            (entryAt?_settled_of_ne (helsewhere file (by simp) hkeep) tree write schedule).symm)

end Finish

end FormatLauncher.Formatter
