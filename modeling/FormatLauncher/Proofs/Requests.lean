/-
# What requests start

A request for a text, a file, files that are changed in place or a workspace first only reads.  Then
it is prepared for a folder, and then the formatter is run.  So it asks at most one file for its
version, and it gets to the formatter only through a file that answered.
-/

import FormatLauncher.Proofs.FormatInPlace
import FormatLauncher.Proofs.Vouching

namespace FormatLauncher.Formatter

open Action

/-- A request for a text, a file, files that are changed in place, or a workspace. -/
inductive Request
  | text (text : String) (document : Option String)
  | file (file : Path) (write : Bool)
  | inPlace (files : List Path)
  | workspace (asked : Option String)

/-- Make a request; what it answers is left aside. -/
def Request.perform (f : Formatter) (schedule : Schedule) : Request → Action Unit
  | .text before document => (fun _ => ()) <$> f.formatText before document schedule
  | .file path write => (fun _ => ()) <$> f.formatFile path write schedule
  | .inPlace files => (fun _ => ()) <$> f.formatInPlace files schedule
  | .workspace asked => (fun _ => ()) <$> f.formatWorkspace asked schedule

/-- The folder that a request is planned for, and what stands after the arguments of the plan: the
mark of a filter, or the targets. -/
def Request.scope (f : Formatter) (w : World) :
    Request → Except Failure (Option Folder × List String)
  | .text _ document =>
    (f.workspace.folderFor w (document.map Path.parse)).map (·, [Execution.inputMark])
  | .file path _ =>
    (f.workspace.folderFor w (some (Path.parse path.text))).map (·, [Execution.inputMark])
  | .inPlace files => (f.workspace.folderFor w files.head?).map (·, files.map Path.text)
  | .workspace asked =>
    (f.workspaceRoot w asked).bind fun root =>
      (f.workspace.folderFor w (some (Path.ofLocation root))).map fun found =>
        let folder := rootFolder root found
        (some folder, [folder.place.text])

/-- What a request asks for. -/
def Request.Asks (f : Formatter) (w : World) (request : Request) (_ : Nat) (plan : Plan)
    (following : List String) : Prop :=
  ∃ folder, request.scope f w = .ok (folder, following) ∧ ((f.plan folder).outcome w).1 = .ok plan

/-- What a request comes to: only allowed deeds, and nothing but questions if the formatter is not
there. -/
def Performs {α : Type} (f : Formatter) (asked : Nat → Plan → List String → Prop) (w : World)
    (outcome : Except Failure α × World) : Prop :=
  ∃ deeds, Follows f asked w deeds outcome.2 ∧
    (∀ x, outcome.1 = .ok x → ∃ command, .format 0 command ∈ deeds) ∧
    ∀ failure, outcome.1 = .error failure → failure.IsNotInstalled →
      ∀ deed ∈ deeds, deed.file? = none

section Performs

variable {f : Formatter} {asked : Nat → Plan → List String → Prop} {w v : World} {α β : Type}

/-- Up to here nothing was done. -/
theorem Performs.of_error (h : Follows f asked w [] v) (failure : Failure) :
    Performs f asked w ((.error failure, v) : Except Failure α × World) :=
  ⟨[], h, by simp, by simp⟩

/-- A request goes on after it has read something, which it reads as at the start. -/
theorem Performs.bind_of_reads (h : Follows f asked w [] v) (hscene : v.scene = w.scene)
    {action : Action α} (hreads : action.Reads) {next : α → Action β}
    (hnext : ∀ x v', (action.outcome w).1 = .ok x → Follows f asked w [] v' →
      v'.scene = w.scene → Performs f asked w ((next x).outcome v')) :
    Performs f asked w ((action >>= next).outcome v) := by
  obtain ⟨records, hv⟩ := hreads.outcome_eq v
  have hsame := (hreads.ignoresHistory v w hscene).1
  rw [outcome_bind, hv]
  cases hresult : (action.outcome v).1 with
  | error failure => exact .of_error (h.log records) failure
  | ok x => exact hnext x _ (hsame.symm.trans hresult) (h.log records) (by simpa using hscene)

/-- A request that is prepared for a folder runs the formatter only if it is there. -/
theorem Performs.of_prepare (h : Follows f asked w [] v) (hscene : v.scene = w.scene)
    {folder : Option Folder} {following : List String}
    (hasked : ∀ plan, ((f.plan folder).outcome w).1 = .ok plan → asked 0 plan following)
    {next : Invocation → Action α}
    (hnext : ∀ deeds v' plan command, Follows f asked w deeds v' →
      .query command (some 0) ∈ deeds → asked 0 plan following →
        Formats f asked w deeds 0 ((next (plan.invocationOf command)).outcome v'))
    (schedule : Schedule) :
    Performs f asked w ((f.prepare folder schedule >>= next).outcome v) := by
  obtain ⟨asking, hasking, hprepare, hinvocation⟩ := h.prepare folder schedule
  rw [List.nil_append] at hprepare
  rw [outcome_bind]
  rcases houtcome : (f.prepare folder schedule).outcome v with ⟨failure | invocation, prepared⟩
  · rw [houtcome] at hprepare
    exact ⟨asking, hprepare, by simp, fun _ _ _ => hasking⟩
  · rw [houtcome] at hprepare hinvocation
    obtain ⟨plan, command, hplan, rfl, hvouched⟩ := hinvocation invocation rfl
    rw [((f.reads_plan folder).ignoresHistory v w hscene).1] at hplan
    obtain ⟨more, -, hfollows, hformats, hfails⟩ :=
      hnext asking prepared plan command hprepare hvouched (hasked plan hplan)
    refine ⟨asking ++ more, hfollows, ?_, fun failure hfailure hmissing =>
      absurd hmissing (hfails failure hfailure)⟩
    intro x hx
    obtain ⟨command, hcommand⟩ := hformats x hx
    exact ⟨command, by simp [hcommand]⟩

/-- Formatting a text. -/
theorem performs_formatText (h : Follows f asked w [] v) (hscene : v.scene = w.scene)
    {document : Option String}
    (hasked : ∀ folder plan, f.workspace.folderFor w (document.map Path.parse) = .ok folder →
      ((f.plan folder).outcome w).1 = .ok plan → asked 0 plan [Execution.inputMark])
    (text : String) (schedule : Schedule) :
    Performs f asked w ((f.formatText text document schedule).outcome v) := by
  refine .bind_of_reads h hscene (reads_announce _) fun _ _ _ h hscene => ?_
  refine .bind_of_reads h hscene (f.reads_folderFor _) fun folder _ hfolder h hscene => ?_
  rw [outcome_folderFor] at hfolder
  exact .of_prepare h hscene (fun plan hplan => hasked folder plan hfolder hplan)
    (fun _ _ _ _ h hvouched hasked => .asFilter h hvouched hasked text schedule) schedule

/-- Formatting a file. -/
theorem performs_formatFile (h : Follows f asked w [] v) (hscene : v.scene = w.scene) {file : Path}
    (hasked : ∀ folder plan, f.workspace.folderFor w (some (Path.parse file.text)) = .ok folder →
      ((f.plan folder).outcome w).1 = .ok plan → asked 0 plan [Execution.inputMark])
    (write : Bool) (schedule : Schedule) :
    Performs f asked w ((f.formatFile file write schedule).outcome v) := by
  rw [formatFile, outcome_get_bind, outcome_ofExcept_bind]
  cases readText v file with
  | error failure => exact .of_error h failure
  | ok before =>
      obtain ⟨deeds, hfollows, hformats, hmissing⟩ :=
        @performs_formatText _ _ _ _ h hscene (some file.text) hasked before schedule
      dsimp only
      rw [outcome_bind]
      rcases houtcome : (f.formatText before (some file.text) schedule).outcome v with
        ⟨failure | after, formatted⟩
      · rw [houtcome] at hfollows hmissing
        exact ⟨deeds, hfollows, by simp, fun cause hcause =>
          hmissing cause (congrArg Except.error (Except.error.inj hcause))⟩
      · rw [houtcome] at hfollows hformats
        obtain ⟨command, hcommand⟩ := hformats after rfl
        obtain ⟨more, -, hwritten, hfails⟩ := hfollows.writeBack hcommand file before after write
        exact ⟨deeds ++ more, hwritten, fun _ _ => ⟨command, by simp [hcommand]⟩,
          fun failure hfailure hmissing => absurd hmissing (hfails failure hfailure)⟩

/-- Formatting files in place. -/
theorem performs_formatInPlace (h : Follows f asked w [] v) (hscene : v.scene = w.scene)
    {files : List Path}
    (hasked : ∀ folder plan, f.workspace.folderFor w files.head? = .ok folder →
      ((f.plan folder).outcome w).1 = .ok plan → asked 0 plan (files.map Path.text))
    (schedule : Schedule) :
    Performs f asked w ((f.formatInPlace files schedule).outcome v) := by
  unfold formatInPlace
  cases files with
  | nil => exact .of_error h _
  | cons first rest =>
      refine .bind_of_reads h hscene (reads_announceAll (first :: rest)) fun _ _ _ h hscene => ?_
      refine .bind_of_reads h hscene (f.reads_folderFor _) fun folder _ hfolder h hscene => ?_
      rw [outcome_folderFor] at hfolder
      exact .of_prepare h hscene (fun plan hplan => hasked folder plan hfolder hplan)
        (fun _ _ _ _ h hvouched hasked => .inPlace h hvouched hasked schedule) schedule

/-- Formatting a workspace. -/
theorem performs_formatWorkspace (h : Follows f asked w [] v) (hscene : v.scene = w.scene)
    {root? : Option String}
    (hasked : ∀ root found plan, f.workspaceRoot w root? = .ok root →
      f.workspace.folderFor w (some (Path.ofLocation root)) = .ok found →
      ((f.plan (some (rootFolder root found))).outcome w).1 = .ok plan →
        asked 0 plan [(rootFolder root found).place.text])
    (schedule : Schedule) :
    Performs f asked w ((f.formatWorkspace root? schedule).outcome v) := by
  have hroot : f.workspaceRoot v root? = f.workspaceRoot w root? := by
    show f.workspaceRoot v.scene root? = f.workspaceRoot w.scene root?
    rw [hscene]
  rw [formatWorkspace, outcome_get_bind, outcome_ofExcept_bind, hroot]
  cases hfound : f.workspaceRoot w root? with
  | error failure => exact .of_error h failure
  | ok root =>
      dsimp only
      refine .bind_of_reads h hscene (f.reads_folderFor _) fun found _ hfolder h hscene => ?_
      rw [outcome_folderFor] at hfolder
      refine .bind_of_reads h hscene (reads_say _ _) fun _ _ _ h hscene => ?_
      exact .of_prepare h hscene (fun plan hplan => hasked root found plan hfound hfolder hplan)
        (fun _ _ _ _ h hvouched hasked => .inPlace h hvouched hasked schedule) schedule

/-- The answer of a request can be left aside. -/
theorem Performs.map {action : Action α} (h : Performs f asked w (action.outcome v)) (g : α → β) :
    Performs f asked w ((g <$> action).outcome v) := by
  obtain ⟨deeds, hfollows, hformats, hmissing⟩ := h
  rw [outcome_map]
  refine ⟨deeds, hfollows, ?_, fun failure hfailure =>
    hmissing failure (except_map_eq_error.mp hfailure)⟩
  intro y hy
  obtain ⟨x, hx, -⟩ := except_map_eq_ok.mp hy
  exact hformats x hx

/-- Every request runs only what it may. -/
theorem performs_request (f : Formatter) (request : Request) (schedule : Schedule) (w : World) :
    Performs f (request.Asks f w) w ((request.perform f schedule).outcome w) := by
  cases request with
  | text before document =>
      refine (performs_formatText .start rfl (fun folder plan hfolder hplan => ?_) before
        schedule).map _
      exact ⟨folder, by simp [Request.scope, hfolder, Except.map], hplan⟩
  | file path write =>
      refine (performs_formatFile .start rfl (fun folder plan hfolder hplan => ?_) write
        schedule).map _
      exact ⟨folder, by simp [Request.scope, hfolder, Except.map], hplan⟩
  | inPlace files =>
      refine (performs_formatInPlace .start rfl (fun folder plan hfolder hplan => ?_)
        schedule).map _
      exact ⟨folder, by simp [Request.scope, hfolder, Except.map], hplan⟩
  | workspace root? =>
      refine (performs_formatWorkspace .start rfl (fun root found plan hroot hfound hplan => ?_)
        schedule).map _
      exact ⟨_, by simp [Request.scope, hroot, hfound, Except.bind, Except.map], hplan⟩

end Performs

end FormatLauncher.Formatter
