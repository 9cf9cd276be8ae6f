/-
# The reading half of a request

Everything a request does before it starts a program, and between two programs, only reads: finding
interpreters, expanding placeholders, picking and checking a command, choosing a folder, planning
and announcing a file.
-/

import FormatLauncher.Formatter.Batch
import FormatLauncher.Proofs.Action

namespace FormatLauncher

open Action

@[simp]
theorem Contents.firstPresent_scene (w : World) (paths : List Path) :
    firstPresent w.scene paths = firstPresent w paths := by
  induction paths with
  | nil => rfl
  | cons p rest ih => simp [firstPresent, ih]

theorem Interpreter.reads_discover (folder : Option Path) (environment : Bindings) :
    (discover folder environment).Reads := by
  rw [discover]
  apply reads_get_bind (fun _ => by simp)
  intro w
  apply (reads_ofExcept _).bind
  intro active
  split
  · exact (reads_say _ _).bind fun _ => reads_pure _
  · apply (reads_ofExcept _).bind
    intro inside
    split
    · exact (reads_say _ _).bind fun _ => reads_pure _
    · exact reads_pure _

theorem Interpreter.Source.reads_find (source : Source) (folder : Option Path)
    (environment : Bindings) : (source.find folder environment).Reads := by
  cases source with
  | discovered => exact reads_discover folder environment
  | given paths => exact reads_pure paths

namespace Placeholder

theorem reads_resolve (values : List String) (context : Context)
    (interpreter : Option (List String)) (strict : Bool) :
    (resolve values context interpreter strict).Reads := by
  unfold resolve Expansion.settle
  split
  · exact reads_pure _
  · split
    · exact (reads_throw _).bind fun _ => (reads_say _ _).bind fun _ => reads_pure _
    · exact (reads_say _ _).bind fun _ => reads_pure _

/-- A text with nothing left over is settled strictly as it is leniently. -/
theorem Expansion.settle_of_known {expansion : Expansion} {strict : Bool}
    (hknown : strict = true → expansion.leftovers = []) :
    expansion.settle strict = expansion.settle false := by
  cases strict with
  | false => rfl
  | true => simp [Expansion.settle, hknown rfl]

/-- Settling succeeds if nothing is left over or nobody insists. -/
theorem Expansion.answers_settle {expansion : Expansion} {strict : Bool}
    (hknown : strict = true → expansion.leftovers = []) :
    (expansion.settle strict).Answers (.ok expansion.texts) := by
  rw [settle_of_known hknown, settle]
  split
  · exact answers_pure _
  · exact (answers_say _ _).bind (answers_pure _)

end Placeholder

namespace Locator

theorem reads_sibling (interpreter : Option (List String)) (tool : Tool) : (do
    if let some sibling := findSibling .slash (← get) (interpreter.getD []) tool.binary then
      Action.say .debug ("Found " ++ tool.binary ++ " next to interpreter: " ++ sibling)
      return sibling
    return tool.binary : Action String).Reads := by
  apply reads_get_bind (fun _ => rfl)
  intro w
  split
  · exact (reads_say _ _).bind fun _ => reads_pure _
  · exact reads_pure _

theorem reads_candidate (configured : Option String) (context : Placeholder.Context)
    (interpreter : Option (List String)) (tool : Tool) (strict : Bool) :
    (candidate configured context interpreter tool strict).Reads := by
  rw [candidate]
  split
  · apply (Placeholder.reads_resolve _ _ _ _).bind
    intro texts
    split
    · exact reads_pure _
    · exact reads_sibling _ _
  · exact reads_sibling _ _

theorem reads_check (convention : Spelling.Convention) (command : String) :
    (check convention command).Reads := by
  rw [check]
  apply reads_get_bind (fun _ => rfl)
  intro w
  dsimp only
  split
  · exact (reads_say _ _).bind fun _ => reads_pure _
  · exact (reads_ofExcept _).bind fun place => (reads_sayAll _).bind fun _ => reads_pure _

theorem reads_inspect (q : Query) : (inspect q).Reads :=
  (reads_candidate _ _ _ _ _).bind fun command => reads_check .slash command

theorem reads_startProbe (path : String) (arguments : List String) :
    (startProbe path arguments).Reads := by
  rw [startProbe]
  apply reads_get_bind (fun _ => rfl)
  intro w
  split
  · exact reads_throw _
  · exact (reads_say _ _).bind fun _ => reads_pure _
  · exact reads_pure _

end Locator

namespace Formatter

theorem reads_surroundings (f : Formatter) (folder : Option Folder) :
    (f.surroundings folder).Reads := by
  rw [surroundings]
  apply reads_get_bind (fun _ => rfl)
  intro w
  exact (Interpreter.Source.reads_find _ _ _).bind fun interpreters =>
    (reads_ofExcept _).bind fun current => reads_pure _

theorem reads_plan (f : Formatter) (folder : Option Folder) : (f.plan folder).Reads :=
  (f.reads_surroundings folder).bind fun _ =>
    (Placeholder.reads_resolve _ _ _ _).bind fun _ => reads_pure _

theorem reads_invocation (f : Formatter) (plan : Plan) (resolved : Locator.Resolved) :
    (f.invocation plan resolved).Reads := by
  rw [invocation]
  split
  · exact reads_pure _
  · exact (reads_say _ _).bind fun _ => reads_throw _

theorem reads_announce (name : String) : (announce name).Reads := reads_say _ _

theorem reads_folderFor (f : Formatter) (document : Option Path) :
    (f.folderFor document).Reads :=
  reads_get_bind (fun _ => rfl) fun _ => reads_ofExcept _

theorem reads_draft (f : Formatter) (file : Path) : (f.draft file).Reads := by
  rw [draft]
  apply reads_get_bind (fun _ => rfl)
  intro w
  exact (reads_ofExcept _).bind fun text => (reads_announce _).bind fun _ =>
    (f.reads_folderFor _).bind fun folder => (f.reads_plan folder).bind fun _ => reads_pure _

end Formatter

end FormatLauncher
