/-
# Formatting a file is all or nothing

A request for a file either fails and leaves every file as it was, or it writes exactly the bytes
that the formatter printed, and only if they differ from the bytes of the file.  The comparison is
made on texts and the promise is about bytes; decoding loses nothing, so the two agree.  A write
that is refused changes nothing; only one that the storage breaks off leaves a file half written.
-/

import FormatLauncher.Proofs.Failing
import FormatLauncher.Proofs.Text.Utf8

namespace FormatLauncher.Formatter

open Action

/-- Run as a filter for a document, the formatter ends with success, and for this input it prints
this output. -/
def Prints (f : Formatter) (w : World) (document : Option Path) (input output : Text.Bytes) :
    Prop :=
  ∃ folder plan command ready finish,
    ((f.folderFor document).outcome w).1 = .ok folder ∧ f.Commands w folder plan command ∧
    Launch.start w command (plan.arguments ++ [Execution.inputMark])
      (plan.invocationOf command).directory = .ok ready ∧
    ready.finish? input w.files = some finish ∧ finish.code = 0 ∧ finish.output = output

/-- Formatting a text keeps the scene. -/
theorem keepsScene_formatText {f : Formatter} {s : World} (hleaves : f.LeavesFiles s)
    (text : String) (document : Option String) (schedule : Schedule) :
    (f.formatText text document schedule).KeepsScene s := by
  apply ((reads_announce _).keepsScene s).bind
  intro _ _ _ _
  apply ((f.reads_folderFor _).keepsScene s).bind
  intro folder _ _ _
  apply (keepsScene_prepare hleaves folder schedule).bind
  intro invocation w hscene hw
  obtain ⟨plan, command, hcommands, rfl, -⟩ := outcome_prepare_eq_ok (Prod.ext hw rfl)
  exact Execution.keepsScene_asFilter
    (hleaves folder plan command (hcommands.of_scene_eq hscene)).2 text

/-- A text that was formatted is what the formatter printed for it. -/
theorem prints_of_formatText_eq_ok {f : Formatter} {w : World} (hleaves : f.LeavesFiles w)
    {text after : String} {document : Option String} {schedule : Schedule}
    (h : ((f.formatText text document schedule).outcome w).1 = .ok after) :
    ∃ output, f.Prints w (document.map Path.parse) (Text.Utf8.encode text) output ∧
      Text.Utf8.decode output = .ok after := by
  -- Up to the run of the formatter every action keeps the scene, so all facts are about `w`.
  obtain ⟨_, announced, -, hscene₁, hrest⟩ :=
    ((reads_announce _).keepsScene w).outcome_bind_eq_ok rfl (Prod.ext h rfl)
  obtain ⟨folder, chosen, hchosen, hscene₂, hrest⟩ :=
    ((f.reads_folderFor _).keepsScene w).outcome_bind_eq_ok hscene₁ hrest
  obtain ⟨invocation, prepared, hprepared, hscene₃, hfilter⟩ :=
    (keepsScene_prepare hleaves folder schedule).outcome_bind_eq_ok hscene₂ hrest
  obtain ⟨plan, command, hcommands, rfl, -⟩ := outcome_prepare_eq_ok hprepared
  obtain ⟨ready, finish, hstart, hfinish, hcode, houtput⟩ :=
    Execution.asFilter_eq_ok (congrArg Prod.fst hfilter)
  refine ⟨finish.output, ⟨folder, plan, command, ready, finish, ?_, hcommands.of_scene_eq hscene₂,
    ?_, ?_, hcode, rfl⟩, houtput⟩
  · rw [← ((f.reads_folderFor _).ignoresHistory announced w hscene₁).1, hchosen]
  · rw [← Launch.start_eq_of_scene_eq hscene₃]
    exact hstart
  · rw [← World.files_eq_of_scene_eq hscene₃]
    exact hfinish

/-- What writing a text back comes to, if it differs and is to be written. -/
def resultBack (w : World) (file : Path) (before after : String) (write : Bool) :
    Except Failure Bool :=
  if after = before then .ok false
  else if write then (Contents.writing w file (Text.Utf8.encode after)).map fun _ => true
  else .ok true

/-- A tree after a text was written back, if it differs and is to be written. -/
def writtenBack (w : World) (file : Path) (before after : String) (write : Bool)
    (tree : FileTree) : FileTree :=
  if after ≠ before ∧ write = true then
    Contents.written w file (Text.Utf8.encode after) tree
  else tree

theorem entryAt?_writtenBack_of_ne {w : World} {file : Path} {other : Location}
    (hne : Contents.place w file ≠ .ok other) (before after : String) (write : Bool)
    (tree : FileTree) :
    (writtenBack w file before after write tree).entryAt? other = tree.entryAt? other := by
  rw [writtenBack]
  split
  · exact Contents.entryAt?_written_of_ne hne _ tree
  · rfl

/-- What writing back comes to, and what it leaves, can be told from any world of the same shape. -/
theorem outcome_writeBack {w v : World} {tree : FileTree} (hshape : w.files.SameShape tree)
    (hscene : v.scene = (w.withFiles tree).scene) (file : Path) (before after : String)
    (write : Bool) :
    ∃ later, (writeBack file before after write).outcome v =
        (resultBack w file before after write, later) ∧
      later.scene = (w.withFiles (writtenBack w file before after write tree)).scene := by
  unfold resultBack writtenBack
  by_cases hsame : after = before
  · exact ⟨v, by simp [writeBack, hsame], by simpa [hsame] using hscene⟩
  · cases write with
    | false =>
        refine ⟨v.logging [⟨.info, "Would reformat " ++ file.text⟩], ?_, ?_⟩
        · simp [writeBack, hsame, Except.map]
        · simpa using hscene
    | true =>
        have hfiles : v.files = tree := by
          simpa using World.files_eq_of_scene_eq hscene
        have hdirectory : v.directory = w.directory := by
          simpa using World.directory_eq_of_scene_eq hscene
        have hstorage : v.storage = w.storage := by
          simpa using World.storage_eq_of_scene_eq hscene
        have hwrite : Contents.write v file (Text.Utf8.encode after) =
            (Contents.writing w file (Text.Utf8.encode after),
              Contents.written w file (Text.Utf8.encode after) tree) := by
          rw [Contents.write_eq, hfiles,
            Contents.writing_of_sameShape (hfiles ▸ hshape) hdirectory hstorage,
            Contents.written_of_sameShape (hfiles ▸ hshape) hdirectory hstorage]
        have hlater := World.scene_withFiles_of_scene_eq hscene
          (Contents.written w file (Text.Utf8.encode after) tree)
        cases hresult : Contents.writing w file (Text.Utf8.encode after) with
        | error failure =>
            refine ⟨_, ?_, by simpa [hsame] using hlater⟩
            simp [writeBack, hsame, outcome_bind, hwrite, hresult, Except.map, World.withFiles]
        | ok _ =>
            refine ⟨(v.withFiles (Contents.written w file (Text.Utf8.encode after) tree)).logging
              [⟨.info, "Reformatted " ++ file.text⟩], ?_, by simpa [hsame] using hlater⟩
            simp [writeBack, hsame, outcome_bind, hwrite, hresult, Except.map, World.withFiles]

/-- Writing back comes to whether the texts differ, if what is to be written goes through. -/
theorem resultBack_eq_ok {w : World} {file : Path} {before after : String} {write changed : Bool} :
    resultBack w file before after write = .ok changed ↔
      changed = decide (after ≠ before) ∧
        (after ≠ before → write = true →
          Contents.writing w file (Text.Utf8.encode after) = .ok ()) := by
  unfold resultBack
  by_cases hsame : after = before
  · simp [hsame, eq_comm]
  · cases write with
    | false => simp [hsame, eq_comm]
    | true =>
        cases Contents.writing w file (Text.Utf8.encode after) <;>
          simp [hsame, Except.map, eq_comm]

/-- Writing back fails as writing does, for a text that differs and is to be written. -/
theorem resultBack_eq_error {w : World} {file : Path} {before after : String} {write : Bool}
    {failure : Failure} (h : resultBack w file before after write = .error failure) :
    after ≠ before ∧ write = true ∧
      Contents.writing w file (Text.Utf8.encode after) = .error failure := by
  unfold resultBack at h
  by_cases hsame : after = before
  · simp [hsame] at h
  · cases write with
    | false => simp [hsame] at h
    | true =>
        simp only [hsame, if_true, if_false] at h
        exact ⟨hsame, rfl, except_map_eq_error.mp h⟩

/-- What a file reads as after a text was written back to it. -/
theorem read_of_writtenBack {w other : World} (hopen : w.IsOpen) {file : Path}
    {original output : Text.Bytes} {before after : String} {write changed : Bool}
    (horiginal : Contents.read w file = .ok original)
    (houtput : Text.Utf8.decode output = .ok after)
    (hresult : resultBack w file before after write = .ok changed)
    (hscene : other.scene =
      (w.withFiles (writtenBack w file before after write w.files)).scene) :
    Contents.read other file = .ok (if changed && write then output else original) := by
  have hfiles : other.files = writtenBack w file before after write w.files := by
    simpa using World.files_eq_of_scene_eq hscene
  have hdirectory : other.directory = w.directory := by
    simpa using World.directory_eq_of_scene_eq hscene
  have hstorage : other.storage = w.storage := by
    simpa using World.storage_eq_of_scene_eq hscene
  obtain ⟨rfl, hwriting⟩ := resultBack_eq_ok.mp hresult
  by_cases hchange : after ≠ before ∧ write = true
  · obtain ⟨place, hplace, hwritten⟩ :=
      Contents.written_of_writing_eq_ok (hwriting hchange.1 hchange.2)
    obtain ⟨found, hfound, -, hreadable⟩ := Contents.exists_place_of_read horiginal
    obtain rfl : place = found := Except.ok.inj (hplace.symm.trans hfound)
    rw [writtenBack, if_pos hchange, hwritten, Text.Utf8.encode_of_decode houtput] at hfiles
    rw [Contents.read_of_overwrite hopen hplace hreadable hfiles hdirectory hstorage]
    simp [hchange]
  · rw [writtenBack, if_neg hchange] at hfiles
    rw [Contents.read_congr hfiles hdirectory hstorage, horiginal]
    simp [hchange]

/-- A program that prints its input backwards. -/
def backwards : Program := fun call tree => some ⟨0, call.input.reverse, [], tree⟩

/-- A world with a file and a formatter that prints backwards. -/
def backwardsWorld : World where
  files := ⟨[(["bin"], .directory), (["bin", "sqlfmt"], .program 0 0o755),
    (["a.sql"], .file [0x61, 0x62] 0o644)]⟩
  programs := fun _ => backwards
  environment := []
  directory := []
  log := []
  runs := []

/-- The formatter of the search path, with no limits. -/
def unlimited : Formatter where
  settings := { Settings.default with probeLimit := none }
  workspace := ⟨none, []⟩
  interpreters := .given []
  environment := none
  tool := .sqlfmt

end FormatLauncher.Formatter
