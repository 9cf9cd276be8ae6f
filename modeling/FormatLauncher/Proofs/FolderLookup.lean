/-
# The folder of a document and of the file that is read

The folder of a document is looked up for the place that its path expands to: it is the first of
the deepest that contain this place, and its name stands for its place in the table of folders.  The
file itself is opened by the path as it is.  Both are the same place, unless the path starts with a
tilde: then the folder is looked up below the home directory, and the file is opened below a
directory that has a tilde for its name.
-/

import FormatLauncher.Proofs.FileTree.Resolving
import FormatLauncher.Proofs.OwnFolder
import FormatLauncher.Proofs.Pieces

namespace FormatLauncher

theorem Location.contains_iff {folder place : Location} :
    folder.contains place = true ↔ folder <+: place :=
  List.isPrefixOf_iff_prefix

namespace Workspace

variable {workspace : Workspace} {w : World} {document : Path} {place target : Location}

/-! ## The deepest folder -/

/-- Where no two named folders have one name, no two of all folders have: the root stands under its
own name only if that is not taken. -/
theorem nodup_name_allFolders (honce : (workspace.folders.map Folder.name).Nodup) :
    (workspace.allFolders.map Folder.name).Nodup := by
  cases hroot : workspace.root with
  | none => rwa [allFolders_of_no_root hroot]
  | some root =>
      rw [allFolders_of_root hroot]
      split
      · exact honce
      · next hfree =>
          rw [List.map_append, List.map_singleton, ← List.concat_eq_append, List.nodup_concat]
          refine ⟨fun htaken => ?_, honce⟩
          obtain ⟨folder, hfolder, hname⟩ := List.mem_map.mp htaken
          exact hfree ⟨folder, hfolder, .inr hname⟩

/-- The table of folders has the place of a folder under its name. -/
theorem get?_folderTexts (honce : (workspace.folders.map Folder.name).Nodup) {folder : Folder}
    (hfolder : folder ∈ workspace.allFolders) :
    workspace.folderTexts.get? folder.name = some folder.place.text := by
  have hnames : (workspace.folderTexts.map Prod.fst).Nodup := by
    simpa [folderTexts, Function.comp_def] using nodup_name_allFolders honce
  exact (Bindings.get?_eq_some_iff hnames).mpr (List.mem_map_of_mem hfolder)

/-- What was found for a place suits it: it is one of all folders and contains the place, or it is
none, and no folder contains the place. -/
structure Suits (workspace : Workspace) (place : Location) (found : Option Folder) : Prop where
  contains : ∀ folder ∈ found, folder ∈ workspace.allFolders ∧ folder.place <+: place
  none : found = none → ∀ folder ∈ workspace.allFolders, ¬folder.place <+: place

theorem folderAt_eq_none_iff_not_prefix :
    workspace.folderAt place = none ↔ ∀ folder ∈ workspace.allFolders, ¬folder.place <+: place := by
  simp only [folderAt_eq_none_iff, ← Location.contains_iff, Bool.not_eq_true]

/-- The folder of a place suits it. -/
theorem suits_folderAt (workspace : Workspace) (place : Location) :
    workspace.Suits place (workspace.folderAt place) where
  contains _ hfolder := (contains_of_folderAt hfolder).imp_right Location.contains_iff.mp
  none := folderAt_eq_none_iff_not_prefix.mp

/-- The folder of one place suits another if it contains that one too, or neither has a folder. -/
theorem suits_folderAt_iff :
    workspace.Suits place (workspace.folderAt target) ↔
      (∀ folder ∈ workspace.folderAt target, folder.place <+: place) ∧
        (workspace.folderAt target = none → workspace.folderAt place = none) := by
  constructor
  · exact fun h => ⟨fun folder hfolder => (h.contains folder hfolder).2,
      fun hnone => folderAt_eq_none_iff_not_prefix.mpr (h.none hnone)⟩
  · rintro ⟨hcontains, hnone⟩
    exact ⟨fun folder hfolder => ⟨(contains_of_folderAt hfolder).1, hcontains folder hfolder⟩,
      fun h => folderAt_eq_none_iff_not_prefix.mp (hnone h)⟩

/-- The folder of a document is the first of the deepest that contain the place it expands to: none
exactly if no folder contains that place, and else one that contains it, deeper than those before it
that do and as deep as all that do.  Its name stands for its place in the table of folders. -/
theorem folderFor_is_first_deepest (honce : (workspace.folders.map Folder.name).Nodup)
    (hexpand : w.files.expand w.environment w.directory document = .ok target) :
    ∃ found, workspace.folderFor w (some document) = .ok found ∧
      (found = none ↔ ∀ folder ∈ workspace.allFolders, ¬folder.place <+: target) ∧
      ∀ folder ∈ found, folder.place <+: target ∧
        (∀ other ∈ workspace.allFolders, other.place <+: target →
          other.place.length ≤ folder.place.length) ∧
        (∃ before after, workspace.allFolders = before ++ folder :: after ∧
          ∀ other ∈ before, other.place <+: target →
            other.place.length < folder.place.length) ∧
        workspace.folderTexts.get? folder.name = some folder.place.text := by
  refine ⟨_, folderFor_of_expand hexpand, folderAt_eq_none_iff_not_prefix, ?_⟩
  intro folder hfound
  have hmem := (contains_of_folderAt hfound).1
  have hchoice := isChoice_folderAt workspace target
  rw [hfound] at hchoice
  have hdeepest : ∀ other ∈ workspace.allFolders, other.place <+: target →
      other.place.length ≤ folder.place.length := fun _ hother hinside =>
    hchoice.length_le hother (Location.contains_iff.mpr hinside)
  cases hchoice with
  | some before after hsplit hcontains hbefore _ =>
      simp only [Location.contains_iff] at hcontains hbefore
      exact ⟨hcontains, hdeepest, ⟨before, after, hsplit, hbefore⟩,
        get?_folderTexts honce hmem⟩

/-- A root with two folders at one place below it. -/
def nested : Workspace := ⟨some ["p"], [⟨"b", ["p", "q"]⟩, ⟨"a", ["p", "q"]⟩]⟩

/-- Of a root and two folders at one place below it the first folder is found. -/
theorem folderFor_is_first_deepest_nested :
    nested.folderFor ⟨⟨[]⟩, fun _ _ _ => none, [], [], [], [], .ample⟩
        (some ⟨.slash, ["p", "r", "..", "q", "x.sql"]⟩) = .ok (some ⟨"b", ["p", "q"]⟩) ∧
      nested.folderTexts.get? "b" = some "/p/q" := by
  have honce : (nested.folders.map Folder.name).Nodup := by decide
  have hexpand : (⟨[]⟩ : FileTree).expand [] [] ⟨.slash, ["p", "r", "..", "q", "x.sql"]⟩ =
      .ok ["p", "q", "x.sql"] := by rfl
  have hfound : nested.folderAt ["p", "q", "x.sql"] = some ⟨"b", ["p", "q"]⟩ := by decide
  obtain ⟨found, hfolder, -, hdeepest⟩ := folderFor_is_first_deepest
    (w := ⟨⟨[]⟩, fun _ _ _ => none, [], [], [], [], .ample⟩) honce hexpand
  obtain rfl : nested.folderAt ["p", "q", "x.sql"] = found :=
    Except.ok.inj ((folderFor_of_expand hexpand).symm.trans hfolder)
  rw [hfound] at hfolder hdeepest
  exact ⟨hfolder, (hdeepest _ rfl).2.2.2⟩

end Workspace

/-! ## The file that is read -/

/-- Where a file is found, the names of its path lead. -/
theorem Contents.leads_of_place {w : World} {p : Path} {place : Location}
    (hnames : ∀ name ∈ p.names, Path.IsName name) (h : Contents.place w p = .ok place) :
    Spelling.hasNul p.text = false ∧ ∃ n, w.files.Leads n (p.origin w.directory) p.names place := by
  have hstart : FileTree.startOf w.directory p.text = p.origin w.directory := by
    rw [FileTree.startOf, Path.isAbsolute_parse_text hnames, Path.origin]
  obtain ⟨hnul, hwalk⟩ : Spelling.hasNul p.text = false ∧
      w.files.walk w.directory p.text = .ok place := by
    rw [Contents.place_eq] at h
    split at h
    · cases h
    · next hnul =>
        refine ⟨Bool.eq_false_of_not_eq_true hnul, ?_⟩
        split at h
        · cases h
        · next found hwalk =>
            split at h
            · cases h
            · split at h
              · cases h
              · rw [hwalk, Except.ok.inj h]
  rw [FileTree.walk, if_neg p.text_ne_empty] at hwalk
  split at hwalk
  · cases hwalk
  · obtain ⟨n, hleads⟩ :=
      FileTree.exists_leads_of_walkFrom (fun _ => FileTree.ne_empty_of_mem_steps) hwalk
    rw [hstart, Path.steps_text hnames] at hleads
    refine ⟨hnul, n, ?_⟩
    split at hleads
    · next hempty =>
        -- A path without names is spelled with a dot, which stays.
        rw [FileTree.leads_cons_iff, if_pos (.inr rfl)] at hleads
        rwa [hempty]
    · exact hleads

/-- A path that starts with no tilde expands to the place of the file that it names, unless the
current directory is lost and the path depends on it. -/
theorem Contents.expand_of_place {w : World} (hcurrent : w.files.IsLinkFree w.directory) {p : Path}
    (hnames : ∀ name ∈ p.names, Path.IsName name) (hhome : ¬p.StartsAtHome) {place : Location}
    (h : Contents.place w p = .ok place) :
    w.files.expand w.environment w.directory p = .ok place ∨
      w.directory.isLost = true ∧
        w.files.expand w.environment w.directory p = .error (.system .noCurrentDirectory) := by
  obtain ⟨hnul, n, hleads⟩ := leads_of_place hnames h
  rw [FileTree.expand_of_leads (Path.expandHome_of_not_startsAtHome hhome) hcurrent
    (fun name hname => (hnames name hname).2.2) hleads, Path.any_hasNul_of_text hnames hnul]
  cases hlost : w.directory.isLost with
  | false => exact .inl rfl
  | true =>
      cases (w.files.stopOf w.directory p).way.isAbsolute with
      | false => exact .inr ⟨rfl, rfl⟩
      | true => exact .inl rfl

namespace Formatter

/-- The folder of a file that is read.  The file is at a link-free place.  If its path starts with
no tilde, the folder of the request is that of this place, so it contains the file, or no folder
does; only from a lost current directory the lookup may fail.  If the path starts with a tilde, the
folder is that of the place in the home directory, and it suits the file exactly if it contains the
file too, or neither place has a folder.  The formatter is run for the folder of the request. -/
theorem folder_of_read_file {f : Formatter} {w : World}
    (hcurrent : w.files.IsLinkFree w.directory) {name : String} {bytes : Text.Bytes}
    (hread : Contents.read w (Path.parse name) = .ok bytes) :
    let file := Path.parse name
    let folder := f.workspace.folderFor w (some file)
    ∃ place, Contents.place w file = .ok place ∧
      (∀ n target, w.files.link? (place.take n) ≠ some target) ∧
      (¬file.StartsAtHome →
        (∃ found, folder = .ok found ∧ f.workspace.Suits place found) ∨
          w.directory.isLost = true ∧ folder = .error (.system .noCurrentDirectory)) ∧
      (file.StartsAtHome → ∀ target,
        w.files.expand w.environment w.directory file = .ok target →
        ∃ found, folder = .ok found ∧
          (f.workspace.Suits place found ↔ (∀ kept ∈ found, kept.place <+: place) ∧
            (found = none → f.workspace.folderAt place = none))) ∧
      ∀ write schedule changed,
        ((f.formatFile file write schedule).outcome w).1 = .ok changed →
        ∃ found query run, folder = .ok found ∧
          ((f.formatFile file write schedule).outcome w).2.runs = w.runs ++ [query, run] ∧
          f.RunFor w schedule found [Execution.inputMark] run := by
  intro file folder
  have hnames : ∀ name ∈ file.names, Path.IsName name := fun _ => Path.isName_of_mem_parse
  obtain ⟨place, hplace, -⟩ : ∃ place, Contents.place w file = .ok place ∧ _ :=
    Contents.exists_place_of_read hread
  obtain ⟨-, n, hleads⟩ := Contents.leads_of_place hnames hplace
  have hfree := hleads.isLinkFree (hcurrent.origin file) fun name hname => (hnames name hname).2.2
  refine ⟨place, hplace, fun n target hlink => ?_, fun hhome => ?_, fun _ target hexpand => ?_,
    fun write schedule changed hchanged => runFor_formatFile hchanged⟩
  · exact hfree.free n target (FileTree.link?_eq_some_iff.mp hlink)
  · obtain hexpand | ⟨hlost, hexpand⟩ :=
      Contents.expand_of_place hcurrent hnames hhome hplace
    · exact .inl ⟨_, Workspace.folderFor_of_expand hexpand, f.workspace.suits_folderAt place⟩
    · exact .inr ⟨hlost, by simp [folder, Workspace.folderFor, hexpand]⟩
  · exact ⟨_, Workspace.folderFor_of_expand hexpand, Workspace.suits_folderAt_iff⟩

/-- A world with a home directory, and a file below a directory that has a tilde for its name. -/
def tildeWorld : World where
  files := ⟨[(["h"], .directory), (["w"], .directory), (["w", "sqlfmt"], .program 0 0o755),
    (["w", "~"], .directory), (["w", "~", "a.sql"], .file [] 0o644)]⟩
  programs := fun _ _ tree => some ⟨0, [], [], tree⟩
  environment := [("HOME", "/h")]
  directory := ["w"]
  log := []
  runs := []

/-- The formatter of the world, with no limits; the directory with the tilde is the workspace. -/
def tildewise : Formatter where
  settings := { Settings.default with path := some "/w/sqlfmt", probeLimit := none }
  workspace := ⟨some ["w", "~"], []⟩
  interpreters := .given []
  environment := none
  tool := .sqlfmt

/-- A file that is read in the workspace has no folder if it is spelled with a tilde at the start,
though the workspace contains it. -/
theorem folder_of_read_file_tilde :
    Contents.place tildeWorld (Path.parse "./~/a.sql") = .ok ["w", "~", "a.sql"] ∧
      tildewise.workspace.folderFor tildeWorld (some (Path.parse "./~/a.sql")) = .ok none ∧
      ¬tildewise.workspace.Suits ["w", "~", "a.sql"] none ∧
      ∃ query run,
        ((tildewise.formatFile (Path.parse "./~/a.sql") true .quiet).outcome tildeWorld).2.runs =
          [query, run] ∧
        tildewise.RunFor tildeWorld .quiet none [Execution.inputMark] run := by
  have hlinks : tildeWorld.files.linkCount = 0 := by decide
  have hcurrent : tildeWorld.files.IsLinkFree tildeWorld.directory := by
    refine ⟨FileTree.freeOfLinks_of_linkCount hlinks _ _, ?_⟩
    unfold Path.IsName
    decide
  have hread : Contents.read tildeWorld (Path.parse "./~/a.sql") = .ok [] := by decide +kernel
  have hexpand : tildeWorld.files.expand tildeWorld.environment tildeWorld.directory
      (Path.parse "./~/a.sql") = .ok ["h", "a.sql"] := by decide +kernel
  have hnone : tildewise.workspace.folderAt ["h", "a.sql"] = none := by decide
  have hsome : tildewise.workspace.folderAt ["w", "~", "a.sql"] ≠ none := by decide
  have hhome : (Path.parse "./~/a.sql").StartsAtHome := ⟨by decide, "~", by decide, by decide⟩
  have hchanged : ((tildewise.formatFile (Path.parse "./~/a.sql") true .quiet).outcome
      tildeWorld).1 = .ok false := by decide +kernel
  obtain ⟨place, hplace, -, -, htilde, hrun⟩ := folder_of_read_file (f := tildewise) hcurrent hread
  have hopened : Contents.place tildeWorld (Path.parse "./~/a.sql") =
      .ok ["w", "~", "a.sql"] := by decide +kernel
  obtain rfl : ["w", "~", "a.sql"] = place := Except.ok.inj (hopened.symm.trans hplace)
  obtain ⟨found, hfound, hsuits⟩ := htilde hhome _ hexpand
  obtain rfl : none = found := by
    rw [← hnone]
    exact Except.ok.inj ((Workspace.folderFor_of_expand hexpand).symm.trans hfound)
  refine ⟨hopened, hfound, fun h => hsome ((hsuits.mp h).2 rfl), ?_⟩
  obtain ⟨found', query, run, hfound', hruns, hfor⟩ := hrun true .quiet _ hchanged
  obtain rfl : none = found' := Except.ok.inj (hfound.symm.trans hfound')
  exact ⟨query, run, hruns, hfor⟩

end Formatter

end FormatLauncher
