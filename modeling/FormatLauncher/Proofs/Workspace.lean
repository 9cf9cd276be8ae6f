/-
# The folders that a workspace keeps

A workspace keeps its named folders, and it keeps its root unless the root is hidden: a named folder
elsewhere has the root's own name, and no named folder is at the root.  The folder of a place is the
first of the deepest that contain it.  So a document below the root is without a folder exactly if
the root is hidden and no named folder contains the document.
-/

import FormatLauncher.Workspace

namespace FormatLauncher.Workspace

/-! ## All folders -/

/-- A named folder elsewhere has the root's own name, and no named folder is at the root. -/
def HidesRoot (workspace : Workspace) : Prop :=
  ∃ root ∈ workspace.root, (∀ folder ∈ workspace.folders, folder.place ≠ root) ∧
    ∃ folder ∈ workspace.folders, folder.name = rootName root

instance (workspace : Workspace) : Decidable workspace.HidesRoot :=
  inferInstanceAs (Decidable (∃ root ∈ workspace.root,
    (∀ folder ∈ workspace.folders, folder.place ≠ root) ∧
      ∃ folder ∈ workspace.folders, folder.name = rootName root))

theorem allFolders_of_no_root {workspace : Workspace} (hroot : workspace.root = none) :
    workspace.allFolders = workspace.folders := by
  simp [allFolders, hroot]

/-- The root stands behind the named folders, unless one of them is in its place or has its name. -/
theorem allFolders_of_root {workspace : Workspace} {root : Location}
    (hroot : workspace.root = some root) :
    workspace.allFolders =
      if ∃ folder ∈ workspace.folders, folder.place = root ∨ folder.name = rootName root then
        workspace.folders
      else workspace.folders ++ [⟨rootName root, root⟩] := by
  simp [allFolders, hroot]

/-- Named folders are kept. -/
theorem mem_allFolders_of_mem {workspace : Workspace} {folder : Folder}
    (h : folder ∈ workspace.folders) : folder ∈ workspace.allFolders := by
  cases hroot : workspace.root with
  | none => rwa [allFolders_of_no_root hroot]
  | some root =>
      rw [allFolders_of_root hroot]
      split
      · exact h
      · exact List.mem_append_left _ h

/-- A hidden root leaves the named folders alone. -/
theorem allFolders_of_hidesRoot {workspace : Workspace} (h : workspace.HidesRoot) :
    workspace.allFolders = workspace.folders := by
  obtain ⟨root, hroot, -, folder, hfolder, hname⟩ := h
  rw [allFolders_of_root hroot, if_pos ⟨folder, hfolder, .inr hname⟩]

/-- Some folder is at the root exactly if the root is not hidden. -/
theorem exists_mem_allFolders_iff {workspace : Workspace} {root : Location}
    (hroot : workspace.root = some root) :
    (∃ folder ∈ workspace.allFolders, folder.place = root) ↔ ¬workspace.HidesRoot := by
  constructor
  · rintro ⟨folder, hfolder, hplace⟩ hhides
    rw [allFolders_of_hidesRoot hhides] at hfolder
    obtain ⟨root', hroot', helsewhere, -⟩ := hhides
    obtain rfl : root = root' := Option.some.inj (hroot.symm.trans hroot')
    exact helsewhere folder hfolder hplace
  · intro hshown
    by_cases hnamed : ∃ folder ∈ workspace.folders, folder.place = root
    · obtain ⟨folder, hfolder, hplace⟩ := hnamed
      exact ⟨folder, mem_allFolders_of_mem hfolder, hplace⟩
    · have helsewhere : ∀ folder ∈ workspace.folders, folder.place ≠ root :=
        fun folder hfolder hplace => hnamed ⟨folder, hfolder, hplace⟩
      have hfree : ¬∃ folder ∈ workspace.folders,
          folder.place = root ∨ folder.name = rootName root := by
        rintro ⟨folder, hfolder, hplace | hname⟩
        · exact helsewhere folder hfolder hplace
        · exact hshown ⟨root, hroot, helsewhere, folder, hfolder, hname⟩
      rw [allFolders_of_root hroot, if_neg hfree]
      exact ⟨_, List.mem_append_right _ (List.mem_singleton_self _), rfl⟩

/-- Whatever is kept is a named folder or at the root. -/
theorem mem_folders_or_root_of_mem {workspace : Workspace} {folder : Folder}
    (h : folder ∈ workspace.allFolders) :
    folder ∈ workspace.folders ∨ workspace.root = some folder.place := by
  cases hroot : workspace.root with
  | none => exact .inl (allFolders_of_no_root hroot ▸ h)
  | some root =>
      rw [allFolders_of_root hroot] at h
      split at h
      · exact .inl h
      · obtain hnamed | hlast := List.mem_append.mp h
        · exact .inl hnamed
        · obtain rfl := List.mem_singleton.mp hlast
          exact .inr rfl

/-- The places that are kept are those of the named folders and the root, exactly if the root is not
hidden. -/
theorem places_allFolders_iff (workspace : Workspace) :
    (∀ place, place ∈ workspace.allFolders.map Folder.place ↔
        place ∈ workspace.folders.map Folder.place ∨ workspace.root = some place) ↔
      ¬workspace.HidesRoot := by
  constructor
  · rintro hplaces ⟨root, hroot, hhides⟩
    obtain ⟨folder, hfolder, hplace⟩ := List.mem_map.mp ((hplaces root).mpr (.inr hroot))
    exact (exists_mem_allFolders_iff hroot).mp ⟨folder, hfolder, hplace⟩ ⟨root, hroot, hhides⟩
  · intro hshown place
    constructor
    · intro hplace
      obtain ⟨folder, hfolder, rfl⟩ := List.mem_map.mp hplace
      exact (mem_folders_or_root_of_mem hfolder).imp_left (List.mem_map_of_mem (f := Folder.place))
    · rintro (hnamed | hroot)
      · obtain ⟨folder, hfolder, rfl⟩ := List.mem_map.mp hnamed
        exact List.mem_map_of_mem (mem_allFolders_of_mem hfolder)
      · obtain ⟨folder, hfolder, rfl⟩ := (exists_mem_allFolders_iff hroot).mpr hshown
        exact List.mem_map_of_mem hfolder

/-! ## The folder of a place -/

/-- What some folders have for a place: the first of the deepest that contain it, and none if none
contains it. -/
inductive IsChoice (target : Location) (folders : List Folder) : Option Folder → Prop
  | none (houtside : ∀ folder ∈ folders, folder.place.contains target = false) :
      IsChoice target folders none
  | some (before after : List Folder) {kept : Folder} (hsplit : folders = before ++ kept :: after)
      (hcontains : kept.place.contains target = true)
      (hbefore : ∀ folder ∈ before, folder.place.contains target = true →
        folder.place.length < kept.place.length)
      (hafter : ∀ folder ∈ after, folder.place.contains target = true →
        folder.place.length ≤ kept.place.length) :
      IsChoice target folders (some kept)

/-- A choice for no folder at all. -/
theorem isChoice_nil (target : Location) : IsChoice target [] none := .none (by simp)

/-- What is chosen is as deep as all that contain the place. -/
theorem IsChoice.length_le {target : Location} {folders : List Folder} {kept other : Folder}
    (h : IsChoice target folders (Option.some kept)) (hother : other ∈ folders)
    (hinside : other.place.contains target = true) :
    other.place.length ≤ kept.place.length := by
  cases h with
  | some before after hsplit hcontains hbefore hafter =>
      rw [hsplit] at hother
      obtain hother | hother := List.mem_append.mp hother
      · exact Nat.le_of_lt (hbefore other hother hinside)
      · obtain rfl | hother := List.mem_cons.mp hother
        · exact Nat.le_refl _
        · exact hafter other hother hinside

/-- One more folder takes over exactly if it contains the place and is deeper. -/
theorem IsChoice.keepDeeper {target : Location} {seen : List Folder} {best : Option Folder}
    (h : IsChoice target seen best) (folder : Folder) :
    IsChoice target (seen ++ [folder]) (keepDeeper target best folder) := by
  unfold Workspace.keepDeeper
  cases hfolder : folder.place.contains target with
  | false =>
      cases h with
      | none houtside => exact .none (by simpa [or_imp, forall_and, hfolder] using houtside)
      | some before after hsplit hcontains hbefore hafter =>
          refine .some before (after ++ [folder]) (by simp [hsplit]) hcontains hbefore ?_
          simpa [or_imp, forall_and, hfolder] using hafter
  | true =>
      cases h with
      | none houtside =>
          refine .some seen [] rfl hfolder ?_ (by simp)
          intro other hother hcontains
          simp [houtside other hother] at hcontains
      | @some before after kept hsplit hcontains hbefore hafter =>
          by_cases hdeeper : kept.place.length < folder.place.length
          · -- Whatever was seen is at most as deep as what was kept.
            have hseen : ∀ other ∈ seen, other.place.contains target = true →
                other.place.length < folder.place.length := fun other hother hinside =>
              Nat.lt_of_le_of_lt
                ((IsChoice.some before after hsplit hcontains hbefore hafter).length_le
                  hother hinside) hdeeper
            simpa [hdeeper] using
              IsChoice.some seen [] rfl hfolder hseen (by simp)
          · have hafter' : ∀ other ∈ after ++ [folder], other.place.contains target = true →
                other.place.length ≤ kept.place.length := by
              simpa [or_imp, forall_and] using ⟨hafter, fun _ => Nat.le_of_not_lt hdeeper⟩
            simpa [hdeeper] using
              IsChoice.some before (after ++ [folder]) (by simp [hsplit]) hcontains hbefore hafter'

/-- What is kept in the end is the choice of all folders that were seen. -/
theorem isChoice_foldl {target : Location} {seen : List Folder} {best : Option Folder}
    (h : IsChoice target seen best) (folders : List Folder) :
    IsChoice target (seen ++ folders) (folders.foldl (Workspace.keepDeeper target) best) := by
  induction folders generalizing seen best with
  | nil => simpa using h
  | cons folder rest ih => simpa using ih (h.keepDeeper folder)

/-- The folder of a place is the choice of all folders of the workspace. -/
theorem isChoice_folderAt (workspace : Workspace) (target : Location) :
    IsChoice target workspace.allFolders (workspace.folderAt target) := by
  exact isChoice_foldl (isChoice_nil target) workspace.allFolders

/-- A place has no folder exactly if none contains it. -/
theorem folderAt_eq_none_iff {workspace : Workspace} {target : Location} :
    workspace.folderAt target = none ↔
      ∀ folder ∈ workspace.allFolders, folder.place.contains target = false := by
  have hchoice := isChoice_folderAt workspace target
  constructor
  · intro hnone
    rw [hnone] at hchoice
    cases hchoice with
    | none houtside => exact houtside
  · intro houtside
    cases hfound : workspace.folderAt target with
    | none => rfl
    | some kept =>
        rw [hfound] at hchoice
        cases hchoice with
        | some before after hsplit hcontains =>
            have := houtside kept (by simp [hsplit])
            simp [hcontains] at this

/-- The folder of a place is a folder of the workspace that contains it. -/
theorem contains_of_folderAt {workspace : Workspace} {target : Location} {folder : Folder}
    (h : workspace.folderAt target = some folder) :
    folder ∈ workspace.allFolders ∧ folder.place.contains target = true := by
  have hchoice := isChoice_folderAt workspace target
  rw [h] at hchoice
  cases hchoice with
  | some before after hsplit hcontains => exact ⟨by simp [hsplit], hcontains⟩

/-- The folder of a document whose path leads to a place. -/
theorem folderFor_of_expand {workspace : Workspace} {w : World} {document : Path}
    {target : Location}
    (hexpand : w.files.expand w.environment w.directory document = .ok target) :
    workspace.folderFor w (some document) = .ok (workspace.folderAt target) := by
  simp [folderFor, hexpand]

/-- A place below the root has no folder exactly if the root is hidden and no named folder contains
the place. -/
theorem folderAt_below_root_eq_none_iff {workspace : Workspace} {root target : Location}
    (hroot : workspace.root = some root) (hbelow : root.contains target = true) :
    workspace.folderAt target = none ↔
      workspace.HidesRoot ∧
        ∀ folder ∈ workspace.folders, folder.place.contains target = false := by
  rw [folderAt_eq_none_iff]
  constructor
  · intro houtside
    refine ⟨Decidable.byContradiction fun hshown => ?_,
      fun folder hfolder => houtside folder (mem_allFolders_of_mem hfolder)⟩
    obtain ⟨folder, hfolder, rfl⟩ := (exists_mem_allFolders_iff hroot).mpr hshown
    simp [houtside folder hfolder] at hbelow
  · rintro ⟨hhides, houtside⟩
    rwa [allFolders_of_hidesRoot hhides]

/-- What a workspace keeps.  Named folders are always kept.  The places that are kept are exactly
those of the named folders and the root if and only if the root is not hidden.  A document at or
below the root has a folder that contains it, unless the root is hidden and no named folder contains
the document; then it has none. -/
theorem root_kept_iff_not_hidden (workspace : Workspace) :
    (∀ folder ∈ workspace.folders, folder ∈ workspace.allFolders) ∧
    ((∀ place, place ∈ workspace.allFolders.map Folder.place ↔
        place ∈ workspace.folders.map Folder.place ∨ workspace.root = some place) ↔
      ¬workspace.HidesRoot) ∧
    ∀ root, workspace.root = some root → ∀ (w : World) (document : Path) (target : Location),
      w.files.expand w.environment w.directory document = .ok target →
      root.contains target = true →
      ∃ found, workspace.folderFor w (some document) = .ok found ∧
        (∀ folder ∈ found,
          folder ∈ workspace.allFolders ∧ folder.place.contains target = true) ∧
        (found = none ↔ workspace.HidesRoot ∧
          ∀ folder ∈ workspace.folders, folder.place.contains target = false) := by
  refine ⟨fun _ => mem_allFolders_of_mem, places_allFolders_iff workspace, ?_⟩
  intro root hroot w document target hexpand hbelow
  exact ⟨workspace.folderAt target, folderFor_of_expand hexpand,
    fun folder hfolder => contains_of_folderAt hfolder,
    folderAt_below_root_eq_none_iff hroot hbelow⟩

/-- A document below a root whose name is taken elsewhere has no folder. -/
theorem root_kept_iff_not_hidden_taken :
    (⟨some ["proj"], [⟨"proj", ["other"]⟩]⟩ : Workspace).folderFor
      ⟨⟨[]⟩, fun _ _ _ => none, [], [], [], [], .ample⟩ (some ⟨.slash, ["proj", "a.sql"]⟩) =
        .ok none := by
  obtain ⟨found, hfound, -, hnone⟩ :=
    (root_kept_iff_not_hidden ⟨some ["proj"], [⟨"proj", ["other"]⟩]⟩).2.2 ["proj"] rfl
      ⟨⟨[]⟩, fun _ _ _ => none, [], [], [], [], .ample⟩ ⟨.slash, ["proj", "a.sql"]⟩
      ["proj", "a.sql"] (by rfl) (by decide)
  rw [hfound, hnone.mpr ⟨by decide, by decide⟩]

end FormatLauncher.Workspace
