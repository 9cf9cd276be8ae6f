/-
# Warnings that a check foresees

Settings are checked and made by two analyses of the same values, written apart.  The check is the
stricter one: wherever a coercion warns, the check has something to report about the same key.  So a
configuration with nothing to report is taken over as it is.
-/

import FormatLauncher.Proofs.Coercing
import FormatLauncher.Proofs.Issues

namespace FormatLauncher.Settings

/-- The keys whose values may be coerced with a warning. -/
def coercedKeys : List String := ["path", "workspace_folders", "args", "timeout", "probe_timeout"]

/-- How the warnings about a key start. -/
def warningOpenings (key : String) : List String :=
  if key = "args" then
    ["Ignoring empty entry in 'args'", "Converting non-string argument ", "'args' should be a list"]
  else ["Converting non-string '" ++ key ++ "' ", "'" ++ key ++ "' must be "]

/-- The warning is about this key. -/
def IsAbout (key warning : String) : Prop :=
  ∃ opening ∈ warningOpenings key, opening.toList <+: warning.toList

instance (key warning : String) : Decidable (IsAbout key warning) :=
  inferInstanceAs (Decidable (∃ opening ∈ _, _))

/-- A warning is about one key. -/
theorem IsAbout.unique {key other warning : String} (hkey : key ∈ coercedKeys)
    (hother : other ∈ coercedKeys) (h : IsAbout key warning) (h' : IsAbout other warning) :
    key = other := by
  have happart : ∀ key ∈ coercedKeys, ∀ other ∈ coercedKeys, key = other ∨
      ∀ opening ∈ warningOpenings key, ∀ second ∈ warningOpenings other,
        ¬opening.toList <+: second.toList ∧ ¬second.toList <+: opening.toList := by
    decide +kernel
  obtain ⟨opening, hopening, hfirst⟩ := h
  obtain ⟨second, hsecond, hlast⟩ := h'
  refine (happart key hkey other hother).resolve_right fun happart => ?_
  obtain ⟨hbefore, hafter⟩ := happart opening hopening second hsecond
  exact (List.prefix_or_prefix_of_prefix hfirst hlast).elim hbefore hafter

/-- What a warning is about is said at its start. -/
theorem IsAbout.append {key opening : String} (h : IsAbout key opening) (rest : String) :
    IsAbout key (opening ++ rest) := by
  obtain ⟨known, hknown, hprefix⟩ := h
  rw [IsAbout, String.toList_append]
  exact ⟨known, hknown, hprefix.trans (List.prefix_append _ _)⟩

/-- The reports on the value of a key foresee the warnings about it. -/
structure Foresees (key : String) (reports warnings : List String) : Prop where
  names : ∀ message ∈ reports, Names key message
  about : ∀ warning ∈ warnings, IsAbout key warning
  eq_nil : reports = [] → warnings = []

theorem Foresees.exists_names {key warning : String} {reports warnings : List String}
    (h : Foresees key reports warnings) (hwarning : warning ∈ warnings) :
    ∃ message ∈ reports, Names key message := by
  cases reports with
  | nil =>
      rw [h.eq_nil rfl] at hwarning
      cases hwarning
  | cons message rest => exact ⟨message, List.mem_cons_self, h.names message List.mem_cons_self⟩

/-! ## What the warnings are about -/

theorem isAbout_of_conversionWarning? {key opening warning : String} {v : Value}
    (hopening : IsAbout key opening) (h : conversionWarning? opening v = some warning) :
    IsAbout key warning := by
  obtain ⟨text, -, rfl⟩ := Option.map_eq_some_iff.mp h
  exact (hopening.append text).append _

theorem isAbout_of_mem_pathWarnings {v : Value} :
    ∀ warning ∈ pathWarnings v, IsAbout "path" warning := by
  intro warning hwarning
  unfold pathWarnings at hwarning
  split at hwarning
  · cases hwarning
  · exact isAbout_of_conversionWarning? (by decide) (Option.mem_toList.mp hwarning)

theorem isAbout_of_argumentWarning? {item : Value} {warning : String}
    (h : argumentWarning? item = some warning) : IsAbout "args" warning := by
  unfold argumentWarning? at h
  split at h
  · obtain rfl := Option.some.inj h
    decide
  · cases h
  · exact isAbout_of_conversionWarning? (by decide) h

theorem isAbout_of_mem_argumentWarnings {v : Value} :
    ∀ warning ∈ argumentWarnings v, IsAbout "args" warning := by
  intro warning hwarning
  have hitems {items : List Value} (h : warning ∈ items.filterMap argumentWarning?) :
      IsAbout "args" warning := by
    obtain ⟨item, -, hitem⟩ := List.mem_filterMap.mp h
    exact isAbout_of_argumentWarning? hitem
  unfold argumentWarnings at hwarning
  split at hwarning
  · cases hwarning
  · exact hitems hwarning
  · exact hitems hwarning
  · obtain rfl := List.mem_singleton.mp hwarning
    have hopening : IsAbout "args" "'args' should be a list, got " := by decide
    exact (hopening.append v.kindName).append _

theorem isAbout_of_mem_folderWarnings {v : Value} :
    ∀ warning ∈ folderWarnings v, IsAbout "workspace_folders" warning := by
  intro warning hwarning
  unfold folderWarnings at hwarning
  split at hwarning
  · cases hwarning
  · split at hwarning
    · cases hwarning
    · obtain rfl := List.mem_singleton.mp hwarning
      decide

theorem isAbout_of_mem_secondsWarnings {config : Entries} {key : String}
    {default : Option Binary64} (hkey : key ≠ "args") :
    ∀ warning ∈ secondsWarnings config key default, IsAbout key warning := by
  intro warning hwarning
  have hopening : IsAbout key ("'" ++ key ++ "' must be a number of seconds, got ") := by
    refine ⟨"'" ++ key ++ "' must be ", by simp [warningOpenings, hkey], ?_⟩
    simp only [String.toList_append, List.append_assoc, List.prefix_append_right_inj]
    decide
  unfold secondsWarnings at hwarning
  split at hwarning
  · cases hwarning
  · cases hwarning
  · split at hwarning
    · obtain ⟨text, -, rfl⟩ := Option.map_eq_some_iff.mp (Option.mem_toList.mp hwarning)
      exact ((hopening.append text).append _).append _
    · cases hwarning

/-! ## Where there is nothing to report, there is no warning -/

theorem pathWarnings_eq_nil {v : Value} (h : pathIssues v = []) : pathWarnings v = [] := by
  unfold pathIssues at h
  split at h
  · next htaken => rw [pathWarnings, if_pos htaken]
  · cases h

/-- Without anything to report the arguments are null or texts. -/
theorem bare_of_argumentIssues_eq_nil {v : Value} (h : argumentIssues v = .ok []) :
    v.bare = .null ∨ ∃ items, v.bare = .list items ∧ ∀ item ∈ items, item.isText = true := by
  unfold argumentIssues at h
  split at h
  · next hnull => exact .inl hnull
  · next items hlist =>
      dsimp only at h
      split at h
      · next hnone => exact .inr ⟨items, hlist, by simpa using hnone⟩
      · obtain ⟨text, -, hfilled⟩ := Action.except_map_eq_ok.mp h
        cases hfilled
  · cases h

theorem argumentWarnings_eq_nil {v : Value} (h : argumentIssues v = .ok []) :
    argumentWarnings v = [] := by
  obtain hnull | ⟨items, hlist, htexts⟩ := bare_of_argumentIssues_eq_nil h
  · simp only [argumentWarnings, hnull]
  · simp only [argumentWarnings, hlist]
    refine List.filterMap_eq_nil_iff.mpr fun item hitem => ?_
    cases item with
    | text s => rfl
    | _ => cases htexts _ hitem

theorem folderWarnings_eq_nil {v : Value} (h : folderIssues v = []) : folderWarnings v = [] := by
  unfold folderIssues at h
  unfold folderWarnings
  split at h
  · next hnull =>
      have hfalse : v.isTruthy = false := by rw [← Value.isTruthy_bare, hnull]; rfl
      simp only [hfalse]
      rfl
  · next entries hmap => simp only [hmap, ite_self]
  · cases h

/-- A number is converted to a number of seconds, and what is no number is reported. -/
theorem secondsWarnings_eq_nil {config : Entries} {key : String} (default : Option Binary64)
    (h : secondsIssues key (valueAt config key) = .ok []) :
    secondsWarnings config key default = [] := by
  unfold secondsWarnings
  split
  · rfl
  · rfl
  · next v hnull hv =>
      rw [valueAt_of_get? hv] at h
      cases v with
      | null => exact absurd rfl hnull
      | int n =>
          cases hlarge : (Binary64.ofInt n).isInfinite <;> simp [number?, hlarge]
      | float x => rfl
      | _ => cases h

theorem foresees_path (v : Value) : Foresees "path" (pathIssues v) (pathWarnings v) where
  names := names_of_mem_pathIssues
  about := isAbout_of_mem_pathWarnings
  eq_nil := pathWarnings_eq_nil

theorem foresees_arguments {v : Value} {reports : List String}
    (h : argumentIssues v = .ok reports) : Foresees "args" reports (argumentWarnings v) where
  names := onlyNames_argumentIssues v h
  about := isAbout_of_mem_argumentWarnings
  eq_nil hnone := argumentWarnings_eq_nil (hnone ▸ h)

theorem foresees_folders (v : Value) :
    Foresees "workspace_folders" (folderIssues v) (folderWarnings v) where
  names := names_of_mem_folderIssues
  about := isAbout_of_mem_folderWarnings
  eq_nil := folderWarnings_eq_nil

theorem foresees_seconds {config : Entries} {key : String} {reports : List String}
    (hkey : key ≠ "args") (default : Option Binary64)
    (h : secondsIssues key (valueAt config key) = .ok reports) :
    Foresees key reports (secondsWarnings config key default) where
  names := onlyNames_secondsIssues key _ h
  about := isAbout_of_mem_secondsWarnings hkey
  eq_nil hnone := secondsWarnings_eq_nil default (hnone ▸ h)

/-! ## What is taken over -/

theorem null_or_text_of_pathIssues_eq_nil {v : Value} (h : pathIssues v = []) :
    v = .null ∨ ∃ s, v = .text s := by
  unfold pathIssues at h
  split at h
  · next htaken =>
      cases v with
      | null => exact .inl rfl
      | text s => exact .inr ⟨s, rfl⟩
      | _ => cases htaken
  · cases h

/-- Texts are their own texts. -/
theorem texts_of_isText {items : List Value} (h : ∀ item ∈ items, item.isText = true) :
    items = (items.filterMap Value.convertedText?).map .text := by
  induction items with
  | nil => rfl
  | cons item rest ih =>
      have hrest := ih fun other hother => h other (List.mem_cons_of_mem _ hother)
      cases item with
      | text s =>
          have hself : (Value.text s).convertedText? = some s := rfl
          rw [List.filterMap_cons_some hself, List.map_cons, ← hrest]
      | _ => cases h _ List.mem_cons_self

/-- Every warning is foreseen.  Where a configuration is both checked and made into settings, each
warning of the making is about a key that a message of the check names.  So a configuration about
which there is no message is made into settings without a warning, and the path and the arguments
are taken over as they are; an empty path is no path. -/
theorem warnings_foreseen {config : Entries} {messages : List String} {settings : Settings}
    {warnings : List String} (hchecked : issues config = .ok messages)
    (hmade : (ofEntries config).outcome = (.ok settings, warnings)) :
    (∀ warning ∈ warnings, ∃ key ∈ coercedKeys, IsAbout key warning) ∧
      (∀ warning ∈ warnings, ∀ key ∈ coercedKeys, IsAbout key warning →
        ∃ message ∈ messages, Names key message) ∧
      (messages = [] → warnings = [] ∧
        ((valueAt config "path" = .null ∧ settings.path = none) ∨
          ∃ s, valueAt config "path" = .text s ∧
            settings.path = if s = "" then none else some s) ∧
        (((valueAt config "args").bare = .null ∧ settings.arguments = []) ∨
          (valueAt config "args").bare = .list (settings.arguments.map .text))) := by
  obtain ⟨-, rfl, rfl⟩ := outcome_ofEntries_eq_ok_iff.mp hmade
  obtain ⟨keys, names, arguments, limit, probeLimit, strict, -, -, harguments, hlimit, hprobeLimit,
    -, hmessages⟩ := issues_eq_ok_iff.mp hchecked
  have hpath := foresees_path (valueAt config "path")
  have hfolders := foresees_folders (valueAt config "workspace_folders")
  have hargument := foresees_arguments harguments
  have hseconds := foresees_seconds (by decide) none hlimit
  have hprobeSeconds := foresees_seconds (by decide) (some defaultProbeLimit) hprobeLimit
  -- A warning comes from the coercion of one key, and the check of that key has a message.
  have hforeseen : ∀ warning ∈ conversionWarnings config, ∃ key ∈ coercedKeys,
      IsAbout key warning ∧ ∃ message ∈ messages, Names key message := by
    intro warning hwarning
    have hone {key : String} {reports warnings : List String} (hkey : key ∈ coercedKeys)
        (hreports : ∀ message ∈ reports, message ∈ messages)
        (h : Foresees key reports warnings)
        (hwarning : warning ∈ warnings) : ∃ key ∈ coercedKeys, IsAbout key warning ∧
          ∃ message ∈ messages, Names key message := by
      obtain ⟨message, hmessage, hnamed⟩ := h.exists_names hwarning
      exact ⟨key, hkey, h.about warning hwarning, message, hreports message hmessage, hnamed⟩
    simp only [conversionWarnings, List.mem_append] at hwarning
    obtain hwarning | hwarning | hwarning | hwarning | hwarning := hwarning
    · exact hone (by decide) (fun message h => by simp [hmessages, h]) hpath hwarning
    · exact hone (by decide) (fun message h => by simp [hmessages, h]) hfolders hwarning
    · exact hone (by decide) (fun message h => by simp [hmessages, h]) hargument hwarning
    · exact hone (by decide) (fun message h => by simp [hmessages, h]) hseconds hwarning
    · exact hone (by decide) (fun message h => by simp [hmessages, h]) hprobeSeconds hwarning
  refine ⟨fun warning hwarning => ?_, fun warning hwarning key hkey habout => ?_, fun hnone => ?_⟩
  · obtain ⟨key, hkey, habout, -⟩ := hforeseen warning hwarning
    exact ⟨key, hkey, habout⟩
  · obtain ⟨other, hother, habout', hreported⟩ := hforeseen warning hwarning
    exact IsAbout.unique hkey hother habout habout' ▸ hreported
  · simp only [hnone, eq_comm (a := ([] : List String)), List.append_eq_nil_iff] at hmessages
    obtain ⟨⟨⟨⟨⟨⟨-, hnoPath⟩, hnoArgument⟩, hnoFolders⟩, hnoLimit⟩, hnoProbeLimit⟩, -⟩ := hmessages
    refine ⟨?_, ?_, ?_⟩
    · rw [conversionWarnings, hpath.eq_nil hnoPath, hfolders.eq_nil hnoFolders,
        hargument.eq_nil hnoArgument, hseconds.eq_nil hnoLimit, hprobeSeconds.eq_nil hnoProbeLimit]
      rfl
    · obtain hnull | ⟨s, htext⟩ := null_or_text_of_pathIssues_eq_nil hnoPath
      · exact .inl ⟨hnull, by simp [converted, hnull, Value.convertedText?]⟩
      · refine .inr ⟨s, htext, ?_⟩
        simp only [converted, htext, Value.convertedText?, Value.plainText?]
        by_cases hempty : s = "" <;> simp [hempty]
    · obtain hnull | ⟨items, hlist, htexts⟩ :=
        bare_of_argumentIssues_eq_nil (hnoArgument ▸ harguments)
      · exact .inl ⟨hnull, by simp [converted, argumentsOf, hnull]⟩
      · refine .inr ?_
        simp only [converted, argumentsOf, hlist]
        rw [← texts_of_isText htexts]

/-- A configuration with an empty entry among its arguments. -/
def emptyEntry : Entries := [(.text "args", .list [.null, .text "x"])]

/-- A configuration about which there is nothing to say. -/
def quietEntries : Entries := [(.text "path", .text "x"), (.text "args", .list [.text "y"])]

/-- The warning about an empty entry is foreseen, and texts are taken over without one. -/
theorem warnings_foreseen_empty_entry :
    (∃ messages settings warnings, issues emptyEntry = .ok messages ∧
      (ofEntries emptyEntry).outcome = (.ok settings, warnings) ∧
      "Ignoring empty entry in 'args'" ∈ warnings ∧ ∃ message ∈ messages, Names "args" message) ∧
    ∃ settings warnings, issues quietEntries = .ok [] ∧
      (ofEntries quietEntries).outcome = (.ok settings, warnings) ∧ warnings = [] ∧
      (valueAt quietEntries "args").bare = .list (settings.arguments.map .text) := by
  have hchecked : issues emptyEntry =
      .ok ["'args' entries should be strings; will convert [None]"] := by rfl
  have hmade : (ofEntries emptyEntry).outcome =
      (.ok { Settings.default with arguments := ["x"] }, ["Ignoring empty entry in 'args'"]) := by
    rfl
  have hquiet : issues quietEntries = .ok [] := by rfl
  have htaken : (ofEntries quietEntries).outcome =
      (.ok { Settings.default with path := some "x", arguments := ["y"] }, []) := by
    rfl
  obtain ⟨hnone, -, harguments⟩ := (warnings_foreseen hquiet htaken).2.2 rfl
  refine ⟨⟨_, _, _, hchecked, hmade, by simp,
    (warnings_foreseen hchecked hmade).2.1 _ List.mem_cons_self "args" (by decide) (by decide)⟩,
    _, _, hquiet, htaken, hnone, harguments.resolve_left fun hnull => ?_⟩
  cases hnull.2

end FormatLauncher.Settings
