/-
# Settings made again

Values of every kind are converted to the few kinds that settings hold: texts, numbers of seconds
and a flag.  A value of such a kind is taken over as it is.  So settings that are written back as a
configuration are made into themselves, and nothing is left to warn of.
-/

import FormatLauncher.Proofs.Coercing

namespace FormatLauncher

namespace Bindings

variable {bindings : Bindings} {name text : String}

/-- A name that is not bound is bound behind the others. -/
theorem insert_of_notMem (h : name ∉ bindings.map Prod.fst) :
    bindings.insert name text = bindings ++ [(name, text)] := by
  induction bindings with
  | nil => rfl
  | cons head rest ih =>
      obtain ⟨first, old⟩ := head
      rw [List.map_cons, List.mem_cons, not_or] at h
      rw [insert, if_neg (Ne.symm h.1), ih h.2, List.cons_append]

/-- New names, each bound once, are bound behind the others in their order. -/
theorem foldl_insert_of_nodup {pairs : List (String × String)}
    (honce : ((bindings ++ pairs).map Prod.fst).Nodup) :
    pairs.foldl (fun bindings pair => bindings.insert pair.1 pair.2) bindings =
      bindings ++ pairs := by
  induction pairs generalizing bindings with
  | nil => rw [List.foldl_nil, List.append_nil]
  | cons pair rest ih =>
      obtain ⟨name, text⟩ := pair
      have hnew : name ∉ bindings.map Prod.fst := by
        rw [List.map_append, List.nodup_append] at honce
        exact fun hmem => honce.2.2 _ hmem _ List.mem_cons_self rfl
      rw [List.append_cons] at honce ⊢
      rw [List.foldl_cons, ← ih honce, ← insert_of_notMem hnew]

/-- Pairs with different names are bindings as they are. -/
theorem ofPairs_of_nodup {pairs : List (String × String)} (honce : (pairs.map Prod.fst).Nodup) :
    ofPairs pairs = pairs :=
  foldl_insert_of_nodup honce

end Bindings

namespace Settings

open Coercion

/-- A text as a value; a missing one is null. -/
def textValue (text : Option String) : Value := text.elim .null .text

/-- A number of seconds as a value; a missing one is null. -/
def secondsValue (seconds : Option Binary64) : Value := seconds.elim .null .float

/-- The named folders as entries of a mapping. -/
def folderValues (folders : Bindings) : Entries :=
  folders.map fun folder => (.text folder.1, .text folder.2)

/-- The configuration that holds the fields of settings. -/
def toEntries (settings : Settings) : Entries :=
  [(.text "path", textValue settings.path),
    (.text "args", .list (settings.arguments.map .text)),
    (.text "workspace", textValue settings.workspace),
    (.text "workspace_folders", .map (folderValues settings.folders)),
    (.text "timeout", secondsValue settings.limit),
    (.text "probe_timeout", secondsValue settings.probeLimit),
    (.text "strict_variables", .bool settings.strict)]

variable {settings : Settings} {config : Entries} {key : String}

/-! ## Values that settings hold -/

theorem not_isLong_textValue (text : Option String) : ¬(textValue text).IsLong := by
  cases text <;> nofun

theorem path_textValue {text : Option String} (h : text ≠ some "") :
    (textValue text).convertedText?.filter (· ≠ "") = text := by
  cases text with
  | none => rfl
  | some s => exact Option.filter_some_pos (by simpa using h)

theorem workspace_textValue {text : Option String} (h : text ≠ some "") :
    (if (textValue text).isTruthy then (textValue text).plainText? else none) = text := by
  cases text with
  | none => rfl
  | some s => exact if_pos (by simpa [textValue, Value.isTruthy] using h)

theorem pathWarnings_textValue (text : Option String) : pathWarnings (textValue text) = [] := by
  cases text <;> rfl

/-- Texts are arguments as they are. -/
theorem filterMap_convertedText?_texts (texts : List String) :
    (texts.map Value.text).filterMap Value.convertedText? = texts := by
  rw [List.filterMap_map]
  exact List.filterMap_some

theorem argumentWarnings_texts (texts : List String) :
    argumentWarnings (.list (texts.map .text)) = [] := by
  refine List.filterMap_eq_nil_iff.mpr fun item hitem => ?_
  obtain ⟨text, -, rfl⟩ := List.mem_map.mp hitem
  rfl

theorem not_isLong_of_mem_texts {texts : List String} {item : Value}
    (hitem : item ∈ texts.map Value.text) : ¬item.IsLong := by
  obtain ⟨text, -, rfl⟩ := List.mem_map.mp hitem
  exact Value.not_isLong_text text

theorem filterMap_folderTexts?_folderValues (folders : Bindings) :
    (folderValues folders).filterMap folderTexts? = folders := by
  rw [folderValues, List.filterMap_map]
  exact List.filterMap_some

theorem folderWarnings_folderValues (folders : Bindings) :
    folderWarnings (.map (folderValues folders)) = [] := by
  rw [folderWarnings]
  exact ite_self _

theorem secondsOf_secondsValue {seconds : Option Binary64} (default : Option Binary64)
    (h : config.get? key = some (secondsValue seconds)) :
    secondsOf config key default = seconds := by
  rw [secondsOf, h]
  cases seconds <;> rfl

theorem secondsWarnings_secondsValue {seconds : Option Binary64} (default : Option Binary64)
    (h : config.get? key = some (secondsValue seconds)) :
    secondsWarnings config key default = [] := by
  rw [secondsWarnings, h]
  cases seconds <;> rfl

theorem not_secondsStop_secondsValue {seconds : Option Binary64} {failure : Failure}
    (h : config.get? key = some (secondsValue seconds)) : ¬SecondsStop config key failure := by
  rintro ⟨v, hv, hstop⟩
  obtain rfl : secondsValue seconds = v := Option.some.inj (h.symm.trans hv)
  obtain ⟨-, n, hn, -⟩ | ⟨-, hlong⟩ := hstop <;> cases seconds <;> contradiction

/-! ## Settings written back -/

theorem not_makingFails_toEntries (settings : Settings) (failure : Failure) :
    ¬MakingFails settings.toEntries failure := by
  rintro (⟨-, h⟩ | ⟨-, item, hitem, h⟩ | ⟨-, -, h⟩ | ⟨-, entry, hentry, h⟩ | h | h)
  · exact not_isLong_textValue _ h
  · exact not_isLong_of_mem_texts hitem h
  · exact not_isLong_textValue _ h
  · obtain ⟨folder, -, rfl⟩ := List.mem_map.mp hentry
    exact h.elim (Value.not_isLong_text folder.1) (Value.not_isLong_text folder.2)
  · exact not_secondsStop_secondsValue rfl h
  · exact not_secondsStop_secondsValue rfl h

theorem conversionWarnings_toEntries (settings : Settings) :
    conversionWarnings settings.toEntries = [] := by
  have hpath : pathWarnings (valueAt settings.toEntries "path") = [] := pathWarnings_textValue _
  have harguments : argumentWarnings (valueAt settings.toEntries "args") = [] :=
    argumentWarnings_texts _
  have hfolders : folderWarnings (valueAt settings.toEntries "workspace_folders") = [] :=
    folderWarnings_folderValues _
  rw [conversionWarnings, hpath, hfolders, harguments, secondsWarnings_secondsValue none rfl,
    secondsWarnings_secondsValue _ rfl]
  rfl

theorem converted_toEntries (h : settings.IsNormal) : converted settings.toEntries = settings := by
  have hpath : (valueAt settings.toEntries "path").convertedText?.filter (· ≠ "") =
      settings.path := path_textValue h.path_ne_empty
  have harguments : (argumentsOf (valueAt settings.toEntries "args")).filterMap
      Value.convertedText? = settings.arguments := filterMap_convertedText?_texts _
  have hfolders : Bindings.ofPairs ((foldersOf (valueAt settings.toEntries
      "workspace_folders")).filterMap folderTexts?) = settings.folders :=
    (congrArg _ (filterMap_folderTexts?_folderValues _)).trans
      (Bindings.ofPairs_of_nodup h.nodup_folders)
  have hworkspace : (if (valueAt settings.toEntries "workspace").isTruthy then
      (valueAt settings.toEntries "workspace").plainText? else none) = settings.workspace :=
    workspace_textValue h.workspace_ne_empty
  rw [converted, hpath, harguments, hworkspace, hfolders, secondsOf_secondsValue none rfl,
    secondsOf_secondsValue _ rfl]
  rfl

/-- Settings as they are made are made into themselves. -/
theorem outcome_ofEntries_toEntries (h : settings.IsNormal) :
    (ofEntries settings.toEntries).outcome = (.ok settings, []) :=
  outcome_ofEntries_eq_ok_iff.mpr ⟨not_makingFails_toEntries settings,
    (converted_toEntries h).symm, (conversionWarnings_toEntries settings).symm⟩

/-! ## Arguments -/

variable {v : Value} {items : List Value} {texts warnings : List String}

/-- Arguments are made exactly of what can be written. -/
theorem outcome_coerceArguments_eq_ok_iff :
    (coerceArguments v).outcome = (.ok texts, warnings) ↔
      (∀ item ∈ argumentsOf v, ¬item.IsLong) ∧
        texts = (argumentsOf v).filterMap Value.convertedText? ∧ warnings = argumentWarnings v := by
  have hwritten : (∀ failure, ¬Long (∃ item ∈ argumentsOf v, item.IsLong) failure) ↔
      ∀ item ∈ argumentsOf v, ¬item.IsLong := by
    simp [Long]
  rw [← hwritten]
  exact (stopsFor_coerceArguments v).outcome_eq_ok_iff fun h =>
    yields_coerceArguments (hwritten.mp h)

/-- Where an entry cannot be written there are no arguments. -/
theorem outcome_coerceArguments_of_isLong (h : ∃ item ∈ argumentsOf v, item.IsLong) :
    (coerceArguments v).outcome.1 = .error .numberTooLong := by
  have hfails := (stopsFor_coerceArguments v).failsFor
  obtain ⟨failure, hfailure⟩ := hfails.2 ⟨.numberTooLong, rfl, h⟩
  obtain ⟨rfl, -⟩ := hfails.1 failure hfailure
  exact hfailure

/-- Arguments are made into themselves. -/
theorem outcome_coerceArguments_texts (texts : List String) :
    (coerceArguments (.list (texts.map .text))).outcome = (.ok texts, []) :=
  outcome_coerceArguments_eq_ok_iff.mpr ⟨fun _ hitem => not_isLong_of_mem_texts hitem,
    (filterMap_convertedText?_texts texts).symm, (argumentWarnings_texts texts).symm⟩

/-- What is made of the entries is made of those of which something is made, in order. -/
theorem map_some_filterMap {α β : Type} {make? : α → Option β} {keep : α → Bool} {xs : List α}
    (h : ∀ x ∈ xs, (make? x).isSome = keep x) :
    (xs.filterMap make?).map some = (xs.filter keep).map make? := by
  rw [List.map_filterMap_some_eq_filter_map_isSome, List.filter_map]
  exact congrArg _ (List.filter_congr h)

theorem isSome_convertedText? {item : Value} (h : ¬item.IsLong) :
    item.convertedText?.isSome = !item.isNull := by
  obtain ⟨-, text, htext⟩ := exists_texts h
  cases item with
  | null => rfl
  | _ => exact congrArg Option.isSome htext

theorem isSome_argumentWarning? {item : Value} (h : ¬item.IsLong) :
    (argumentWarning? item).isSome = !item.isText := by
  obtain ⟨⟨literal, hliteral⟩, -⟩ := exists_texts h
  cases item with
  | null | text s => rfl
  | _ =>
      simp only [argumentWarning?, conversionWarning?, hliteral]
      rfl

/-- The texts of entries are those of the entries that are not null. -/
theorem map_some_filterMap_convertedText? (h : ∀ item ∈ items, ¬item.IsLong) :
    (items.filterMap Value.convertedText?).map some =
      (items.filter fun item => !item.isNull).map Value.plainText? := by
  rw [map_some_filterMap fun item hitem => isSome_convertedText? (h item hitem)]
  refine List.map_congr_left fun item hitem => Value.convertedText?_of_ne_null ?_
  rintro rfl
  exact absurd (List.mem_filter.mp hitem).2 Bool.false_ne_true

/-- Settings are a fixed point of coercion.  Settings that are written back as a configuration are
made into themselves without a warning, and so are arguments.  The arguments made of a list are the
texts of its entries in order, where null is left out and a text is its own, and there is one
warning for each entry that is not a text.  Only an entry that cannot be written is in the way. -/
theorem fixed_point_of_coercion :
    (∀ config settings warnings, (ofEntries config).outcome = (.ok settings, warnings) →
      (ofEntries settings.toEntries).outcome = (.ok settings, [])) ∧
    (∀ texts, (coerceArguments (.list (texts.map .text))).outcome = (.ok texts, [])) ∧
    ∀ v items, v.bare = .list items →
      ((∃ item ∈ items, item.IsLong) ∧
        (coerceArguments v).outcome.1 = .error .numberTooLong) ∨
      ((∀ item ∈ items, ¬item.IsLong) ∧
        ∃ texts warnings, (coerceArguments v).outcome = (.ok texts, warnings) ∧
          texts.map some = (items.filter fun item => !item.isNull).map Value.plainText? ∧
          warnings.map some = (items.filter fun item => !item.isText).map argumentWarning?) := by
  refine ⟨fun config settings warnings hmade => ?_, outcome_coerceArguments_texts,
    fun v items hlist => ?_⟩
  · obtain ⟨-, rfl, -⟩ := outcome_ofEntries_eq_ok_iff.mp hmade
    exact outcome_ofEntries_toEntries (isNormal_converted config)
  · have harguments : argumentsOf v = items := by rw [argumentsOf, hlist]
    have hwarnings : argumentWarnings v = items.filterMap argumentWarning? := by
      rw [argumentWarnings, hlist]
    by_cases hlong : ∃ item ∈ items, item.IsLong
    · exact .inl ⟨hlong, outcome_coerceArguments_of_isLong (harguments.symm ▸ hlong)⟩
    · have hwritten : ∀ item ∈ items, ¬item.IsLong :=
        fun item hitem h => hlong ⟨item, hitem, h⟩
      refine .inr ⟨hwritten, _, _, outcome_coerceArguments_eq_ok_iff.mpr
        ⟨harguments.symm ▸ hwritten, rfl, rfl⟩, ?_, ?_⟩
      · rw [harguments, map_some_filterMap_convertedText? hwritten]
      · rw [hwarnings]
        exact map_some_filterMap fun item hitem => isSome_argumentWarning? (hwritten item hitem)

/-- A configuration with values of other kinds than settings hold.  Two folders get one name. -/
def mixedValues : Entries :=
  [(.text "path", .bool true), (.text "args", .list [.null, .bool true, .text "x"]),
    (.text "workspace_folders", .map [(.bool true, .text "/a"), (.text "True", .text "/b")]),
    (.text "probe_timeout", .null)]

/-- What is made of mixed values is made into itself. -/
theorem fixed_point_of_coercion_mixed :
    (∃ settings warnings, (ofEntries mixedValues).outcome = (.ok settings, warnings) ∧
      warnings.length = 3 ∧ (ofEntries settings.toEntries).outcome = (.ok settings, [])) ∧
    ∃ texts warnings,
      (coerceArguments (valueAt mixedValues "args")).outcome = (.ok texts, warnings) ∧
      texts.map some = [.bool true, .text "x"].map Value.plainText? ∧
      warnings.map some = [.null, .bool true].map argumentWarning? :=
  have hmade : (ofEntries mixedValues).outcome =
      (.ok ⟨some "True", ["True", "x"], none, [("True", "/b")], none, none, false⟩,
        ["Converting non-string 'path' True to string", "Ignoring empty entry in 'args'",
          "Converting non-string argument True to string"]) := by
    rfl
  have hanswer : (coerceArguments (valueAt mixedValues "args")).outcome.1 = .ok ["True", "x"] := by
    rfl
  have harguments := (fixed_point_of_coercion.2.2 (valueAt mixedValues "args") _ rfl).resolve_left
    fun hlong => by cases hanswer.symm.trans hlong.2
  ⟨⟨_, _, hmade, rfl, fixed_point_of_coercion.1 _ _ _ hmade⟩, harguments.2⟩

end Settings

end FormatLauncher
