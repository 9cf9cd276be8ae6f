/-
# What a check reports

Checking a configuration reports each unknown key once, and then what is wrong with the known keys
in messages that start with the quoted key.  So both kinds can be told apart by how they start, and
whatever is reported can be traced back to the entry it is about.
-/

import FormatLauncher.Proofs.Action
import FormatLauncher.Proofs.Literal
import FormatLauncher.Proofs.Settings

namespace FormatLauncher.Settings

/-- The message starts with this quoted key. -/
def Names (key message : String) : Prop := ("'" ++ key ++ "' ").toList <+: message.toList

instance (key message : String) : Decidable (Names key message) :=
  inferInstanceAs (Decidable (_ <+: _))

/-- The message reports an unknown key. -/
def reportsUnknownKey (message : String) : Bool :=
  "Unknown config key '".toList.isPrefixOf message.toList

/-! ## The messages about known keys -/

section KnownKeys

variable {key opening rest : String}

/-- What a message names is said at its start. -/
theorem Names.append (h : Names key opening) (rest : String) : Names key (opening ++ rest) := by
  have hsplit : (opening ++ rest).toList = opening.toList ++ rest.toList := String.toList_append
  rw [Names, hsplit]
  exact h.trans (List.prefix_append _ _)

/-- A message that starts with a quote and the key names the key if the quote is closed. -/
theorem names_quoted (key : String) (h : "' ".toList <+: rest.toList) :
    Names key ("'" ++ key ++ rest) := by
  simp only [Names, String.toList_append, List.append_assoc, List.prefix_append_right_inj]
  exact h

/-- All messages name the key. -/
def OnlyNames (key : String) (answer : Except Failure (List String)) : Prop :=
  ∀ ⦃messages⦄, answer = .ok messages → ∀ message ∈ messages, Names key message

theorem onlyNames_nil : OnlyNames key (.ok []) := by
  rintro _ ⟨⟩
  exact List.forall_mem_nil _

theorem onlyNames_singleton (h : Names key rest) : OnlyNames key (.ok [rest]) := by
  rintro _ ⟨⟩
  exact List.forall_mem_singleton.mpr h

theorem onlyNames_shown (h : Names key opening) (text : Option String) :
    OnlyNames key ((shown text).map fun text => [opening ++ text]) := by
  intro messages hmessages
  obtain ⟨text, -, rfl⟩ := Action.except_map_eq_ok.mp hmessages
  exact List.forall_mem_singleton.mpr (h.append text)

end KnownKeys

theorem names_of_mem_pathIssues {v : Value} : ∀ message ∈ pathIssues v, Names "path" message := by
  unfold pathIssues
  split
  · exact List.forall_mem_nil _
  · exact List.forall_mem_singleton.mpr (Names.append (by decide) _)

theorem onlyNames_argumentIssues (v : Value) : OnlyNames "args" (argumentIssues v) := by
  unfold argumentIssues
  split
  · exact onlyNames_nil
  · dsimp only
    split
    · exact onlyNames_nil
    · exact onlyNames_shown (by decide) _
  · exact onlyNames_singleton (Names.append (by decide) _)

theorem names_of_mem_folderIssues {v : Value} :
    ∀ message ∈ folderIssues v, Names "workspace_folders" message := by
  unfold folderIssues
  split
  · exact List.forall_mem_nil _
  · exact List.forall_mem_nil _
  · exact List.forall_mem_singleton.mpr (Names.append (by decide) _)

theorem onlyNames_secondsIssues (key : String) (v : Value) :
    OnlyNames key (secondsIssues key v) := by
  have hpositive (text : Option String) : OnlyNames key ((shown text).map fun text =>
      ["'" ++ key ++ "' must be positive, got " ++ text]) :=
    onlyNames_shown (names_quoted key (by decide)) text
  cases v with
  | null => exact onlyNames_nil
  | int n =>
      rw [secondsIssues]
      split
      · exact hpositive _
      · exact onlyNames_nil
  | float x =>
      rw [secondsIssues]
      split
      · split
        · exact onlyNames_nil
        · exact hpositive _
      · exact onlyNames_nil
  | _ => exact onlyNames_singleton ((names_quoted key (by decide)).append _)

theorem onlyNames_strictIssues (v : Value) :
    OnlyNames "strict_variables" (strictIssues v) := by
  unfold strictIssues
  split
  · exact onlyNames_nil
  · exact onlyNames_nil
  · exact onlyNames_shown (by decide) _

/-- A message that names a key reports no unknown one. -/
theorem Names.reportsUnknownKey_eq_false {key message : String} (h : Names key message) :
    reportsUnknownKey message = false := by
  obtain ⟨rest, hrest⟩ := h
  rw [reportsUnknownKey, ← hrest, String.toList_append, String.toList_append]
  rfl

theorem reportsUnknownKey_unknownKeyIssue (name : String) :
    reportsUnknownKey (unknownKeyIssue name) = true := by
  unfold reportsUnknownKey unknownKeyIssue
  dsimp only
  rw [List.isPrefixOf_iff_prefix, String.append_assoc, String.append_assoc, String.toList_append]
  exact List.prefix_append _ _

/-! ## All messages -/

/-- A configuration is checked where its unknown keys can be sorted and everything that has to be
written can be, and then the messages stand in a fixed order. -/
theorem issues_eq_ok_iff {config : Entries} {messages : List String} :
    issues config = .ok messages ↔ ∃ keys names arguments limit probeLimit strict,
      Value.sort? (unknownKeys config) = some keys ∧
      keys.mapM (fun key => shown key.plainText?) = .ok names ∧
      argumentIssues (valueAt config "args") = .ok arguments ∧
      secondsIssues "timeout" (valueAt config "timeout") = .ok limit ∧
      secondsIssues "probe_timeout" (valueAt config "probe_timeout") = .ok probeLimit ∧
      strictIssues (valueAt config "strict_variables") = .ok strict ∧
      messages = names.map unknownKeyIssue ++ pathIssues (valueAt config "path") ++ arguments
        ++ folderIssues (valueAt config "workspace_folders") ++ limit ++ probeLimit ++ strict := by
  have hunknown : ((config.map (·.1)).filter fun key => !isKnownKey key) = unknownKeys config := rfl
  unfold issues
  dsimp only
  rw [hunknown]
  cases Value.sort? (unknownKeys config) with
  | none => simp
  | some keys =>
      dsimp only
      simp only [bind, Action.except_bind_eq_ok, pure, Except.pure, Except.ok.injEq, valueAt,
        Option.some.injEq, exists_and_left, exists_eq_left', eq_comm (a := messages)]

theorem names_of_mapM_shown {keys : List Value} {names : List String}
    (h : keys.mapM (fun key => shown key.plainText?) = .ok names) :
    names.map some = keys.map Value.plainText? := by
  induction keys generalizing names with
  | nil =>
      obtain rfl := Except.ok.inj h
      rfl
  | cons key rest ih =>
      rw [List.mapM_cons] at h
      obtain ⟨name, hname, h⟩ := Action.except_bind_eq_ok.mp h
      obtain ⟨others, hothers, h⟩ := Action.except_bind_eq_ok.mp h
      obtain rfl := Except.ok.inj h
      rw [List.map_cons, List.map_cons, ih hothers]
      cases htext : key.plainText? with
      | none => simp [htext, shown] at hname
      | some text =>
          rw [htext] at hname
          obtain rfl : text = name := Except.ok.inj hname
          rfl

/-- An unknown key is not written like a known one. -/
theorem notMem_knownKeys {config : Entries} {key : Value} {name : String}
    (hkey : key ∈ unknownKeys config) (h : key.plainText? = some name) : name ∉ knownKeys := by
  intro hknown
  cases htext : key.isText with
  | false =>
      have hstart : ∀ known ∈ knownKeys, ¬(known = "set()" ∨ Value.StartsLiteral known.toList) := by
        decide
      exact hstart name hknown (Value.startsLiteral_plainText? htext h)
  | true =>
      cases key with
      | text s =>
          obtain rfl : s = name := Option.some.inj h
          have hsame : isKnownKey (.text s) = true :=
            List.any_eq_true.mpr ⟨s, hknown, by simp [Value.same]⟩
          simp [unknownKeys, hsame] at hkey
      | _ => cases htext

/-- Every unknown key is reported once, and no other key is.  The check fails only where the unknown
keys cannot be sorted or where an integer of too many digits has to be written.  Unless one of them
is a sequence, the unknown keys can be sorted exactly if every two of them are on one scale. -/
theorem each_unknown_key_reported (config : Entries) :
    FailsFor (issues config) (CheckingFails config) ∧
      ((∀ key ∈ unknownKeys config, key.isSequence = false) →
        (Value.sort? (unknownKeys config) = none ↔
          ¬(unknownKeys config).Pairwise Value.SameScale)) ∧
      ∀ messages, issues config = .ok messages →
        ∃ names : List String, (names.map some).Perm ((unknownKeys config).map Value.plainText?) ∧
          (∀ name ∈ names, name ∉ knownKeys) ∧
          messages.filter reportsUnknownKey = names.map unknownKeyIssue := by
  refine ⟨failsFor_issues config, Value.sort?_eq_none_iff, fun messages hmessages => ?_⟩
  obtain ⟨keys, names, arguments, limit, probeLimit, strict, hkeys, hnames, harguments, hlimit,
    hprobeLimit, hstrict, rfl⟩ := issues_eq_ok_iff.mp hmessages
  have hwritten := names_of_mapM_shown hnames
  have hperm := Value.perm_of_sort? hkeys
  refine ⟨names, hwritten ▸ hperm.map _, fun name hname => ?_, ?_⟩
  · have hmem : some name ∈ keys.map Value.plainText? := hwritten ▸ List.mem_map_of_mem hname
    obtain ⟨key, hkey, htext⟩ := List.mem_map.mp hmem
    exact notMem_knownKeys (hperm.mem_iff.mp hkey) htext
  · have hother {key : String} {messages : List String}
        (h : ∀ message ∈ messages, Names key message) : messages.filter reportsUnknownKey = [] :=
      List.filter_eq_nil_iff.mpr fun message hmessage =>
        Bool.not_eq_true _ ▸ (h message hmessage).reportsUnknownKey_eq_false
    simp only [List.filter_append, hother names_of_mem_pathIssues, hother names_of_mem_folderIssues,
      hother (onlyNames_argumentIssues _ harguments), hother (onlyNames_secondsIssues _ _ hlimit),
      hother (onlyNames_secondsIssues _ _ hprobeLimit), hother (onlyNames_strictIssues _ hstrict),
      List.append_nil]
    refine List.filter_eq_self.mpr fun message hmessage => ?_
    obtain ⟨name, -, rfl⟩ := List.mem_map.mp hmessage
    exact reportsUnknownKey_unknownKeyIssue name

/-- A configuration with a number and a text as keys, neither of them known. -/
def mixedKeys : Entries := [(.int 1, .text "x"), (.text "a", .text "y")]

/-- A configuration with two texts as keys, neither of them known. -/
def strayKeys : Entries := [(.text "b", .null), (.text "a", .null)]

/-- Unknown keys on two scales are not reported, and two texts are. -/
theorem each_unknown_key_reported_mixed :
    (∃ failure, issues mixedKeys = .error failure) ∧
      ∃ (messages names : List String), issues strayKeys = .ok messages ∧
        (names.map some).Perm [some "b", some "a"] ∧
        messages.filter reportsUnknownKey = names.map unknownKeyIssue := by
  have hunknown : unknownKeys mixedKeys = [.int 1, .text "a"] := by rfl
  have hsort : Value.sort? (unknownKeys mixedKeys) = none := by
    refine ((each_unknown_key_reported mixedKeys).2.1 ?_).mpr ?_
    · simp [hunknown, Value.isSequence]
    · simp [hunknown, Value.SameScale, Value.scale?]
  have hstray : issues strayKeys = .ok [unknownKeyIssue "a", unknownKeyIssue "b"] := by rfl
  obtain ⟨names, hnames, -, hreports⟩ := (each_unknown_key_reported strayKeys).2.2 _ hstray
  exact ⟨(each_unknown_key_reported mixedKeys).1.2 ⟨.incomparableKeys, .inl ⟨rfl, hsort⟩⟩,
    _, names, hstray, hnames, hreports⟩

end FormatLauncher.Settings
