/-
# What a configuration is converted to

Settings are made by one coercion after the other.  What stops them is known; here it is said what
they come to where nothing does.  A coercion yields an answer and some warnings, the same ones
whatever was warned of before, so both can be written down as functions of the configuration, and
every other fact about the settings made is read off these.
-/

import Mathlib.Data.List.Basic
import FormatLauncher.Proofs.Literal
import FormatLauncher.Proofs.Settings

namespace FormatLauncher

variable {α β : Type}

namespace Bindings

variable {bindings : Bindings} {name other text : String}

theorem mem_names_insert :
    other ∈ (bindings.insert name text).map Prod.fst ↔
      other = name ∨ other ∈ bindings.map Prod.fst := by
  induction bindings with
  | nil => simp [insert]
  | cons head rest ih =>
      obtain ⟨first, old⟩ := head
      rw [insert]
      split
      · next hfirst =>
          subst hfirst
          simp
      · rw [List.map_cons, List.mem_cons, ih, List.map_cons, List.mem_cons]
        exact or_left_comm

theorem nodup_names_insert (honce : (bindings.map Prod.fst).Nodup) :
    ((bindings.insert name text).map Prod.fst).Nodup := by
  induction bindings with
  | nil => simp [insert]
  | cons head rest ih =>
      obtain ⟨first, old⟩ := head
      rw [List.map_cons, List.nodup_cons] at honce
      rw [insert]
      split
      · next hfirst =>
          subst hfirst
          exact List.nodup_cons.mpr honce
      · next hfirst =>
          refine List.nodup_cons.mpr ⟨fun hmem => ?_, ih honce.2⟩
          exact (mem_names_insert.mp hmem).elim hfirst honce.1

/-- Every name is bound once. -/
theorem nodup_names_ofPairs (pairs : List (String × String)) :
    ((ofPairs pairs).map Prod.fst).Nodup := by
  have hfold (bindings : Bindings) (honce : (bindings.map Prod.fst).Nodup) :
      ((pairs.foldl (fun bindings pair => bindings.insert pair.1 pair.2) bindings).map
        Prod.fst).Nodup := by
    induction pairs generalizing bindings with
    | nil => exact honce
    | cons pair rest ih => exact ih _ (nodup_names_insert honce)
  exact hfold [] List.nodup_nil

end Bindings

/-- The text that a value is converted to; null has none. -/
def Value.convertedText? : Value → Option String
  | .null => none
  | v => v.plainText?

theorem Value.convertedText?_of_ne_null {v : Value} (h : v ≠ .null) :
    v.convertedText? = v.plainText? := by
  cases v with
  | null => exact absurd rfl h
  | _ => rfl

namespace Settings

namespace Coercion

/-- The coercion has this answer and gives these warnings, whatever was warned of before. -/
def Yields (coercion : Coercion α) (answer : Except Failure α) (warnings : List String) : Prop :=
  ∀ before, coercion before = (answer, before ++ warnings)

section Yields

variable {coercion : Coercion α} {answer : Except Failure β} {first second : List String}

theorem Yields.outcome_eq {answer : Except Failure α} {warnings : List String}
    (h : coercion.Yields answer warnings) : coercion.outcome = (answer, warnings) := h []

theorem yields_pure (x : α) : (pure x : Coercion α).Yields (.ok x) [] := by
  intro before
  rw [List.append_nil]
  rfl

theorem yields_warn (text : String) : (warn text).Yields (.ok ()) [text] := fun _ => rfl

theorem yields_lift (answer : Except Failure α) : (liftM answer : Coercion α).Yields answer [] := by
  intro before
  rw [List.append_nil]
  rfl

theorem Yields.bind {x : α} {next : α → Coercion β} (h : coercion.Yields (.ok x) first)
    (hnext : (next x).Yields answer second) :
    (coercion >>= next).Yields answer (first ++ second) := by
  intro before
  have hbind : (coercion >>= next) before =
      ExceptT.bindCont next (coercion before).1 (coercion before).2 := rfl
  rw [hbind, h before, ← List.append_assoc]
  exact hnext (before ++ first)

/-- What follows a coercion without warnings gives all the warnings. -/
theorem Yields.after {x : α} {next : α → Coercion β} (h : coercion.Yields (.ok x) [])
    (hnext : (next x).Yields answer second) : (coercion >>= next).Yields answer second :=
  h.bind hnext

theorem Yields.warn_bind {next : Unit → Coercion β} (text : String)
    (hnext : (next ()).Yields answer second) :
    (warn text >>= next).Yields answer (text :: second) :=
  (yields_warn text).bind hnext

theorem yields_mapM {g : α → Coercion β} {made? : α → Option β} {warnings : α → List String}
    {xs : List α} (h : ∀ x ∈ xs, ∃ y, made? x = some y ∧ (g x).Yields (.ok y) (warnings x)) :
    (xs.mapM g).Yields (.ok (xs.filterMap made?)) (xs.flatMap warnings) := by
  induction xs with
  | nil => exact yields_pure []
  | cons x rest ih =>
      obtain ⟨y, hy, hyields⟩ := h x List.mem_cons_self
      have hrest := ih fun x hx => h x (List.mem_cons_of_mem _ hx)
      rw [List.mapM_cons, List.filterMap_cons_some hy, List.flatMap_cons]
      refine hyields.bind ?_
      rw [← List.append_nil (rest.flatMap warnings)]
      exact hrest.bind (yields_pure _)

/-- Where it is known what stops a coercion and what it yields otherwise, its outcome is known. -/
theorem StopsFor.outcome_eq_ok_iff {reason : Failure → Prop} {x y : α} {warnings more : List String}
    (hstops : coercion.StopsFor reason)
    (hyields : (∀ failure, ¬reason failure) → coercion.Yields (.ok x) warnings) :
    coercion.outcome = (.ok y, more) ↔ (∀ failure, ¬reason failure) ∧ y = x ∧ more = warnings := by
  constructor
  · intro hmade
    have hnothing (failure : Failure) : ¬reason failure := by
      intro hfailure
      obtain ⟨other, hother⟩ := hstops.failsFor.2 ⟨failure, hfailure⟩
      rw [hmade] at hother
      cases hother
    rw [(hyields hnothing).outcome_eq, Prod.mk.injEq, Except.ok.injEq] at hmade
    exact ⟨hnothing, hmade.1.symm, hmade.2.symm⟩
  · rintro ⟨hnothing, rfl, rfl⟩
    exact (hyields hnothing).outcome_eq

end Yields

end Coercion

open Coercion

/-! ## What is made and what is warned of -/

/-- The warning that a value is converted to a text. -/
def conversionWarning? (opening : String) (v : Value) : Option String :=
  v.literal?.map fun text => opening ++ text ++ " to string"

/-- The warnings about the path. -/
def pathWarnings (v : Value) : List String :=
  if v.isNull || v.isText then [] else (conversionWarning? "Converting non-string 'path' " v).toList

/-- The warning about one entry of the arguments. -/
def argumentWarning? : Value → Option String
  | .null => some "Ignoring empty entry in 'args'"
  | .text _ => none
  | v => conversionWarning? "Converting non-string argument " v

/-- The warnings about the arguments. -/
def argumentWarnings (v : Value) : List String :=
  match v.bare with
  | .null => []
  | .list items | .tuple items => items.filterMap argumentWarning?
  | _ => ["'args' should be a list, got " ++ v.kindName ++ "; using it as one argument"]

/-- The warnings about the named folders. -/
def folderWarnings (v : Value) : List String :=
  if !v.isTruthy then []
  else
    match v.bare with
    | .map _ => []
    | _ => ["'workspace_folders' must be a mapping; ignoring it"]

/-- The warnings about a number of seconds. -/
def secondsWarnings (config : Entries) (key : String) (default : Option Binary64) : List String :=
  match config.get? key with
  | none | some .null => []
  | some v =>
    match number? v with
    | .ok none =>
      (v.literal?.map fun text => "'" ++ key ++ "' must be a number of seconds, got " ++ text
        ++ "; using " ++ defaultText default).toList
    | _ => []

/-- The number of seconds under a key: none for null, and the default where there is no number. -/
def secondsOf (config : Entries) (key : String) (default : Option Binary64) : Option Binary64 :=
  match config.get? key with
  | none => default
  | some .null => none
  | some v =>
    match number? v with
    | .ok (some x) => some x
    | _ => default

/-- The texts of an entry of the named folders. -/
def folderTexts? (entry : Value × Value) : Option (String × String) :=
  entry.1.plainText?.bind fun name => entry.2.plainText?.map fun text => (name, text)

/-- The settings that a configuration is converted to, where nothing stops it. -/
def converted (config : Entries) : Settings where
  path := (valueAt config "path").convertedText?.filter (· ≠ "")
  arguments := (argumentsOf (valueAt config "args")).filterMap Value.convertedText?
  workspace :=
    if (valueAt config "workspace").isTruthy then (valueAt config "workspace").plainText? else none
  folders :=
    Bindings.ofPairs ((foldersOf (valueAt config "workspace_folders")).filterMap folderTexts?)
  limit := secondsOf config "timeout" none
  probeLimit := secondsOf config "probe_timeout" (some defaultProbeLimit)
  strict := (valueAt config "strict_variables").isTruthy

/-- The warnings that come of it. -/
def conversionWarnings (config : Entries) : List String :=
  pathWarnings (valueAt config "path") ++ (folderWarnings (valueAt config "workspace_folders") ++
    (argumentWarnings (valueAt config "args") ++ (secondsWarnings config "timeout" none ++
      secondsWarnings config "probe_timeout" (some defaultProbeLimit))))

/-! ## What each coercion yields -/

theorem yields_shown {text : Option String} {s : String} (h : text = some s) :
    (liftM (shown text) : Coercion String).Yields (.ok s) [] := by
  subst h
  exact yields_lift (.ok s)

/-- A value that is not too long has both texts. -/
theorem exists_texts {v : Value} (h : ¬v.IsLong) :
    (∃ literal, v.literal? = some literal) ∧ ∃ text, v.plainText? = some text := by
  rw [← Option.ne_none_iff_exists', ← Option.ne_none_iff_exists', ne_eq, ne_eq,
    Value.literal?_eq_none_iff, Value.plainText?_eq_none_iff]
  exact ⟨h, h⟩

/-- Converting a value gives its plain text, and a warning with its literal. -/
theorem yields_converting {v : Value} (h : ¬v.IsLong) (opening : String) (g : String → α) :
    ∃ text, v.plainText? = some text ∧ (do
      warn (opening ++ (← shown v.literal?) ++ " to string")
      return g (← shown v.plainText?) : Coercion α).Yields (.ok (g text))
        (conversionWarning? opening v).toList := by
  obtain ⟨⟨literal, hliteral⟩, text, htext⟩ := exists_texts h
  have hwarning : (conversionWarning? opening v).toList = [opening ++ literal ++ " to string"] := by
    rw [conversionWarning?, hliteral]
    rfl
  rw [hwarning]
  exact ⟨text, htext, (yields_shown hliteral).after
    (.warn_bind _ ((yields_shown htext).after (yields_pure (g text))))⟩

theorem pathWarnings_of_ne {v : Value} (hnull : v ≠ .null) (htext : ∀ s, v ≠ .text s) :
    pathWarnings v = (conversionWarning? "Converting non-string 'path' " v).toList := by
  cases v with
  | null => exact absurd rfl hnull
  | text s => exact absurd rfl (htext s)
  | _ => rfl

theorem yields_coercePath {v : Value} (h : ¬v.IsLong) :
    (coercePath v).Yields (.ok v.convertedText?) (pathWarnings v) := by
  unfold coercePath
  split
  · exact yields_pure none
  · exact yields_pure (some _)
  · next hnull htext =>
      obtain ⟨text, hplain, hyields⟩ := yields_converting h "Converting non-string 'path' " some
      have hconverted : v.convertedText? = some text := by
        rw [Value.convertedText?_of_ne_null hnull, hplain]
      rw [hconverted, pathWarnings_of_ne hnull htext]
      exact hyields

theorem argumentWarning?_of_ne {v : Value} (hnull : v ≠ .null) (htext : ∀ s, v ≠ .text s) :
    argumentWarning? v = conversionWarning? "Converting non-string argument " v := by
  cases v with
  | null => exact absurd rfl hnull
  | text s => exact absurd rfl (htext s)
  | _ => rfl

theorem yields_coerceArgument {v : Value} (h : ¬v.IsLong) :
    (coerceArgument v).Yields (.ok v.convertedText?.toList) (argumentWarning? v).toList := by
  unfold coerceArgument
  split
  · exact .warn_bind _ (yields_pure [])
  · exact yields_pure [_]
  · next hnull htext =>
      obtain ⟨text, hplain, hyields⟩ :=
        yields_converting h "Converting non-string argument " fun text => [text]
      have hconverted : v.convertedText? = some text := by
        rw [Value.convertedText?_of_ne_null hnull, hplain]
      rw [hconverted, argumentWarning?_of_ne hnull htext]
      exact hyields

/-- The entries of a list are converted one by one. -/
theorem yields_coerceItems {items : List Value} (h : ∀ item ∈ items, ¬item.IsLong) :
    (do return (← items.mapM coerceArgument).flatten : Coercion (List String)).Yields
      (.ok (items.filterMap Value.convertedText?)) (items.filterMap argumentWarning?) := by
  have hitems : (items.mapM coerceArgument).Yields
      (.ok (items.filterMap fun item => some item.convertedText?.toList))
      (items.flatMap fun item => (argumentWarning? item).toList) :=
    yields_mapM fun item hitem => ⟨_, rfl, yields_coerceArgument (h item hitem)⟩
  have htexts : (items.filterMap fun item => some item.convertedText?.toList).flatten =
      items.filterMap Value.convertedText? := by
    rw [List.filterMap_eq_flatMap_toList Value.convertedText?, List.flatMap_def,
      List.filterMap_eq_map']
  rw [← htexts, List.filterMap_eq_flatMap_toList argumentWarning?,
    ← List.append_nil (items.flatMap _)]
  exact hitems.bind (yields_pure _)

/-- A value that counts as false holds no folders. -/
theorem foldersOf_of_isTruthy_eq_false {v : Value} (h : v.isTruthy = false) :
    foldersOf v = [] := by
  rw [← Value.isTruthy_bare] at h
  unfold foldersOf
  split
  · next entries hmap => simpa [hmap, Value.isTruthy] using h
  · rfl

theorem yields_coerceArguments {v : Value} (h : ∀ item ∈ argumentsOf v, ¬item.IsLong) :
    (coerceArguments v).Yields (.ok ((argumentsOf v).filterMap Value.convertedText?))
      (argumentWarnings v) := by
  -- A value of any other kind is the only argument.
  have honly (hself : argumentsOf v = [v]) (hnull : v ≠ .null) (warning : String) : (do
      warn warning
      return [← shown v.plainText?] : Coercion (List String)).Yields
        (.ok ((argumentsOf v).filterMap Value.convertedText?)) [warning] := by
    obtain ⟨-, text, htext⟩ := exists_texts (h v (by simp [hself]))
    have hconverted : v.convertedText? = some text := by
      rw [Value.convertedText?_of_ne_null hnull, htext]
    rw [hself, List.filterMap_cons_some hconverted]
    exact .warn_bind warning ((yields_shown htext).after (yields_pure [text]))
  unfold coerceArguments argumentWarnings
  cases hbare : v.bare with
  | null =>
      simp only [argumentsOf, hbare]
      exact yields_pure []
  | list items | tuple items =>
      simp only [argumentsOf, hbare] at h ⊢
      exact yields_coerceItems h
  | _ =>
      refine honly (by simp only [argumentsOf, hbare]) ?_ _
      rintro rfl
      cases hbare

theorem yields_folderEntries (v : Value) :
    (folderEntries v).Yields (.ok (foldersOf v)) (folderWarnings v) := by
  cases htruthy : v.isTruthy with
  | false =>
      rw [foldersOf_of_isTruthy_eq_false htruthy]
      simp only [folderEntries, folderWarnings, htruthy]
      exact yields_pure []
  | true =>
      simp only [folderEntries, folderWarnings, foldersOf, htruthy]
      cases v.bare with
      | map entries => exact yields_pure entries
      | _ => exact .warn_bind _ (yields_pure [])

theorem yields_coerceFolders {entries : Entries}
    (h : ∀ entry ∈ entries, ¬(entry.1.IsLong ∨ entry.2.IsLong)) :
    (coerceFolders entries).Yields
      (.ok (Bindings.ofPairs (entries.filterMap folderTexts?))) [] := by
  have hentries : (entries.mapM fun entry => do
      return (← shown entry.1.plainText?, ← shown entry.2.plainText?) :
        Coercion (List (String × String))).Yields
        (.ok (entries.filterMap folderTexts?)) (entries.flatMap fun _ => []) := by
    refine yields_mapM fun entry hentry => ?_
    obtain ⟨hname, hpath⟩ := not_or.mp (h entry hentry)
    obtain ⟨-, name, hname⟩ := exists_texts hname
    obtain ⟨-, text, htext⟩ := exists_texts hpath
    exact ⟨(name, text), by simp [folderTexts?, hname, htext],
      (yields_shown hname).after ((yields_shown htext).after (yields_pure (name, text)))⟩
  rw [List.flatMap_eq_nil_iff.mpr fun _ _ => rfl] at hentries
  exact hentries.after (yields_pure _)

theorem yields_coerceWorkspace {v : Value} (h : ¬(v.isTruthy = true ∧ v.IsLong)) :
    (coerceWorkspace v).Yields (.ok (if v.isTruthy then v.plainText? else none)) [] := by
  unfold coerceWorkspace
  split
  · next htruthy =>
      obtain ⟨-, text, htext⟩ := exists_texts fun hlong => h ⟨htruthy, hlong⟩
      have hanswer : (.ok v.plainText? : Except Failure (Option String)) = .ok (some text) := by
        rw [htext]
      rw [hanswer]
      exact (yields_shown htext).after (yields_pure (some text))
  · exact yields_pure none

/-- A value that is no number is written, and the default is used. -/
theorem yields_orDefault {v : Value} (h : ¬v.IsLong) (number default : Option Binary64)
    (warning : String → String) :
    (do
      match number with
      | some x => return some x
      | none =>
        warn (warning (← shown v.literal?))
        return default : Coercion (Option Binary64)).Yields (.ok (number.or default))
          (if number.isNone then (v.literal?.map warning).toList else []) := by
  cases number with
  | some x => exact yields_pure (some x)
  | none =>
      obtain ⟨⟨literal, hliteral⟩, -⟩ := exists_texts h
      rw [hliteral]
      exact (yields_shown rfl).after (.warn_bind (warning literal) (yields_pure default))

theorem yields_coerceSeconds {config : Entries} {key : String} (default : Option Binary64)
    (h : ∀ failure, ¬SecondsStop config key failure) :
    (coerceSeconds config key default).Yields (.ok (secondsOf config key default))
      (secondsWarnings config key default) := by
  unfold coerceSeconds secondsOf secondsWarnings
  cases hv : config.get? key with
  | none => exact yields_pure default
  | some v =>
      have hlong : ¬v.IsLong := fun hlong => h .numberTooLong ⟨v, hv, .inr ⟨rfl, hlong⟩⟩
      obtain ⟨number, hnumber⟩ : ∃ number, number? v = .ok number := by
        cases hnumber : number? v with
        | ok number => exact ⟨number, rfl⟩
        | error failure =>
            exact absurd ⟨v, hv, .inl ((failsFor_number? v).1 failure hnumber)⟩ (h failure)
      have hyields := yields_orDefault hlong number default fun text =>
        "'" ++ key ++ "' must be a number of seconds, got " ++ text ++ "; using " ++
          defaultText default
      cases v with
      | null => exact yields_pure none
      | _ =>
          dsimp only
          rw [hnumber]
          cases number with
          | none => exact (yields_lift _).after hyields
          | some x => exact (yields_lift _).after hyields

/-- Where nothing stops it, a configuration is converted, with the warnings that come of it. -/
theorem yields_ofEntries {config : Entries} (h : ∀ failure, ¬MakingFails config failure) :
    (ofEntries config).Yields (.ok (converted config)) (conversionWarnings config) := by
  have hpath : ¬(valueAt config "path").IsLong :=
    fun hlong => h .numberTooLong (.inl ⟨rfl, hlong⟩)
  have harguments : ∀ item ∈ argumentsOf (valueAt config "args"), ¬item.IsLong :=
    fun item hitem hlong => h .numberTooLong (.inr (.inl ⟨rfl, item, hitem, hlong⟩))
  have hworkspace :
      ¬((valueAt config "workspace").isTruthy = true ∧ (valueAt config "workspace").IsLong) :=
    fun hlong => h .numberTooLong (.inr (.inr (.inl ⟨rfl, hlong⟩)))
  have hfolders : ∀ entry ∈ foldersOf (valueAt config "workspace_folders"),
      ¬(entry.1.IsLong ∨ entry.2.IsLong) := fun entry hentry hlong =>
    h .numberTooLong (.inr (.inr (.inr (.inl ⟨rfl, entry, hentry, hlong⟩))))
  have hlimit : ∀ failure, ¬SecondsStop config "timeout" failure :=
    fun failure hstop => h failure (.inr (.inr (.inr (.inr (.inl hstop)))))
  have hprobeLimit : ∀ failure, ¬SecondsStop config "probe_timeout" failure :=
    fun failure hstop => h failure (.inr (.inr (.inr (.inr (.inr hstop)))))
  unfold ofEntries conversionWarnings
  refine (yields_coercePath hpath).bind ?_
  refine (yields_folderEntries _).bind ?_
  refine (yields_coerceArguments harguments).bind ?_
  refine (yields_coerceWorkspace hworkspace).after ?_
  refine (yields_coerceFolders hfolders).after ?_
  refine (yields_coerceSeconds none hlimit).bind ?_
  rw [← List.append_nil (secondsWarnings config "probe_timeout" _)]
  exact (yields_coerceSeconds _ hprobeLimit).bind (yields_pure (converted config))

/-- Settings are made exactly where nothing stops them, and then they are what the configuration is
converted to. -/
theorem outcome_ofEntries_eq_ok_iff {config : Entries} {settings : Settings}
    {warnings : List String} :
    (ofEntries config).outcome = (.ok settings, warnings) ↔
      (∀ failure, ¬MakingFails config failure) ∧ settings = converted config ∧
        warnings = conversionWarnings config :=
  (stopsFor_ofEntries config).outcome_eq_ok_iff yields_ofEntries

/-- Settings as they are made: the path and the workspace are missing or not empty, and no folder is
named twice. -/
structure IsNormal (settings : Settings) : Prop where
  path_ne_empty : settings.path ≠ some ""
  workspace_ne_empty : settings.workspace ≠ some ""
  nodup_folders : (settings.folders.map Prod.fst).Nodup

theorem isNormal_converted (config : Entries) : (converted config).IsNormal where
  path_ne_empty hpath := by simp [converted] at hpath
  workspace_ne_empty hworkspace := by
    rw [converted] at hworkspace
    split at hworkspace
    · next htruthy => exact Value.plainText?_ne_empty htruthy hworkspace rfl
    · cases hworkspace
  nodup_folders := Bindings.nodup_names_ofPairs _

/-- Every configuration is converted, unless a number is in the way.  Making settings fails if
something has to be written that holds an integer of too many digits, or if a number of seconds is
an integer too large for a floating point number, and for no other reason; otherwise every value is
converted to its field or dropped from it.  The path and the workspace are then missing or not
empty, and no folder is named twice. -/
theorem converted_unless_number (config : Entries) :
    FailsFor (ofEntries config).outcome.1 (MakingFails config) ∧
      ((∀ failure, ¬MakingFails config failure) →
        (ofEntries config).outcome = (.ok (converted config), conversionWarnings config)) ∧
      (converted config).path ≠ some "" ∧ (converted config).workspace ≠ some "" ∧
      ((converted config).folders.map Prod.fst).Nodup := by
  have hnormal := isNormal_converted config
  exact ⟨(stopsFor_ofEntries config).failsFor, fun h => (yields_ofEntries h).outcome_eq,
    hnormal.path_ne_empty, hnormal.workspace_ne_empty, hnormal.nodup_folders⟩

/-- A configuration with the number of seconds `10 ^ 400`. -/
def endlessLimit : Entries := [(.text "timeout", .int (Nat.pow 10 400 : Nat))]

/-- A configuration with a path that is a flag. -/
def flagPath : Entries := [(.text "path", .bool true)]

/-- A number of seconds with 401 digits stops the settings, a flag as a path does not. -/
theorem converted_unless_number_endless :
    (∃ failure, (ofEntries endlessLimit).outcome.1 = .error failure) ∧
      (ofEntries flagPath).outcome = (.ok (converted flagPath), conversionWarnings flagPath) := by
  have hlarge : SecondsStop endlessLimit "timeout" .numberTooLarge :=
    ⟨_, rfl, .inl ⟨rfl, _, rfl, by decide +kernel⟩⟩
  have hnothing (failure : Failure) : ¬MakingFails flagPath failure := by
    rintro (⟨-, h⟩ | ⟨-, _, hitem, -⟩ | ⟨-, -, h⟩ | ⟨-, _, hentry, -⟩ | ⟨_, hv, -⟩ | ⟨_, hv, -⟩)
    · exact Value.not_isLong_bool true h
    · cases hitem
    · exact Value.not_isLong_null h
    · cases hentry
    · cases hv
    · cases hv
  exact ⟨(converted_unless_number endlessLimit).1.2
    ⟨.numberTooLarge, .inr (.inr (.inr (.inr (.inl hlarge))))⟩,
    (converted_unless_number flagPath).2.1 hnothing⟩

end Settings

end FormatLauncher
