/-
# What stops a configuration

Settings are checked and made in many steps, and each step fails for few reasons: keys do not
compare, a value that has to be written holds an integer with too many digits, or a number of
seconds is too large for a floating point number.  A sequence fails if there is a reason for any of
its steps.  So a configuration is made into settings unless one of its entries stops it, and the
failure is then one for which there is a reason.
-/

import FormatLauncher.Proofs.Value
import FormatLauncher.Settings.Check

namespace FormatLauncher

variable {α β : Type}

/-- The answer is a failure if there is a reason for one, and then it is one of those for which
there is a reason. -/
def FailsFor (answer : Except Failure α) (reason : Failure → Prop) : Prop :=
  (∀ failure, answer = .error failure → reason failure) ∧
    ((∃ failure, reason failure) → ∃ failure, answer = .error failure)

section FailsFor

variable {answer : Except Failure α} {reason more : Failure → Prop}

theorem failsFor_ok (x : α) : FailsFor (.ok x : Except Failure α) fun _ => False :=
  ⟨nofun, fun ⟨_, h⟩ => h.elim⟩

theorem failsFor_error (failure : Failure) :
    FailsFor (.error failure : Except Failure α) (· = failure) :=
  ⟨fun _ h => (Except.error.inj h).symm, fun _ => ⟨failure, rfl⟩⟩

theorem FailsFor.mono (h : FailsFor answer reason)
    (hsound : ∀ failure, reason failure → more failure)
    (hcomplete : ∀ failure, more failure → ∃ other, reason other) : FailsFor answer more :=
  ⟨fun failure hfailure => hsound failure (h.1 failure hfailure),
    fun ⟨failure, hfailure⟩ => h.2 (hcomplete failure hfailure)⟩

theorem FailsFor.congr (h : FailsFor answer reason)
    (hiff : ∀ failure, reason failure ↔ more failure) : FailsFor answer more :=
  h.mono (fun failure => (hiff failure).mp) fun failure hfailure =>
    ⟨failure, (hiff failure).mpr hfailure⟩

/-- A sequence fails for the reasons of both of its steps. -/
theorem FailsFor.bind {next : α → Except Failure β} (h : FailsFor answer reason)
    (hnext : ∀ x, answer = .ok x → FailsFor (next x) more) :
    FailsFor (answer >>= next) fun failure => reason failure ∨ more failure := by
  cases answer with
  | error failure =>
      refine ⟨fun other hother => .inl ?_, fun _ => ⟨failure, rfl⟩⟩
      obtain rfl : failure = other := Except.error.inj hother
      exact h.1 failure rfl
  | ok x =>
      refine ⟨fun failure hfailure => .inr ((hnext x rfl).1 failure hfailure), ?_⟩
      rintro ⟨failure, hreason | hmore⟩
      · obtain ⟨other, hother⟩ := h.2 ⟨failure, hreason⟩
        cases hother
      · exact (hnext x rfl).2 ⟨failure, hmore⟩

theorem FailsFor.map (h : FailsFor answer reason) (g : α → β) :
    FailsFor (g <$> answer) reason := by
  cases answer with
  | error failure =>
      exact ⟨fun other hother => h.1 other (congrArg _ (Except.error.inj hother)),
        fun _ => ⟨failure, rfl⟩⟩
  | ok x => exact ⟨nofun, fun hreason => absurd (h.2 hreason) nofun⟩

theorem failsFor_mapM {g : α → Except Failure β} {reason : α → Failure → Prop}
    (h : ∀ x, FailsFor (g x) (reason x)) (xs : List α) :
    FailsFor (xs.mapM g) fun failure => ∃ x ∈ xs, reason x failure := by
  induction xs with
  | nil => exact (failsFor_ok []).congr (by simp)
  | cons x rest ih =>
      rw [List.mapM_cons]
      refine ((h x).bind fun y _ => ih.bind fun ys _ => failsFor_ok (y :: ys)).congr ?_
      simp

end FailsFor

namespace Settings

namespace Coercion

variable {coercion : Coercion α} {reason more : Failure → Prop}

/-- The coercion has this answer, and all it does besides is to warn. -/
def Gives (coercion : Coercion α) (answer : Except Failure α) : Prop :=
  ∀ warnings, ∃ more, coercion warnings = (answer, warnings ++ more)

/-- The coercion stops if there is a reason, and then for one. -/
def StopsFor (coercion : Coercion α) (reason : Failure → Prop) : Prop :=
  ∃ answer, coercion.Gives answer ∧ FailsFor answer reason

theorem gives_pure (x : α) : (pure x : Coercion α).Gives (.ok x) :=
  fun warnings => ⟨[], by rw [List.append_nil]; rfl⟩

theorem gives_warn (text : String) : (warn text).Gives (.ok ()) := fun _ => ⟨[text], rfl⟩

theorem gives_lift (answer : Except Failure α) : (liftM answer : Coercion α).Gives answer := by
  intro warnings
  exact ⟨[], by rw [List.append_nil]; rfl⟩

theorem Gives.result_eq {answer : Except Failure α} (h : coercion.Gives answer) :
    coercion.outcome.1 = answer := by
  obtain ⟨more, hmore⟩ := h []
  rw [outcome, hmore]

theorem Gives.bind {answer : Except Failure α} {next : α → Coercion β}
    {rest : α → Except Failure β} (h : coercion.Gives answer)
    (hnext : ∀ x, answer = .ok x → (next x).Gives (rest x)) :
    (coercion >>= next).Gives (answer >>= rest) := by
  intro warnings
  obtain ⟨first, hfirst⟩ := h warnings
  have hbind : (coercion >>= next) warnings =
      ExceptT.bindCont next (coercion warnings).1 (coercion warnings).2 := rfl
  rw [hbind, hfirst]
  cases answer with
  | error failure => exact ⟨first, rfl⟩
  | ok x =>
      obtain ⟨second, hsecond⟩ := hnext x rfl (warnings ++ first)
      exact ⟨first ++ second, by rw [← List.append_assoc]; exact hsecond⟩

theorem StopsFor.failsFor (h : coercion.StopsFor reason) : FailsFor coercion.outcome.1 reason := by
  obtain ⟨answer, hgives, hfails⟩ := h
  rw [hgives.result_eq]
  exact hfails

theorem StopsFor.congr (h : coercion.StopsFor reason)
    (hiff : ∀ failure, reason failure ↔ more failure) : coercion.StopsFor more := by
  obtain ⟨answer, hgives, hfails⟩ := h
  exact ⟨answer, hgives, hfails.congr hiff⟩

theorem stopsFor_pure (x : α) : (pure x : Coercion α).StopsFor fun _ => False :=
  ⟨.ok x, gives_pure x, failsFor_ok x⟩

theorem stopsFor_lift {answer : Except Failure α} (h : FailsFor answer reason) :
    (liftM answer : Coercion α).StopsFor reason :=
  ⟨answer, gives_lift answer, h⟩

/-- What follows a coercion with a known answer has to be known for this answer only. -/
theorem StopsFor.bind_of_gives {answer : Except Failure α} {next : α → Coercion β}
    (hgives : coercion.Gives answer) (hfails : FailsFor answer reason)
    (hnext : ∀ x, answer = .ok x → (next x).StopsFor more) :
    (coercion >>= next).StopsFor fun failure => reason failure ∨ more failure := by
  cases answer with
  | error failure =>
      exact ⟨_, @Gives.bind _ _ _ _ _ (fun _ => .error failure) hgives nofun, hfails.bind nofun⟩
  | ok x =>
      obtain ⟨last, hlast, hmore⟩ := hnext x rfl
      refine ⟨_, @Gives.bind _ _ _ _ _ (fun _ => last) hgives ?_, hfails.bind fun _ _ => hmore⟩
      rintro _ ⟨⟩
      exact hlast

/-- A sequence stops for the reasons of both of its coercions. -/
theorem StopsFor.bind {next : α → Coercion β} (h : coercion.StopsFor reason)
    (hnext : ∀ x, (next x).StopsFor more) :
    (coercion >>= next).StopsFor fun failure => reason failure ∨ more failure := by
  obtain ⟨answer, hgives, hfails⟩ := h
  exact .bind_of_gives hgives hfails fun x _ => hnext x

/-- A coercion that stops nothing can be left out. -/
theorem StopsFor.after {x : α} {next : α → Coercion β} (hgives : coercion.Gives (.ok x))
    (h : (next x).StopsFor reason) : (coercion >>= next).StopsFor reason := by
  obtain ⟨answer, hanswer, hfails⟩ := h
  refine ⟨answer, @Gives.bind _ _ _ _ _ (fun _ => answer) hgives ?_, hfails⟩
  rintro _ ⟨⟩
  exact hanswer

theorem StopsFor.warn_bind {next : Unit → Coercion α} (text : String)
    (h : (next ()).StopsFor reason) : (warn text >>= next).StopsFor reason :=
  .after (gives_warn text) h

theorem stopsFor_mapM {g : α → Coercion β} {reason : α → Failure → Prop}
    (h : ∀ x, (g x).StopsFor (reason x)) (xs : List α) :
    (xs.mapM g).StopsFor fun failure => ∃ x ∈ xs, reason x failure := by
  induction xs with
  | nil => exact (stopsFor_pure []).congr (by simp)
  | cons x rest ih =>
      rw [List.mapM_cons]
      exact ((h x).bind fun y => ih.bind fun ys => stopsFor_pure (y :: ys)).congr (by simp)

end Coercion

open Coercion

/-! ## The coercions -/

/-- Something is too long to be written, if this holds. -/
def Long (holds : Prop) (failure : Failure) : Prop := failure = .numberTooLong ∧ holds

theorem failsFor_shown {text : Option String} {holds : Prop} (h : text = none ↔ holds) :
    FailsFor (shown text) (Long holds) := by
  cases text with
  | some text => exact (failsFor_ok text).congr (by simp [Long, ← h])
  | none => exact (failsFor_error .numberTooLong).congr (by simp [Long, ← h])

/-- One of several values is too long if it holds of one of them. -/
theorem exists_long_iff {items : List α} {holds : α → Prop} {failure : Failure} :
    (∃ x ∈ items, Long (holds x) failure) ↔ Long (∃ x ∈ items, holds x) failure := by
  constructor
  · rintro ⟨x, hx, hfailure, h⟩
    exact ⟨hfailure, x, hx, h⟩
  · rintro ⟨hfailure, x, hx, h⟩
    exact ⟨x, hx, hfailure, h⟩

theorem stopsFor_pure_of_not (x : α) {holds : Prop} (h : ¬holds) :
    (pure x : Coercion α).StopsFor (Long holds) :=
  (stopsFor_pure x).congr (by simp [Long, h])

theorem stopsFor_literal (v : Value) :
    (liftM (shown v.literal?) : Coercion String).StopsFor (Long v.IsLong) :=
  stopsFor_lift (failsFor_shown Value.literal?_eq_none_iff)

theorem stopsFor_plainText (v : Value) :
    (liftM (shown v.plainText?) : Coercion String).StopsFor (Long v.IsLong) :=
  stopsFor_lift (failsFor_shown Value.plainText?_eq_none_iff)

/-- Converting a value with a warning stops if the value cannot be written. -/
theorem stopsFor_converting (v : Value) (warning : String → String) (g : String → α) :
    (do
      warn (warning (← shown v.literal?))
      return g (← shown v.plainText?) : Coercion α).StopsFor (Long v.IsLong) :=
  ((stopsFor_literal v).bind fun _ => .warn_bind _
    ((stopsFor_plainText v).bind fun _ => stopsFor_pure _)).congr (by simp)

theorem stopsFor_coercePath (v : Value) : (coercePath v).StopsFor (Long v.IsLong) := by
  unfold coercePath
  split
  · exact stopsFor_pure_of_not none nofun
  · exact stopsFor_pure_of_not _ nofun
  · exact stopsFor_converting v _ some

theorem stopsFor_coerceArgument (v : Value) : (coerceArgument v).StopsFor (Long v.IsLong) := by
  unfold coerceArgument
  split
  · exact .warn_bind _ (stopsFor_pure_of_not [] nofun)
  · exact stopsFor_pure_of_not _ nofun
  · exact stopsFor_converting v _ fun text => [text]

/-- What the arguments are made of: the items of a list, or else the value itself. -/
def argumentsOf (v : Value) : List Value :=
  match v.bare with
  | .null => []
  | .list items | .tuple items => items
  | _ => [v]

theorem stopsFor_coerceArguments (v : Value) :
    (coerceArguments v).StopsFor (Long (∃ item ∈ argumentsOf v, item.IsLong)) := by
  have hitems (items : List Value) : (do
      return (← items.mapM coerceArgument).flatten : Coercion _).StopsFor
        (Long (∃ item ∈ items, item.IsLong)) :=
    ((stopsFor_mapM stopsFor_coerceArgument items).bind fun texts =>
      stopsFor_pure texts.flatten).congr (by simp [exists_long_iff])
  unfold coerceArguments
  split
  · next heq => exact stopsFor_pure_of_not [] (by simp [argumentsOf, heq])
  · next items heq => simpa only [argumentsOf, heq] using hitems items
  · next items heq => simpa only [argumentsOf, heq] using hitems items
  · next hnull hlist htuple =>
      have hself : argumentsOf v = [v] := by
        unfold argumentsOf
        split
        · next heq => exact absurd heq hnull
        · next heq => exact absurd heq (hlist _)
        · next heq => exact absurd heq (htuple _)
        · rfl
      rw [hself]
      exact .warn_bind _ (((stopsFor_plainText v).bind fun _ => stopsFor_pure _).congr (by simp))

/-- The entries of a mapping; any other value has none. -/
def foldersOf (v : Value) : Entries :=
  match v.bare with
  | .map entries => entries
  | _ => []

theorem gives_folderEntries (v : Value) : (folderEntries v).Gives (.ok (foldersOf v)) := by
  rw [folderEntries, foldersOf, ← Value.isTruthy_bare]
  generalize v.bare = bare
  cases bare with
  | map entries =>
      dsimp only
      split
      · next hempty =>
          obtain rfl : entries = [] := by simpa [Value.isTruthy] using hempty
          exact gives_pure []
      · exact gives_pure entries
  | _ =>
      dsimp only
      split
      · exact gives_pure []
      · exact (gives_warn _).bind fun _ _ => gives_pure []

theorem stopsFor_coerceFolders (entries : Entries) : (coerceFolders entries).StopsFor
    (Long (∃ entry ∈ entries, entry.1.IsLong ∨ entry.2.IsLong)) := by
  have hentry (entry : Value × Value) : (do
      return (← shown entry.1.plainText?, ← shown entry.2.plainText?) :
        Coercion (String × String)).StopsFor (Long (entry.1.IsLong ∨ entry.2.IsLong)) :=
    ((stopsFor_plainText entry.1).bind fun _ => (stopsFor_plainText entry.2).bind fun _ =>
      stopsFor_pure _).congr (by simp [Long, and_or_left])
  unfold coerceFolders
  exact ((stopsFor_mapM hentry entries).bind fun texts => stopsFor_pure _).congr
    (by simp [exists_long_iff])

theorem stopsFor_coerceWorkspace (v : Value) :
    (coerceWorkspace v).StopsFor (Long (v.isTruthy = true ∧ v.IsLong)) := by
  unfold coerceWorkspace
  split
  · next htruthy =>
      exact ((stopsFor_plainText v).bind fun _ => stopsFor_pure _).congr (by simp [htruthy])
  · next hfalse => exact stopsFor_pure_of_not none (by simp [hfalse])

/-- Only an integer that is too large is refused as a number. -/
theorem failsFor_number? (v : Value) : FailsFor (number? v) fun failure =>
    failure = .numberTooLarge ∧ ∃ n, v = .int n ∧ Binary64.leastOverflowing ≤ n.natAbs := by
  cases v with
  | int n =>
      rw [number?]
      split
      · next hlarge =>
          exact (failsFor_error _).congr (by simp [Binary64.isInfinite_ofInt_iff.mp hlarge])
      · next hfits =>
          exact (failsFor_ok _).congr (by simp [Binary64.isInfinite_ofInt_iff.not.mp hfits])
  | _ => exact (failsFor_ok _).congr (by simp)

/-- A value that is read as a number can be written. -/
theorem not_isLong_of_number? {v : Value} {x : Binary64} (h : number? v = .ok (some x)) :
    ¬v.IsLong := by
  intro hlong
  cases hlong with
  | int hdigits =>
      have hlarge := Nat.le_trans Value.leastOverflowing_le_leastUnwritable hdigits
      rw [← Binary64.isInfinite_ofInt_iff] at hlarge
      simp [number?, hlarge] at h
  | _ => simp [number?] at h

/-- A value that is no number is written, and the default is used. -/
theorem stopsFor_orDefault {v : Value} (warning : String → String) (default : Option Binary64)
    {number : Option Binary64} (hnumber : number? v = .ok number) :
    (do
      match number with
      | some x => return some x
      | none =>
        warn (warning (← shown v.literal?))
        return default : Coercion (Option Binary64)).StopsFor (Long v.IsLong) := by
  cases number with
  | some x => exact stopsFor_pure_of_not _ (not_isLong_of_number? hnumber)
  | none =>
      exact ((stopsFor_literal v).bind fun _ => .warn_bind _ (stopsFor_pure default)).congr
        (by simp)

/-- Reading a number of seconds stops because of the value under its key. -/
def SecondsStop (config : Entries) (key : String) (failure : Failure) : Prop :=
  ∃ v, config.get? key = some v ∧
    ((failure = .numberTooLarge ∧ ∃ n, v = .int n ∧ Binary64.leastOverflowing ≤ n.natAbs) ∨
      Long v.IsLong failure)

theorem stopsFor_coerceSeconds (config : Entries) (key : String) (default : Option Binary64) :
    (coerceSeconds config key default).StopsFor (SecondsStop config key) := by
  unfold coerceSeconds SecondsStop
  split
  · next hnone => exact (stopsFor_pure default).congr (by simp [hnone])
  · next hnull =>
      exact (stopsFor_pure none).congr (by simp [hnull, Long])
  · next v hnull hv =>
      exact (StopsFor.bind_of_gives (gives_lift _) (failsFor_number? v) fun _ hnumber =>
        stopsFor_orDefault _ default hnumber).congr (by simp [hv])

/-- The value under a key, which is null for a key that is not there. -/
def valueAt (config : Entries) (key : String) : Value := (config.get? key).getD .null

/-- There is a value under a key where it is not null. -/
theorem get?_of_valueAt_ne {config : Entries} {key : String} (h : valueAt config key ≠ .null) :
    config.get? key = some (valueAt config key) := by
  unfold valueAt at h ⊢
  cases hv : config.get? key with
  | none => simp [hv] at h
  | some v => rfl

theorem valueAt_of_get? {config : Entries} {key : String} {v : Value}
    (h : config.get? key = some v) : valueAt config key = v := by
  rw [valueAt, h]
  rfl

/-- Making settings fails for one of its coercions. -/
def MakingFails (config : Entries) (failure : Failure) : Prop :=
  Long (valueAt config "path").IsLong failure ∨
    Long (∃ item ∈ argumentsOf (valueAt config "args"), item.IsLong) failure ∨
    Long ((valueAt config "workspace").isTruthy = true ∧
      (valueAt config "workspace").IsLong) failure ∨
    Long (∃ entry ∈ foldersOf (valueAt config "workspace_folders"),
      entry.1.IsLong ∨ entry.2.IsLong) failure ∨
    SecondsStop config "timeout" failure ∨ SecondsStop config "probe_timeout" failure

theorem stopsFor_ofEntries (config : Entries) :
    (ofEntries config).StopsFor (MakingFails config) := by
  unfold ofEntries MakingFails
  exact StopsFor.congr ((stopsFor_coercePath _).bind fun _ => .after (gives_folderEntries _)
    ((stopsFor_coerceArguments _).bind fun _ => (stopsFor_coerceWorkspace _).bind fun _ =>
      (stopsFor_coerceFolders _).bind fun _ => (stopsFor_coerceSeconds _ _ _).bind fun _ =>
        (stopsFor_coerceSeconds _ _ _).bind fun _ => stopsFor_pure _))
    (by simp only [or_false]; exact fun _ => Iff.rfl)

/-! ## The checks -/

/-- The keys of a configuration that are not known. -/
def unknownKeys (config : Entries) : List Value :=
  (config.map (·.1)).filter fun key => !isKnownKey key

theorem failsFor_argumentIssues (v : Value) : FailsFor (argumentIssues v)
    (Long (∃ items, v.bare = .list items ∧ ∃ item ∈ items, item.IsLong)) := by
  unfold argumentIssues
  split
  · next heq => exact (failsFor_ok _).congr (by simp [Long, heq])
  · next items heq =>
      have hbad : (∃ item ∈ items.filter fun item => !item.isText, item.IsLong) ↔
          ∃ item ∈ items, item.IsLong := by
        constructor
        · rintro ⟨item, hitem, h⟩
          exact ⟨item, (List.mem_filter.mp hitem).1, h⟩
        · rintro ⟨item, hitem, h⟩
          refine ⟨item, List.mem_filter.mpr ⟨hitem, ?_⟩, h⟩
          cases item with
          | text s => exact absurd h (Value.not_isLong_text s)
          | _ => rfl
      dsimp only
      split
      · next hnone =>
          have hempty : items.filter (fun item => !item.isText) = [] := by simpa using hnone
          refine (failsFor_ok _).congr fun failure => ?_
          rw [hempty] at hbad
          simp [Long, heq, ← hbad]
      · refine (FailsFor.map (failsFor_shown Value.literal?_eq_none_iff) _).congr fun failure => ?_
        rw [Value.isLong_list_iff, hbad]
        simp [Long, heq]
  · next hlist =>
      refine (failsFor_ok _).congr fun failure => ?_
      simp only [Long, false_iff, not_and, not_exists]
      exact fun _ items heq => absurd heq (hlist items)

theorem failsFor_secondsIssues (key : String) (v : Value) :
    FailsFor (secondsIssues key v) (Long (∃ n ≤ 0, v = .int n ∧ v.IsLong)) := by
  have hwritten := failsFor_shown (Value.plainText?_eq_none_iff (v := v))
  cases v with
  | int n =>
      rw [secondsIssues]
      split
      · next hsign => exact (hwritten.map _).congr (by simp [Long, hsign])
      · next hsign => exact (failsFor_ok _).congr (by simp [Long, Int.not_le.mp hsign])
  | float x =>
      have hnone (failure : Failure) : Long (Value.float x).IsLong failure ↔
          Long (∃ n ≤ 0, Value.float x = .int n ∧ (Value.float x).IsLong) failure := by
        simp [Long]
      rw [secondsIssues]
      split
      · split
        · exact (failsFor_ok _).congr (by simp [Long])
        · exact (hwritten.map _).congr hnone
      · exact (failsFor_ok _).congr (by simp [Long])
  | _ => exact (failsFor_ok _).congr (by simp [Long])

theorem failsFor_strictIssues (v : Value) : FailsFor (strictIssues v) (Long v.IsLong) := by
  unfold strictIssues
  split
  · exact (failsFor_ok _).congr (by simp [Long])
  · exact (failsFor_ok _).congr (by simp [Long])
  · exact (failsFor_shown Value.literal?_eq_none_iff).map _

/-- Checking fails for one of its checks. -/
def CheckingFails (config : Entries) (failure : Failure) : Prop :=
  (failure = .incomparableKeys ∧ Value.sort? (unknownKeys config) = none) ∨
    Long (∃ key ∈ unknownKeys config, key.IsLong) failure ∨
    Long (∃ items, (valueAt config "args").bare = .list items ∧ ∃ item ∈ items, item.IsLong)
      failure ∨
    Long (∃ n ≤ 0, valueAt config "timeout" = .int n ∧ (valueAt config "timeout").IsLong)
      failure ∨
    Long (∃ n ≤ 0, valueAt config "probe_timeout" = .int n ∧
      (valueAt config "probe_timeout").IsLong) failure ∨
    Long (valueAt config "strict_variables").IsLong failure

theorem failsFor_issues (config : Entries) : FailsFor (issues config) (CheckingFails config) := by
  cases hsort : Value.sort? (unknownKeys config) with
  | none =>
      have hunsorted : Value.sort? ((config.map (·.1)).filter fun key => !isKnownKey key) = none :=
        hsort
      unfold issues
      simp only [hunsorted]
      exact (failsFor_error _).mono (fun _ h => .inl ⟨h, hsort⟩) fun _ _ => ⟨_, rfl⟩
  | some keys =>
      have hsorted : Value.sort? ((config.map (·.1)).filter fun key => !isKnownKey key) =
          some keys := hsort
      have hkeys : (∃ key ∈ keys, key.IsLong) ↔ ∃ key ∈ unknownKeys config, key.IsLong := by
        simp only [(Value.perm_of_sort? hsort).mem_iff]
      have hnames := failsFor_mapM (fun key : Value =>
        failsFor_shown (Value.plainText?_eq_none_iff (v := key))) keys
      unfold issues
      simp only [hsorted]
      refine FailsFor.congr (hnames.bind fun _ _ => (failsFor_argumentIssues _).bind fun _ _ =>
        (failsFor_secondsIssues "timeout" _).bind fun _ _ =>
        (failsFor_secondsIssues "probe_timeout" _).bind fun _ _ =>
        (failsFor_strictIssues _).bind fun _ _ => failsFor_ok _) fun failure => ?_
      simp only [CheckingFails, hsort, exists_long_iff, hkeys, valueAt, reduceCtorEq, and_false,
        false_or, or_false]

/-! ## Checking and making -/

/-- What keeps a configuration from being checked or made into settings, and a failure that comes
of it. -/
inductive Stops (config : Entries) : Failure → Prop
  /-- Unknown keys that do not compare cannot be reported. -/
  | unordered (h : Value.sort? (unknownKeys config) = none) : Stops config .incomparableKeys
  /-- An unknown key cannot be written. -/
  | key {key} (hkey : key ∈ unknownKeys config) (h : key.IsLong) : Stops config .numberTooLong
  /-- A value that is written wherever it is of the wrong kind cannot be written. -/
  | value {name v} (hname : name ∈ ["path", "timeout", "probe_timeout", "strict_variables"])
    (hv : config.get? name = some v) (h : v.IsLong) : Stops config .numberTooLong
  | argument {v item} (hv : config.get? "args" = some v) (hitem : item ∈ argumentsOf v)
    (h : item.IsLong) : Stops config .numberTooLong
  | workspace {v} (hv : config.get? "workspace" = some v) (htruthy : v.isTruthy = true)
    (h : v.IsLong) : Stops config .numberTooLong
  | folder {v entry} (hv : config.get? "workspace_folders" = some v) (hentry : entry ∈ foldersOf v)
    (h : entry.1.IsLong ∨ entry.2.IsLong) : Stops config .numberTooLong
  /-- A number of seconds is too large for a floating point number. -/
  | seconds {name n} (hname : name ∈ ["timeout", "probe_timeout"])
    (hv : config.get? name = some (.int n)) (h : Binary64.leastOverflowing ≤ n.natAbs) :
    Stops config .numberTooLarge

theorem get?_of_isLong {config : Entries} {key : String} (h : (valueAt config key).IsLong) :
    config.get? key = some (valueAt config key) :=
  get?_of_valueAt_ne fun hnull => Value.not_isLong_null (hnull ▸ h)

theorem get?_of_mem_argumentsOf {config : Entries} {item : Value}
    (h : item ∈ argumentsOf (valueAt config "args")) :
    config.get? "args" = some (valueAt config "args") :=
  get?_of_valueAt_ne fun hnull => by simp [hnull, argumentsOf, Value.bare] at h

theorem get?_of_mem_foldersOf {config : Entries} {entry : Value × Value}
    (h : entry ∈ foldersOf (valueAt config "workspace_folders")) :
    config.get? "workspace_folders" = some (valueAt config "workspace_folders") :=
  get?_of_valueAt_ne fun hnull => by simp [hnull, foldersOf, Value.bare] at h

theorem CheckingFails.stops {config : Entries} {failure : Failure}
    (h : CheckingFails config failure) : Stops config failure := by
  obtain ⟨rfl, h⟩ | ⟨rfl, key, hkey, h⟩ | ⟨rfl, items, heq, item, hitem, h⟩ |
    ⟨rfl, n, -, -, h⟩ | ⟨rfl, n, -, -, h⟩ | ⟨rfl, h⟩ := h
  · exact .unordered h
  · exact .key hkey h
  · have hargument : item ∈ argumentsOf (valueAt config "args") := by
      simpa [argumentsOf, heq] using hitem
    exact .argument (get?_of_mem_argumentsOf hargument) hargument h
  · exact .value (by simp) (get?_of_isLong h) h
  · exact .value (by simp) (get?_of_isLong h) h
  · exact .value (by simp) (get?_of_isLong h) h

theorem SecondsStop.stops {config : Entries} {key : String} {failure : Failure}
    (h : SecondsStop config key failure) (hkey : key ∈ ["timeout", "probe_timeout"]) :
    Stops config failure := by
  obtain ⟨v, hv, ⟨rfl, n, rfl, h⟩ | ⟨rfl, h⟩⟩ := h
  · exact .seconds hkey hv h
  · have hname : key ∈ ["path", "timeout", "probe_timeout", "strict_variables"] := by
      simp only [List.mem_cons, List.not_mem_nil, or_false] at hkey
      obtain rfl | rfl := hkey <;> simp
    exact .value hname hv h

theorem MakingFails.stops {config : Entries} {failure : Failure} (h : MakingFails config failure) :
    Stops config failure := by
  obtain ⟨rfl, h⟩ | ⟨rfl, item, hitem, h⟩ | ⟨rfl, htruthy, h⟩ | ⟨rfl, entry, hentry, h⟩ | h | h := h
  · exact .value (by simp) (get?_of_isLong h) h
  · exact .argument (get?_of_mem_argumentsOf hitem) hitem h
  · exact .workspace (get?_of_isLong h) htruthy h
  · exact .folder (get?_of_mem_foldersOf hentry) hentry h
  · exact h.stops (by simp)
  · exact h.stops (by simp)

end Settings

end FormatLauncher
