/-
# What actions depend on and what they leave alone

The scene of a world is the world without its history: what was logged and started so far.  Three
facts about an action carry most arguments about requests.  It may only read, so that its answer
depends on the scene and all it does is to log; it may run programs and yet leave the scene as it
found it; and its outcome may depend on the scene alone, whatever the history.  All three are closed
under sequencing, so they are proved once for each action from the same facts about its parts.
-/

import FormatLauncher.World

namespace FormatLauncher

namespace World

/-- The world without its history. -/
def scene (w : World) : World := { w with log := [], runs := [] }

/-- The world with more records in its log. -/
def logging (w : World) (records : List LogRecord) : World := { w with log := w.log ++ records }

/-- The world with another file tree. -/
def withFiles (w : World) (tree : FileTree) : World := { w with files := tree }

@[simp]
theorem files_withFiles (w : World) (tree : FileTree) : (w.withFiles tree).files = tree := rfl

@[simp]
theorem directory_withFiles (w : World) (tree : FileTree) :
    (w.withFiles tree).directory = w.directory := rfl

@[simp]
theorem programs_withFiles (w : World) (tree : FileTree) :
    (w.withFiles tree).programs = w.programs := rfl

@[simp]
theorem environment_withFiles (w : World) (tree : FileTree) :
    (w.withFiles tree).environment = w.environment := rfl

@[simp]
theorem storage_withFiles (w : World) (tree : FileTree) :
    (w.withFiles tree).storage = w.storage := rfl

@[simp]
theorem withFiles_withFiles (w : World) (tree other : FileTree) :
    (w.withFiles tree).withFiles other = w.withFiles other := rfl

@[simp]
theorem withFiles_files (w : World) : w.withFiles w.files = w := rfl

@[simp]
theorem scene_scene (w : World) : w.scene.scene = w.scene := rfl

@[simp]
theorem scene_logging (w : World) (records : List LogRecord) :
    (w.logging records).scene = w.scene := rfl

@[simp]
theorem files_scene (w : World) : w.scene.files = w.files := rfl

@[simp]
theorem directory_scene (w : World) : w.scene.directory = w.directory := rfl

@[simp]
theorem storage_scene (w : World) : w.scene.storage = w.storage := rfl

@[simp]
theorem files_logging (w : World) (records : List LogRecord) :
    (w.logging records).files = w.files := rfl

@[simp]
theorem directory_logging (w : World) (records : List LogRecord) :
    (w.logging records).directory = w.directory := rfl

@[simp]
theorem storage_logging (w : World) (records : List LogRecord) :
    (w.logging records).storage = w.storage := rfl

@[simp]
theorem runs_logging (w : World) (records : List LogRecord) :
    (w.logging records).runs = w.runs := rfl

@[simp]
theorem logging_nil (w : World) : w.logging [] = w := by
  simp [logging]

@[simp]
theorem logging_logging (w : World) (first second : List LogRecord) :
    (w.logging first).logging second = w.logging (first ++ second) := by
  simp [logging]

/-- Worlds of one scene have the same files. -/
theorem files_eq_of_scene_eq {w other : World} (h : w.scene = other.scene) :
    w.files = other.files := by
  simpa using congrArg World.files h

/-- Worlds of one scene have the same programs and the same environment. -/
theorem programs_and_environment_of_scene_eq {w other : World} (h : w.scene = other.scene) :
    w.programs = other.programs ∧ w.environment = other.environment := by
  simp only [scene, World.mk.injEq] at h
  exact ⟨h.2.1, h.2.2.1⟩

/-- Worlds of one scene have the same current directory. -/
theorem directory_eq_of_scene_eq {w other : World} (h : w.scene = other.scene) :
    w.directory = other.directory := by
  simpa using congrArg World.directory h

/-- Worlds of one scene stay so with another file tree. -/
theorem scene_withFiles_of_scene_eq {w other : World} (h : w.scene = other.scene)
    (tree : FileTree) : (w.withFiles tree).scene = (other.withFiles tree).scene :=
  congrArg (World.withFiles · tree) h

/-- Worlds of one scene have the same storage. -/
theorem storage_eq_of_scene_eq {w other : World} (h : w.scene = other.scene) :
    w.storage = other.storage := by
  simpa using congrArg World.storage h

end World

namespace Action

variable {α β : Type}

/-- Actions are the same when they do the same in every world. -/
theorem ext_outcome {action other : Action α}
    (h : ∀ w, action.outcome w = other.outcome w) : action = other :=
  funext h

@[simp]
theorem outcome_pure (x : α) (w : World) : (pure x : Action α).outcome w = (.ok x, w) := rfl

@[simp]
theorem outcome_throw (failure : Failure) (w : World) :
    (throw failure : Action α).outcome w = (.error failure, w) := rfl

@[simp]
theorem outcome_get (w : World) : (get : Action World).outcome w = (.ok w, w) := rfl

@[simp]
theorem outcome_say (level : Level) (text : String) (w : World) :
    (say level text).outcome w = (.ok (), w.logging [⟨level, text⟩]) := rfl

@[simp]
theorem outcome_sayAll (records : List LogRecord) (w : World) :
    (sayAll records).outcome w = (.ok (), w.logging records) := rfl

@[simp]
theorem outcome_recordRun (run : Run) (w : World) :
    (recordRun run).outcome w = (.ok (), { w with runs := w.runs ++ [run] }) := rfl

@[simp]
theorem outcome_changeFiles (change : FileTree → FileTree) (w : World) :
    (changeFiles change).outcome w = (.ok (), { w with files := change w.files }) := rfl

@[simp]
theorem outcome_attempt (action : Action α) (w : World) :
    (attempt action).outcome w = (.ok (action.outcome w).1, (action.outcome w).2) := rfl

@[simp]
theorem outcome_ofExcept (value : Except Failure α) (w : World) :
    (ofExcept value).outcome w = (value, w) := by
  cases value <;> rfl

/-- A sequence does its first action and goes on where that one ended, unless it failed. -/
theorem outcome_bind (action : Action α) (next : α → Action β) (w : World) :
    (action >>= next).outcome w =
      match action.outcome w with
      | (.ok x, later) => (next x).outcome later
      | (.error failure, later) => (.error failure, later) := by
  have hbind : (action >>= next).outcome w =
      ExceptT.bindCont next (action w).1 (action w).2 := rfl
  rw [hbind]
  rw [outcome]
  rcases action w with ⟨_ | x, later⟩ <;> rfl

/-- A sequence goes on with what its first action came to. -/
theorem outcome_bind_of_ok {action : Action α} {next : α → Action β} {w later : World} {x : α}
    (h : action.outcome w = (.ok x, later)) :
    (action >>= next).outcome w = (next x).outcome later := by
  rw [outcome_bind, h]

/-- A sequence fails where its first action does. -/
theorem outcome_bind_of_error {action : Action α} {next : α → Action β} {w later : World}
    {failure : Failure} (h : action.outcome w = (.error failure, later)) :
    (action >>= next).outcome w = (.error failure, later) := by
  rw [outcome_bind, h]

@[simp]
theorem outcome_get_bind (next : World → Action α) (w : World) :
    (get >>= next).outcome w = (next w).outcome w := rfl

@[simp]
theorem outcome_ofExcept_bind (value : Except Failure α) (next : α → Action β) (w : World) :
    (ofExcept value >>= next).outcome w =
      match value with
      | .ok x => (next x).outcome w
      | .error failure => (.error failure, w) := by
  cases value <;> rfl

@[simp]
theorem outcome_map (g : α → β) (action : Action α) (w : World) :
    (g <$> action).outcome w = ((action.outcome w).1.map g, (action.outcome w).2) := by
  rw [map_eq_pure_bind, outcome_bind]
  rcases action.outcome w with ⟨failure | x, later⟩ <;> rfl

/-- A sequence that ends with a value made of the first answer. -/
theorem outcome_bind_pure (g : α → β) (action : Action α) (w : World) :
    (action >>= fun x => pure (g x)).outcome w =
      ((action.outcome w).1.map g, (action.outcome w).2) := by
  rw [← map_eq_pure_bind, outcome_map]

/-- A sequence succeeds when both of its actions do, one after the other. -/
theorem outcome_bind_eq_ok {action : Action α} {next : α → Action β} {w later : World} {y : β} :
    (action >>= next).outcome w = (.ok y, later) ↔
      ∃ x between, action.outcome w = (.ok x, between) ∧
        (next x).outcome between = (.ok y, later) := by
  rw [outcome_bind]
  rcases action.outcome w with ⟨failure | x, between⟩
  · simp
  · constructor
    · intro h
      exact ⟨x, between, rfl, h⟩
    · rintro ⟨x', between', hsame, h⟩
      simp only [Prod.mk.injEq, Except.ok.injEq] at hsame
      rw [hsame.1, hsame.2]
      exact h

/-- Two results in a row are a value when both are. -/
theorem except_bind_eq_ok {result : Except Failure α} {next : α → Except Failure β} {y : β} :
    result.bind next = .ok y ↔ ∃ x, result = .ok x ∧ next x = .ok y := by
  cases result <;> simp [Except.bind]

/-- Two results in a row are a failure when one of them is. -/
theorem except_bind_eq_error {result : Except Failure α} {next : α → Except Failure β}
    {failure : Failure} : result.bind next = .error failure ↔
      result = .error failure ∨ ∃ x, result = .ok x ∧ next x = .error failure := by
  cases result <;> simp [Except.bind]

/-- A result that is changed is a value when it was one. -/
theorem except_map_eq_ok {result : Except Failure α} {g : α → β} {y : β} :
    result.map g = .ok y ↔ ∃ x, result = .ok x ∧ g x = y := by
  cases result <;> simp [Except.map]

theorem except_map_eq_error {result : Except Failure α} {g : α → β} {failure : Failure} :
    result.map g = .error failure ↔ result = .error failure := by
  cases result <;> simp [Except.map]

/-! ## Actions that only read -/

/-- The action reads the scene and nothing else, and changes nothing but the log, to which it
adds. -/
def Reads (action : Action α) : Prop :=
  ∀ w, ∃ records, action.outcome w = ((action.outcome w.scene).1, w.logging records)

theorem reads_pure (x : α) : (pure x : Action α).Reads :=
  fun w => ⟨[], by simp⟩

theorem reads_throw (failure : Failure) : (throw failure : Action α).Reads :=
  fun w => ⟨[], by simp⟩

theorem reads_say (level : Level) (text : String) : (say level text).Reads :=
  fun _ => ⟨_, rfl⟩

theorem reads_sayAll (records : List LogRecord) : (sayAll records).Reads :=
  fun _ => ⟨_, rfl⟩

theorem reads_ofExcept (value : Except Failure α) : (ofExcept value).Reads :=
  fun w => ⟨[], by simp⟩

theorem Reads.attempt {action : Action α} (h : action.Reads) : (attempt action).Reads := by
  intro w
  obtain ⟨records, hw⟩ := h w
  exact ⟨records, by simp [hw]⟩

/-- A sequence of actions that only read only reads. -/
theorem Reads.bind {action : Action α} {next : α → Action β} (haction : action.Reads)
    (hnext : ∀ x, (next x).Reads) : (action >>= next).Reads := by
  intro w
  obtain ⟨first, hfirst⟩ := haction w
  obtain ⟨bare, hbare⟩ := haction w.scene
  rw [World.scene_scene] at hbare
  rw [outcome_bind, outcome_bind, hfirst, hbare]
  rcases hresult : (action.outcome w.scene).1 with failure | x
  · exact ⟨first, rfl⟩
  · obtain ⟨second, hsecond⟩ := hnext x (w.logging first)
    obtain ⟨_, hscene⟩ := hnext x (w.scene.logging bare)
    exact ⟨first ++ second, by simp [hsecond, hscene]⟩

/-- Looking at the world only reads when what follows looks at the scene only. -/
theorem reads_get_bind {next : World → Action α} (hscene : ∀ w, next w.scene = next w)
    (hnext : ∀ w, (next w).Reads) : (get >>= next).Reads := by
  intro w
  obtain ⟨records, hw⟩ := hnext w w
  exact ⟨records, by simpa [outcome_bind, hscene w] using hw⟩

/-- What an action that only reads does to a world. -/
theorem Reads.outcome_eq {action : Action α} (h : action.Reads) (w : World) :
    ∃ records, action.outcome w = ((action.outcome w).1, w.logging records) := by
  obtain ⟨records, hw⟩ := h w
  exact ⟨records, by rw [hw]⟩

/-- An action that only reads starts nothing. -/
theorem Reads.runs_eq {action : Action α} (h : action.Reads) {w later : World}
    {result : Except Failure α} (houtcome : action.outcome w = (result, later)) :
    later.runs = w.runs := by
  obtain ⟨records, hw⟩ := h.outcome_eq w
  rw [houtcome, Prod.mk.injEq] at hw
  rw [hw.2, World.runs_logging]

/-- A sequence that starts something goes on after an action that only reads, in the same scene. -/
theorem Reads.bind_of_runs {action : Action α} (h : action.Reads) {next : α → Action β} {w : World}
    (hruns : ((action >>= next).outcome w).2.runs ≠ w.runs) :
    ∃ x records, (action.outcome w).1 = .ok x ∧
      (action >>= next).outcome w = (next x).outcome (w.logging records) := by
  obtain ⟨records, hw⟩ := h.outcome_eq w
  rw [outcome_bind, hw] at hruns ⊢
  cases hresult : (action.outcome w).1 with
  | error failure =>
      rw [hresult] at hruns
      exact absurd rfl hruns
  | ok x => exact ⟨x, records, rfl, rfl⟩

/-! ## Actions with a known answer -/

/-- The answer of the action is the same in every world, and all it does is to log. -/
def Answers (action : Action α) (answer : Except Failure α) : Prop :=
  ∀ w, ∃ records, action.outcome w = (answer, w.logging records)

theorem answers_pure (x : α) : (pure x : Action α).Answers (.ok x) :=
  fun w => ⟨[], by simp⟩

theorem answers_throw (failure : Failure) : (throw failure : Action α).Answers (.error failure) :=
  fun w => ⟨[], by simp⟩

theorem answers_say (level : Level) (text : String) : (say level text).Answers (.ok ()) :=
  fun _ => ⟨_, rfl⟩

/-- An action with a known answer only reads. -/
theorem Answers.reads {action : Action α} {answer : Except Failure α} (h : action.Answers answer) :
    action.Reads := by
  intro w
  obtain ⟨records, hw⟩ := h w
  obtain ⟨_, hscene⟩ := h w.scene
  exact ⟨records, by rw [hw, hscene]⟩

/-- What follows an action, when its answer is known, only adds to the log and passes judgement on
the result. -/
theorem outcome_bind_of_answers {next : α → Action β} {answer : α → Except Failure β}
    (hnext : ∀ x, (next x).Answers (answer x)) (action : Action α) (w : World) :
    ∃ records, (action >>= next).outcome w =
      ((action.outcome w).1.bind answer, (action.outcome w).2.logging records) := by
  rw [outcome_bind]
  rcases action.outcome w with ⟨failure | x, later⟩
  · exact ⟨[], by simp [Except.bind]⟩
  · exact hnext x later

/-- A known answer after an action that succeeds with nothing to say. -/
theorem Answers.bind {action : Action α} {x : α} {next : α → Action β} {answer : Except Failure β}
    (haction : action.Answers (.ok x)) (hnext : (next x).Answers answer) :
    (action >>= next).Answers answer := by
  intro w
  obtain ⟨first, hfirst⟩ := haction w
  obtain ⟨second, hsecond⟩ := hnext (w.logging first)
  exact ⟨first ++ second, by simp [outcome_bind, hfirst, hsecond]⟩

/-! ## Actions that keep the scene -/

/-- In every world with the scene of this one, the action leaves the scene as it is. -/
def KeepsScene (s : World) (action : Action α) : Prop :=
  ∀ w, w.scene = s.scene → (action.outcome w).2.scene = s.scene

/-- An action that only reads keeps every scene. -/
theorem Reads.keepsScene {action : Action α} (h : action.Reads) (s : World) :
    action.KeepsScene s := by
  intro w hscene
  obtain ⟨records, hw⟩ := h w
  rw [hw, World.scene_logging, hscene]

theorem KeepsScene.attempt {s : World} {action : Action α} (h : action.KeepsScene s) :
    (attempt action).KeepsScene s :=
  h

/-- A sequence keeps a scene when its first action does, and its second after every answer that the
first one gives there. -/
theorem KeepsScene.bind {s : World} {action : Action α} {next : α → Action β}
    (haction : action.KeepsScene s)
    (hnext : ∀ x w, w.scene = s.scene → (action.outcome w).1 = .ok x → (next x).KeepsScene s) :
    (action >>= next).KeepsScene s := by
  intro w hscene
  have hlater := haction w hscene
  rw [outcome_bind]
  rcases houtcome : action.outcome w with ⟨failure | x, later⟩
  · simpa [houtcome] using hlater
  · exact hnext x w hscene (by simp [houtcome]) later (by simpa [houtcome] using hlater)

/-- A sequence that succeeds, when its first action keeps the scene. -/
theorem KeepsScene.outcome_bind_eq_ok {s w later : World} {action : Action α}
    {next : α → Action β} {y : β} (haction : action.KeepsScene s) (hscene : w.scene = s.scene)
    (h : (action >>= next).outcome w = (.ok y, later)) :
    ∃ x between, action.outcome w = (.ok x, between) ∧ between.scene = s.scene ∧
      (next x).outcome between = (.ok y, later) := by
  obtain ⟨x, between, hfirst, hsecond⟩ := Action.outcome_bind_eq_ok.mp h
  refine ⟨x, between, hfirst, ?_, hsecond⟩
  have hlater := haction w hscene
  rwa [hfirst] at hlater

/-! ## Actions that ignore the history -/

/-- The result of the action, and the scene it leaves, depend on the scene alone. -/
def IgnoresHistory (action : Action α) : Prop :=
  ∀ w other, w.scene = other.scene →
    (action.outcome w).1 = (action.outcome other).1 ∧
      (action.outcome w).2.scene = (action.outcome other).2.scene

/-- An action that only reads ignores the history. -/
theorem Reads.ignoresHistory {action : Action α} (h : action.Reads) : action.IgnoresHistory := by
  intro w other hscene
  obtain ⟨first, hw⟩ := h w
  obtain ⟨second, hother⟩ := h other
  simp [hw, hother, hscene]

/-- A sequence of actions that ignore the history ignores it. -/
theorem IgnoresHistory.bind {action : Action α} {next : α → Action β}
    (haction : action.IgnoresHistory) (hnext : ∀ x, (next x).IgnoresHistory) :
    (action >>= next).IgnoresHistory := by
  intro w other hscene
  obtain ⟨hresult, hlater⟩ := haction w other hscene
  rw [outcome_bind, outcome_bind]
  rcases hw : action.outcome w with ⟨failure | x, later⟩ <;>
    rcases hother : action.outcome other with ⟨failure' | x', later'⟩ <;>
    simp only [hw, hother, reduceCtorEq, Except.ok.injEq, Except.error.injEq] at hresult hlater
  · exact ⟨by rw [hresult], hlater⟩
  · subst hresult
    exact hnext x later later' hlater

/-- The result of a sequence can be read off the scene it starts in, part by part, when its first
action keeps that scene and its second ignores the history. -/
theorem KeepsScene.result_bind {s : World} {action : Action α} {next : α → Action β}
    (haction : action.KeepsScene s) (hnext : ∀ x, (next x).IgnoresHistory) :
    ((action >>= next).outcome s).1 =
      (action.outcome s).1.bind fun x => ((next x).outcome s).1 := by
  have hlater := haction s rfl
  rw [outcome_bind]
  rcases houtcome : action.outcome s with ⟨failure | x, later⟩
  · rfl
  · exact (hnext x later s (by simpa [houtcome] using hlater)).1

/-! ## Actions that start few programs -/

/-- The action starts at most so many programs, and it stays in the current directory. -/
def StartsAtMost (n : Nat) (action : Action α) : Prop :=
  ∀ w, (action.outcome w).2.directory = w.directory ∧
    ∃ runs, (action.outcome w).2.runs = w.runs ++ runs ∧ runs.length ≤ n

/-- An action that only reads starts nothing. -/
theorem Reads.startsAtMost {action : Action α} (h : action.Reads) (n : Nat) :
    action.StartsAtMost n := by
  intro w
  obtain ⟨records, hw⟩ := h w
  exact ⟨by simp [hw], [], by simp [hw]⟩

/-- A sequence starts at most what its actions start together. -/
theorem StartsAtMost.bind {n m : Nat} {action : Action α} {next : α → Action β}
    (haction : action.StartsAtMost n) (hnext : ∀ x, (next x).StartsAtMost m) :
    (action >>= next).StartsAtMost (n + m) := by
  intro w
  obtain ⟨hdirectory, first, hfirst, hn⟩ := haction w
  rw [outcome_bind]
  rcases houtcome : action.outcome w with ⟨failure | x, later⟩
  · rw [houtcome] at hdirectory hfirst
    exact ⟨hdirectory, first, hfirst, by omega⟩
  · rw [houtcome] at hdirectory hfirst
    obtain ⟨hdirectory', second, hsecond, hm⟩ := hnext x later
    refine ⟨hdirectory'.trans hdirectory, first ++ second, ?_, by simp; omega⟩
    rw [← List.append_assoc, ← hfirst]
    exact hsecond

/-! ## Actions that fail in known ways -/

/-- All failures of the action are of this kind. -/
def FailsOnly (kind : Failure → Prop) (action : Action α) : Prop :=
  ∀ w failure, (action.outcome w).1 = .error failure → kind failure

section FailsOnly

variable {kind : Failure → Prop}

theorem failsOnly_pure (x : α) : (pure x : Action α).FailsOnly kind := by
  intro w failure h
  simp at h

theorem failsOnly_throw {failure : Failure} (hkind : kind failure) :
    (throw failure : Action α).FailsOnly kind := by
  intro w other h
  obtain rfl : failure = other := by simpa using h
  exact hkind

theorem failsOnly_say (level : Level) (text : String) : (say level text).FailsOnly kind := by
  intro w failure h
  simp at h

theorem failsOnly_sayAll (records : List LogRecord) : (sayAll records).FailsOnly kind := by
  intro w failure h
  simp at h

theorem failsOnly_ofExcept {value : Except Failure α}
    (hvalue : ∀ failure, value = .error failure → kind failure) :
    (ofExcept value).FailsOnly kind := by
  intro w failure h
  exact hvalue failure (by simpa using h)

/-- A sequence fails as its first action does, or as its second. -/
theorem FailsOnly.bind {action : Action α} {next : α → Action β} (haction : action.FailsOnly kind)
    (hnext : ∀ x, (next x).FailsOnly kind) : (action >>= next).FailsOnly kind := by
  intro w failure h
  rw [outcome_bind] at h
  rcases houtcome : action.outcome w with ⟨failure' | x, later⟩
  · exact haction w failure (by simpa [houtcome] using h)
  · exact hnext x later failure (by simpa [houtcome] using h)

theorem FailsOnly.mono {more : Failure → Prop} {action : Action α} (h : action.FailsOnly kind)
    (hmore : ∀ failure, kind failure → more failure) : action.FailsOnly more :=
  fun w failure hfailure => hmore failure (h w failure hfailure)

/-- An action whose answer is known to be a value does not fail. -/
theorem Answers.failsOnly {action : Action α} {x : α} (h : action.Answers (.ok x)) :
    action.FailsOnly kind := by
  intro w failure hfailure
  obtain ⟨_, hw⟩ := h w
  simp [hw] at hfailure

/-- Looking at the world does not fail. -/
theorem failsOnly_get_bind {next : World → Action α} (hnext : ∀ w, (next w).FailsOnly kind) :
    (get >>= next).FailsOnly kind :=
  fun w failure h => hnext w w failure h

end FailsOnly

end Action

end FormatLauncher
