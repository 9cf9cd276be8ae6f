/-
# Where the formatter is and whether it can run

What locating answers can be told from the world it starts in: the command that a query stands for,
the file of that command, and what the version query of the file comes to.  That the formatter is
not there is an answer like any other.  No answer comes from a version query that never ends and
that nothing limits, and from one with an integer for its limit that is too large to be waited for
or too far below zero to be written.
-/

import FormatLauncher.Proofs.FormatFile

namespace FormatLauncher

namespace Spelling

/-- What is absolute has the same absolute path from everywhere. -/
theorem absolute_of_isAbsolute {spelling : String} (h : (Path.parse spelling).isAbsolute = true)
    (current other : Location) : absolute current spelling = absolute other spelling := by
  simp [absolute, h]

/-- An absolute path is one. -/
theorem isAbsolute_absolute (current : Location) (spelling : String) :
    (absolute current spelling).isAbsolute = true := by
  unfold absolute
  dsimp only
  split
  · next habsolute => exact habsolute
  · rfl

end Spelling

/-- With nothing to interfere only the limit ends a run, and only at once or not at all. -/
theorem Schedule.watch?_quiet (limit : Option Seconds) (completes : Bool) :
    Schedule.quiet.watch? limit completes =
      match limit.bind Seconds.instant? with
      | none => if completes then some ⟨true, false, false⟩ else none
      | some moment =>
        some (if completes && decide (0 < moment) then ⟨true, false, false⟩
          else ⟨false, false, false⟩) := by
  unfold watch?
  cases limit.bind Seconds.instant? with
  | none => rfl
  | some moment =>
      simp only [quiet, earlier, reached]
      split <;> simp

namespace Locator

open Action

/-- The command that a query stands for: the first text that the configured path expands to, else
the first existing file next to an interpreter, else the name of the tool's executable. -/
def Query.command (q : Query) (w : World) : String :=
  let configured := (q.configured.filter (· ≠ "")).bind fun path =>
    (Placeholder.expandAll [path] q.context q.interpreter).texts.head?
  let sibling := findSibling .slash w (q.interpreter.getD []) q.toolOrUsual.binary
  (configured.or sibling).getD q.toolOrUsual.binary

/-- The file of a command: the command itself if it is a path, else what the search path has. -/
def fileOf? (w : World) (command : String) : Option String :=
  if Spelling.hasSeparator .slash command then some command else searchPath? w command

/-- Where a command is: the absolute path of its file, or just the command if it has none. -/
def whereabouts (w : World) (command : String) : String :=
  match fileOf? w command with
  | some file => (Spelling.absolute w.directory file).text
  | none => command

/-- The path names an existing regular file with an execute bit. -/
def IsExecutableFile (w : World) (path : String) : Prop :=
  ∃ place e, w.files.find? w.directory path = some (place, e) ∧ e.isRegular = true ∧
    e.isExecutable = true

/-- The command has a file, and that is a regular one with an execute bit. -/
def Passes (w : World) (command : String) : Prop :=
  fileOf? w command ≠ none ∧ IsExecutableFile w (whereabouts w command)

theorem checkFile_eq_true_iff {w : World} {path : String} :
    (checkFile .slash w path).1 = true ↔ IsExecutableFile w path := by
  unfold checkFile IsExecutableFile
  cases w.files.find? w.directory path with
  | none => simp
  | some found =>
      rcases found with ⟨place, e⟩
      cases hregular : e.isRegular <;> cases hexecutable : e.isExecutable <;>
        simp [hregular, hexecutable]

/-- What passes the checks has no NUL in its path. -/
theorem IsExecutableFile.hasNul_eq_false {w : World} {path : String}
    (h : IsExecutableFile w path) : Spelling.hasNul path = false := by
  rcases h with ⟨place, e, hfind, -⟩
  cases hnul : Spelling.hasNul path with
  | false => rfl
  | true => simp [FileTree.find?, hnul] at hfind

/-- Looking next to the interpreters finds a file or leaves the tool's own name. -/
theorem outcome_sibling (interpreter : Option (List String)) (tool : Tool) (w : World) :
    ∃ records, (do
        if let some sibling := findSibling .slash (← get) (interpreter.getD []) tool.binary then
          Action.say .debug ("Found " ++ tool.binary ++ " next to interpreter: " ++ sibling)
          return sibling
        return tool.binary : Action String).outcome w =
      (.ok ((findSibling .slash w (interpreter.getD []) tool.binary).getD tool.binary),
        w.logging records) := by
  rw [outcome_get_bind]
  cases findSibling .slash w (interpreter.getD []) tool.binary with
  | none => exact answers_pure _ w
  | some sibling =>
      dsimp only [Option.getD_some]
      exact (answers_say _ _).bind (answers_pure sibling) w

/-- A query without a configured path picks its command, and all it does is to log. -/
theorem outcome_candidate_of_unconfigured {q : Query}
    (hconfigured : q.configured.filter (· ≠ "") = none) (w : World) :
    ∃ records, (candidate q.configured q.context q.interpreter q.toolOrUsual q.strict).outcome w =
      (.ok (q.command w), w.logging records) := by
  rw [candidate, Query.command, hconfigured]
  exact outcome_sibling q.interpreter q.toolOrUsual w

/-- A lenient query picks its command, and all it does is to log. -/
theorem outcome_candidate {q : Query} (hstrict : q.strict = false) (w : World) :
    ∃ records, (candidate q.configured q.context q.interpreter q.toolOrUsual q.strict).outcome w =
      (.ok (q.command w), w.logging records) := by
  cases hconfigured : q.configured.filter (· ≠ "") with
  | none => exact outcome_candidate_of_unconfigured hconfigured w
  | some path =>
      rw [candidate, hstrict, Query.command, hconfigured]
      have hsettle : (Placeholder.resolve [path] q.context q.interpreter false).Answers
          (.ok (Placeholder.expandAll [path] q.context q.interpreter).texts) :=
        Placeholder.Expansion.answers_settle (by simp)
      obtain ⟨first, hresolve⟩ := hsettle w
      dsimp only
      rw [outcome_bind, hresolve]
      cases htexts : (Placeholder.expandAll [path] q.context q.interpreter).texts with
      | nil =>
          obtain ⟨second, hsibling⟩ := outcome_sibling q.interpreter q.toolOrUsual
            (w.logging first)
          refine ⟨first ++ second, ?_⟩
          rw [← World.logging_logging]
          simp only [Option.bind_some, htexts, List.head?_nil, Option.none_or]
          exact hsibling
      | cons text rest => exact ⟨first, by simp [htexts]⟩

/-- The absolute path of a spelling is the one below the current directory. -/
theorem absolute_eq_absolute {w : World} {spelling : String} {path : Path}
    (h : absolute w spelling = .ok path) : path = Spelling.absolute w.directory spelling := by
  rw [absolute] at h
  split at h
  · next habsolute =>
      rw [Spelling.absolute_of_isAbsolute habsolute w.directory []]
      exact (Except.ok.inj h).symm
  · obtain ⟨current, hcurrent, rfl⟩ := except_map_eq_ok.mp h
    rw [Location.named] at hcurrent
    split at hcurrent
    · simp at hcurrent
    · rw [Except.ok.inj hcurrent]

/-- In a current directory with a name every spelling has an absolute path. -/
theorem absolute_eq_ok {w : World} (hdirectory : w.directory.isLost = false) (spelling : String) :
    absolute w spelling = .ok (Spelling.absolute w.directory spelling) := by
  rw [absolute]
  split
  · next habsolute => rw [Spelling.absolute_of_isAbsolute habsolute]
  · simp [Location.named, hdirectory, Except.map]

/-- What checking a file answers: its absolute path, and whether the file there passes. -/
def checkedFile (w : World) (file : String) : Except Failure (String × Bool) :=
  (absolute w file).map fun path => (path.text, (checkFile .slash w path.text).1)

/-- Checking a command is checking its file; a command without a file does not pass. -/
theorem result_check_eq (command : String) (w : World) :
    ((check .slash command).outcome w).1 =
      match fileOf? w command with
      | none => .ok (command, false)
      | some file => checkedFile w file := by
  have hfile : (if Spelling.hasSeparator .slash command then some command
      else searchPath? w command) = fileOf? w command := rfl
  rw [check, outcome_get_bind, hfile]
  cases fileOf? w command with
  | none => simp [Except.map]
  | some file =>
      unfold checkedFile
      cases habsolute : absolute w file with
      | error failure => simp [habsolute, Except.map]
      | ok path => simp [habsolute, Except.map]

/-- In a current directory with a name a command is checked without failing.  The answer is where
the command is, and whether it passes. -/
theorem result_check {w : World} (hdirectory : w.directory.isLost = false) (command : String) :
    ∃ passes, ((check .slash command).outcome w).1 = .ok (whereabouts w command, passes) ∧
      (passes = true ↔ Passes w command) := by
  unfold Passes whereabouts
  rw [result_check_eq]
  cases fileOf? w command with
  | none => exact ⟨false, rfl, by simp⟩
  | some file =>
      refine ⟨(checkFile .slash w (Spelling.absolute w.directory file).text).1, ?_, ?_⟩
      · simp [checkedFile, absolute_eq_ok hdirectory, Except.map]
      · simp [checkFile_eq_true_iff]

/-- So a lenient query is inspected without failing. -/
theorem result_inspect {q : Query} (hstrict : q.strict = false) {w : World}
    (hdirectory : w.directory.isLost = false) :
    ∃ passes, ((inspect q).outcome w).1 = .ok (whereabouts w (q.command w), passes) ∧
      (passes = true ↔ Passes w (q.command w)) := by
  obtain ⟨records, hcandidate⟩ := outcome_candidate hstrict w
  rw [inspect, outcome_bind, hcandidate]
  exact result_check (w := w.logging records) hdirectory (q.command w)

/-- The limit is not over when a run begins. -/
def LeavesTime (limit : Option Seconds) : Prop :=
  ∀ moment, limit.bind Seconds.instant? = some moment → 0 < moment

/-- The version query of a file is answered: it starts, and it exits with success in time. -/
def AnswersInTime (w : World) (path : String) (arguments : List String) (limit : Option Seconds) :
    Prop :=
  ∃ ready finish, Launch.start w path arguments none = .ok ready ∧
    ready.finish? [] w.files = some finish ∧ finish.code = 0 ∧ LeavesTime limit

/-- There is no limit, or it is never reached. -/
def IsNeverReached (limit : Option Seconds) : Prop :=
  limit = none ∨ ∃ x, limit = some (.real x) ∧ x.view = .infinite false

/-- The limit is an integer beyond the largest floating point number. -/
def IsBeyondLargest (limit : Option Seconds) : Prop :=
  ∃ n, limit = some (.whole n) ∧ (Binary64.leastOverflowing : Int) ≤ n

/-- The limit is an integer below zero with too many digits to be written. -/
def IsUnwritable (limit : Option Seconds) : Prop :=
  ∃ n, limit = some (.whole n) ∧ n ≤ -(Value.leastUnwritable : Int)

/-- The version query of a file starts and is not answered, and this failure is why. -/
inductive Unanswered (w : World) (path : String) (arguments : List String)
    (limit : Option Seconds) : Failure → Prop
  /-- It never ends, and neither does the wait for it. -/
  | unending {ready} (hstart : Launch.start w path arguments none = .ok ready)
    (hfinish : ready.finish? [] w.files = none) (hlimit : IsNeverReached limit) :
    Unanswered w path arguments limit .unending
  /-- The wait for it cannot begin. -/
  | tooLarge {ready} (hstart : Launch.start w path arguments none = .ok ready)
    (hlimit : IsBeyondLargest limit) : Unanswered w path arguments limit .numberTooLarge
  /-- That its time was over cannot be said. -/
  | tooLong {ready} (hstart : Launch.start w path arguments none = .ok ready)
    (hlimit : IsUnwritable limit) : Unanswered w path arguments limit .numberTooLong

/-- What is refused for a NUL has one. -/
theorem hasNul_of_start_eq_embeddedNul {w : World} {command : String} {arguments : List String}
    (hstart : Launch.start w command arguments none = .error .embeddedNul) :
    ∃ text ∈ command :: arguments, Spelling.hasNul text = true := by
  rw [Launch.start] at hstart
  split at hstart
  · next hnul => simpa using hnul
  · dsimp only [Launch.startDirectory] at hstart
    split at hstart <;> simp at hstart

section Limit

variable {limit : Option Seconds}

/-- An instant is never reached exactly if it stands for infinity. -/
theorem instant?_eq_none_iff {s : Seconds} {x : Binary64}
    (hx : s.notBelowZero.toBinary? = some x) : s.instant? = none ↔ x.view = .infinite false := by
  rw [Seconds.instant?, hx]
  dsimp only
  cases hview : x.view with
  | nan => simp
  | infinite negative => cases negative <;> simp
  | finite negative mantissa exponent => simp [Binary64.toRat?, hview]

/-- A limit that can be waited for is never reached if it is none, or infinity. -/
theorem instant?_limit_eq_none_iff (hfits : ∀ s ∈ probeLimit limit, s.toBinary?.isSome = true) :
    limit.bind Seconds.instant? = none ↔ IsNeverReached limit := by
  cases hlimit : limit with
  | none => simp [IsNeverReached]
  | some s =>
      obtain ⟨x, hx⟩ := Option.isSome_iff_exists.mp (hfits s.notBelowZero (by simp [probeLimit,
        hlimit]))
      rw [Option.bind_some, instant?_eq_none_iff hx]
      unfold IsNeverReached
      cases s with
      | flag b =>
          refine iff_of_false ?_ (by simp)
          obtain rfl := Option.some.inj hx
          cases b <;> decide +kernel
      | real y =>
          obtain rfl : y = x := Option.some.inj hx
          simp
      | whole n =>
          have hfinite : x.isInfinite = false := by
            simp only [Seconds.notBelowZero, Seconds.toBinary?] at hx
            split at hx
            · simp at hx
            · next hnot => rw [← Option.some.inj hx]; simpa using hnot
          refine iff_of_false (fun hview => ?_) (by simp)
          simp [Binary64.isInfinite, hview] at hfinite

theorem leastOverflowing_pos : 0 < Binary64.leastOverflowing := by
  have hpositive (exponent : Nat) : 0 < (2 ^ 54 - 1) * 2 ^ exponent :=
    Nat.mul_pos (by decide) (Nat.two_pow_pos exponent)
  exact hpositive 970

theorem leastUnwritable_pos : 0 < Value.leastUnwritable :=
  Nat.lt_of_lt_of_le leastOverflowing_pos Value.leastOverflowing_le_leastUnwritable

/-- A limit is too large to be waited for, or too long to be written, or neither. -/
theorem limit_cases (limit : Option Seconds) :
    IsBeyondLargest limit ∨ IsUnwritable limit ∨
      (∀ s ∈ probeLimit limit, s.toBinary?.isSome = true) ∧
        ∃ shown, limitText limit = .ok shown := by
  cases limit with
  | none => exact .inr (.inr ⟨by simp [probeLimit], _, rfl⟩)
  | some s =>
      cases s with
      | flag b =>
          refine .inr (.inr ⟨fun s hs => ?_, _, rfl⟩)
          obtain rfl : Seconds.flag b = s := by simpa [probeLimit, Seconds.notBelowZero] using hs
          rfl
      | real x =>
          refine .inr (.inr ⟨fun s hs => ?_, _, rfl⟩)
          obtain rfl : Seconds.real x = s := by simpa [probeLimit, Seconds.notBelowZero] using hs
          rfl
      | whole n =>
          by_cases hlarge : (Binary64.leastOverflowing : Int) ≤ n
          · exact .inl ⟨n, rfl, hlarge⟩
          by_cases hlong : n ≤ -(Value.leastUnwritable : Int)
          · exact .inr (.inl ⟨n, rfl, hlong⟩)
          refine .inr (.inr ⟨fun s hs => ?_, toString n, ?_⟩)
          · obtain rfl : Seconds.whole (max n 0) = s := by
              simpa [probeLimit, Seconds.notBelowZero] using hs
            have hpos := leastOverflowing_pos
            have hfinite : (Binary64.ofInt (max n 0)).isInfinite = false := by
              rw [← Bool.not_eq_true, Binary64.isInfinite_ofInt_iff]
              omega
            simp [Seconds.toBinary?, hfinite]
          · have hleast := Value.leastOverflowing_le_leastUnwritable
            rw [limitText, Value.integerText?, if_pos (by omega)]
            rfl

/-- These are no limits that can be waited for and written. -/
theorem not_isBeyondLargest (hfits : ∀ s ∈ probeLimit limit, s.toBinary?.isSome = true) :
    ¬IsBeyondLargest limit := by
  rintro ⟨n, rfl, hlarge⟩
  have hinfinite : (Binary64.ofInt (max n 0)).isInfinite = true :=
    Binary64.isInfinite_ofInt_iff.mpr (by omega)
  simpa [Seconds.toBinary?, hinfinite] using hfits (.whole (max n 0)) (by rfl)

theorem limitText_of_isUnwritable (h : IsUnwritable limit) :
    limitText limit = .error .numberTooLong := by
  obtain ⟨n, rfl, hlong⟩ := h
  rw [limitText, Value.integerText?, if_neg (by omega)]
  rfl

end Limit

section Probe

variable {w : World} {path : String} {arguments : List String} {limit : Option Seconds}

/-- A version query that was started comes to nothing if the wait for it cannot begin. -/
theorem result_query_of_isBeyondLargest (h : IsBeyondLargest limit) (ready : Launch.Ready) :
    ((supervise ready [] (probeLimit limit) .quiet).outcome w).1.bind (probeVerdict limit) =
      .error .numberTooLarge := by
  obtain ⟨n, rfl, hlarge⟩ := h
  have hinfinite : (Binary64.ofInt (max n 0)).isInfinite = true :=
    Binary64.isInfinite_ofInt_iff.mpr (by omega)
  rw [outcome_supervise, if_pos (by simp [probeLimit, Seconds.notBelowZero, Seconds.toBinary?,
    hinfinite])]
  rfl

/-- Nor does it come to anything if its time is over and that cannot be said. -/
theorem result_query_of_isUnwritable (h : IsUnwritable limit) (ready : Launch.Ready) :
    ((supervise ready [] (probeLimit limit) .quiet).outcome w).1.bind (probeVerdict limit) =
      .error .numberTooLong := by
  have hshown := limitText_of_isUnwritable h
  obtain ⟨n, rfl, hlong⟩ := h
  have hzero : probeLimit (some (.whole n)) = some (.whole 0) := by
    have hpos := leastUnwritable_pos
    simp only [probeLimit, Option.map_some, Seconds.notBelowZero]
    rw [max_eq_right (by omega)]
  have hinstant : (some (Seconds.whole 0)).bind Seconds.instant? = some 0 := by decide +kernel
  rw [outcome_supervise, hzero, if_neg (by decide), Schedule.watch?_quiet, hinstant]
  simp [Except.bind, Watch.ending, probeVerdict, hshown, Except.map]

/-- Otherwise it is answered, unless neither it nor the wait for it ever ends. -/
theorem result_query (hfits : ∀ s ∈ probeLimit limit, s.toBinary?.isSome = true) {shown : String}
    (hshown : limitText limit = .ok shown) (ready : Launch.Ready) :
    ((supervise ready [] (probeLimit limit) .quiet).outcome w).1.bind (probeVerdict limit) =
      match limit.bind Seconds.instant?, ready.finish? [] w.files with
      | none, none => .error .unending
      | none, some finish => .ok (finish.code = 0)
      | some _, none => .ok false
      | some moment, some finish => .ok (finish.code = 0 && decide (0 < moment)) := by
  have hinstant : (probeLimit limit).bind Seconds.instant? = limit.bind Seconds.instant? := by
    cases limit with
    | none => rfl
    | some s => cases s <;> simp [probeLimit, Seconds.instant?, Seconds.notBelowZero]
  rw [outcome_supervise, fits_limit hfits, if_neg (by simp), Schedule.watch?_quiet, hinstant]
  cases limit.bind Seconds.instant? with
  | none => cases ready.finish? [] w.files <;> rfl
  | some moment =>
      cases ready.finish? [] w.files with
      | none => simp [Except.bind, Watch.ending, probeVerdict, hshown, Except.map]
      | some finish =>
          by_cases hmoment : 0 < moment <;>
            simp [hmoment, Except.bind, Watch.ending, probeVerdict, hshown, Except.map]

/-- There is one reason at most why a version query is not answered. -/
theorem Unanswered.unique {failure failure' : Failure}
    (h : Unanswered w path arguments limit failure)
    (h' : Unanswered w path arguments limit failure') : failure = failure' := by
  have hnever (n : Int) (hlimit : limit = some (.whole n)) : ¬IsNeverReached limit := by
    simp [hlimit, IsNeverReached]
  have hlarge (hlarge : IsBeyondLargest limit) : ¬IsUnwritable limit := by
    rintro ⟨n, hlimit, hlong⟩
    obtain ⟨m, hlimit', hlarge⟩ := hlarge
    obtain rfl : n = m := by simpa [hlimit] using hlimit'
    have hpos := leastUnwritable_pos
    omega
  cases h with
  | unending _ _ hlimit =>
      cases h' with
      | unending => rfl
      | tooLarge _ hlimit' => exact absurd hlimit (hnever _ hlimit'.choose_spec.1)
      | tooLong _ hlimit' => exact absurd hlimit (hnever _ hlimit'.choose_spec.1)
  | tooLarge _ hlimit =>
      cases h' with
      | unending _ _ hlimit' => exact absurd hlimit' (hnever _ hlimit.choose_spec.1)
      | tooLarge => rfl
      | tooLong _ hlimit' => exact absurd hlimit' (hlarge hlimit)
  | tooLong _ hlimit =>
      cases h' with
      | unending _ _ hlimit' => exact absurd hlimit' (hnever _ hlimit.choose_spec.1)
      | tooLarge _ hlimit' => exact absurd hlimit (hlarge hlimit')
      | tooLong => rfl

/-- A version query with nothing to interfere is answered, or there is a reason why not. -/
theorem result_probe_quiet (hnul : ∀ text ∈ path :: arguments, Spelling.hasNul text = false) :
    (∃ failure, Unanswered w path arguments limit failure ∧
      ((probe path arguments limit .quiet).outcome w).1 = .error failure) ∨
    (∀ failure, ¬Unanswered w path arguments limit failure) ∧
      ∃ answer, ((probe path arguments limit .quiet).outcome w).1 = .ok answer ∧
        (answer = true ↔ AnswersInTime w path arguments limit) := by
  cases hstart : Launch.start w path arguments none with
  | error refusal =>
      have hrefused (ready : Launch.Ready) : Launch.start w path arguments none ≠ .ok ready := by
        simp [hstart]
      obtain ⟨_, hw⟩ := outcome_probe_of_refused hstart limit .quiet
      refine .inr ⟨?_, ?_⟩
      · rintro _ (⟨h, -, -⟩ | ⟨h, -⟩ | ⟨h, -⟩) <;> exact hrefused _ h
      · cases refusal with
        | embeddedNul =>
            obtain ⟨text, htext, hsome⟩ := hasNul_of_start_eq_embeddedNul hstart
            simp [hnul text htext] at hsome
        | system cause =>
            refine ⟨false, by simp [hw, refusedProbe], iff_of_false (by simp) ?_⟩
            rintro ⟨ready, -, h, -⟩
            exact hrefused ready h
  | ok ready =>
      obtain ⟨_, hw⟩ := outcome_probe_of_started hstart limit .quiet
      have hresult : ((probe path arguments limit .quiet).outcome w).1 =
          ((supervise ready [] (probeLimit limit) .quiet).outcome w).1.bind (probeVerdict limit) :=
        congrArg Prod.fst hw
      obtain hlarge | hlong | ⟨hfits, shown, hshown⟩ := limit_cases limit
      · exact .inl ⟨_, .tooLarge hstart hlarge,
          hresult.trans (result_query_of_isBeyondLargest hlarge ready)⟩
      · exact .inl ⟨_, .tooLong hstart hlong,
          hresult.trans (result_query_of_isUnwritable hlong ready)⟩
      · have hnever := instant?_limit_eq_none_iff hfits
        have hwritable : ¬IsUnwritable limit := fun h => by
          simp [limitText_of_isUnwritable h] at hshown
        rw [result_query hfits hshown] at hresult
        by_cases hforever : limit.bind Seconds.instant? = none ∧ ready.finish? [] w.files = none
        · rw [hforever.1, hforever.2] at hresult
          exact .inl ⟨_, .unending hstart hforever.2 (hnever.mp hforever.1), hresult⟩
        · refine .inr ⟨?_, ?_⟩
          · rintro _ (⟨h, hfinish, hlimit⟩ | ⟨-, hlarge⟩ | ⟨-, hlong⟩)
            · obtain rfl := Except.ok.inj (hstart.symm.trans h)
              exact hforever ⟨hnever.mpr hlimit, hfinish⟩
            · exact not_isBeyondLargest hfits hlarge
            · exact hwritable hlong
          · unfold AnswersInTime LeavesTime
            rw [hresult, hstart]
            revert hforever
            cases limit.bind Seconds.instant? <;>
              cases hfinish : ready.finish? [] w.files <;> simp [hfinish]

end Probe

/-- Locating is sound and complete for its command, and that nothing is there is an answer.  A
lenient query in a current directory with a name is answered with where its command is, and the
answer says that the formatter is available exactly if the command has a regular file with an
execute bit that answers the version query in time; unless there is such a file and its version
query is not answered, and then locating fails for the same reason.  Nothing is run unless there is
such a file. -/
theorem locate_sound_and_complete {q : Query} (hstrict : q.strict = false)
    (hversion : ∀ text ∈ q.toolOrUsual.versionArguments, Spelling.hasNul text = false)
    {w : World} (hdirectory : w.directory.isLost = false) (limit : Option Seconds) :
    let command := q.command w
    let path := whereabouts w command
    let arguments := q.toolOrUsual.versionArguments
    let located := (locate q limit .quiet).outcome w
    ((∀ failure, ¬(Passes w command ∧ Unanswered w path arguments limit failure)) →
      ∃ available, located.1 = .ok ⟨path, available⟩ ∧
        (available = true ↔ Passes w command ∧ AnswersInTime w path arguments limit)) ∧
    (∀ failure, Passes w command ∧ Unanswered w path arguments limit failure →
      located.1 = .error failure) ∧
    (¬Passes w command → located.2.runs = w.runs ∧ located.2.files = w.files) := by
  intro command path arguments located
  obtain ⟨passes, hinspect, hpasses⟩ := result_inspect hstrict hdirectory
  cases passes with
  | false =>
      have hfails : ¬Passes w command := fun h => by simpa using hpasses.mpr h
      obtain ⟨_, hlocate⟩ := outcome_locate_of_failing hinspect limit .quiet
      have hlocated : located = _ := hlocate
      simp [hlocated, hfails, path, command]
  | true =>
      have hfile : Passes w command := hpasses.mp rfl
      obtain ⟨first, second, hlocate⟩ := outcome_locate_of_passing hinspect limit .quiet
      have hprobe := (ignoresHistory_probe path arguments limit .quiet (w.logging first) w rfl).1
      have hlocated : located.1 =
          ((probe path arguments limit .quiet).outcome w).1.bind fun available =>
            .ok ⟨path, available⟩ := by
        rw [← hprobe]
        exact congrArg Prod.fst hlocate
      have hnul : ∀ text ∈ path :: arguments, Spelling.hasNul text = false := by
        intro text htext
        rcases List.mem_cons.mp htext with rfl | htext
        · exact hfile.2.hasNul_eq_false
        · exact hversion text htext
      have hprobed := @result_probe_quiet w path arguments limit hnul
      refine ⟨fun hends => ?_, fun failure hunanswered => ?_, fun hfails => absurd hfile hfails⟩
      · obtain ⟨failure, hunanswered, -⟩ | ⟨-, available, hanswer, havailable⟩ := hprobed
        · exact absurd ⟨hfile, hunanswered⟩ (hends failure)
        · refine ⟨available, by rw [hlocated, hanswer]; rfl, ?_⟩
          rw [havailable]
          exact ⟨fun h => ⟨hfile, h⟩, And.right⟩
      · obtain ⟨cause, hcause, hfails⟩ | ⟨hanswered, -⟩ := hprobed
        · rw [hlocated, hfails, hcause.unique hunanswered.2]
          rfl
        · exact absurd hunanswered.2 (hanswered failure)

/-- The query for the usual formatter. -/
def usualQuery : Query := ⟨none, ⟨[], "/", none, []⟩, none, none, false⟩

/-- The formatter of the search path is there, and it answers. -/
theorem locate_sound_and_complete_backwards :
    ((locate usualQuery none .quiet).outcome Formatter.backwardsWorld).1 =
        .ok ⟨"/bin/sqlfmt", true⟩ ∧
      Passes Formatter.backwardsWorld "sqlfmt" ∧
      AnswersInTime Formatter.backwardsWorld "/bin/sqlfmt" ["--version"] none := by
  have hlocated : ((locate usualQuery none .quiet).outcome Formatter.backwardsWorld).1 =
      .ok ⟨"/bin/sqlfmt", true⟩ := by decide +kernel
  obtain ⟨hanswers, hfails, -⟩ := locate_sound_and_complete (q := usualQuery) rfl (by decide)
    (w := Formatter.backwardsWorld) (by decide) none
  obtain ⟨available, hanswer, havailable⟩ := hanswers fun failure hunanswered => by
    simpa [hlocated] using hfails failure hunanswered
  rw [hlocated] at hanswer
  obtain ⟨hpath, rfl⟩ := Resolved.mk.inj (Except.ok.inj hanswer)
  have hcommand : usualQuery.command Formatter.backwardsWorld = "sqlfmt" := by decide +kernel
  rw [← hpath, hcommand] at havailable
  exact ⟨hlocated, havailable.mp rfl⟩

/-- A world like that one whose formatter never ends. -/
def hangingWorld : World := { Formatter.backwardsWorld with programs := fun _ _ _ => none }

/-- No answer comes from a formatter that never ends if there is no limit, nor from any if the limit
is an integer of the size of `10 ^ 400`. -/
theorem locate_without_answer :
    ((locate usualQuery none .quiet).outcome hangingWorld).1 = .error .unending ∧
      ((locate usualQuery (some (.whole (10 ^ 400))) .quiet).outcome hangingWorld).1 =
        .error .numberTooLarge ∧
      ((locate usualQuery (some (.whole (10 ^ 400))) .quiet).outcome
        Formatter.backwardsWorld).1 = .error .numberTooLarge := by
  decide +kernel

end Locator

end FormatLauncher
