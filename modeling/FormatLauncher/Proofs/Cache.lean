/-
# What a cache answers

A task is never replaced, and the queries of one key share it.  So through a cache every query gets
what the first query of its key comes to by itself; and if queries of one key come to the same by
themselves, every query gets what it comes to by itself.
-/

import FormatLauncher.Locator.Cache
import FormatLauncher.Proofs.Locating

namespace FormatLauncher.Locator.Cache

open Action

@[simp]
theorem task?_empty (key : Key) : empty.task? key = none := rfl

/-- Asking starts a task for its key unless there is one. -/
theorem task?_ask (cache : Cache) (key other : Key) :
    (cache.ask key).1.task? other =
      (cache.task? other).or (if other = key then some .running else none) := by
  rw [ask]
  cases htask : cache.task? key with
  | some task =>
      by_cases hkey : other = key
      · simp [hkey, htask]
      · simp [hkey]
  | none =>
      unfold task?
      by_cases hkey : other = key
      · simp [List.lookup_append, hkey]
      · have hbeq : (other == key) = false := by simpa using hkey
        simp [List.lookup_append, List.lookup_cons, hbeq, hkey]

/-- Only a running task of the key ends. -/
theorem task?_finish (cache : Cache) (key other : Key) (outcome : Outcome) :
    (cache.finish key outcome).task? other =
      (cache.task? other).map fun task =>
        match task with
        | .running => if other = key then .finished outcome else .running
        | .finished earlier => .finished earlier := by
  rcases cache with ⟨tasks⟩
  unfold finish task?
  induction tasks with
  | nil => rfl
  | cons first rest ih =>
      rcases first with ⟨own, task⟩
      by_cases hkey : other = own
      · subst hkey
        cases task with
        | finished earlier => simp
        | running => by_cases hsame : other = key <;> simp [hsame]
      · have hbeq : (other == own) = false := by simpa using hkey
        cases task with
        | finished earlier => simpa [List.lookup_cons, hbeq] using ih
        | running =>
            by_cases hsame : own = key
            · subst hsame
              simpa [List.lookup_cons, hbeq] using ih
            · simpa [List.lookup_cons, hbeq, hsame] using ih

/-! ## What a cache keeps -/

theorem outcome?_eq_some_iff {cache : Cache} {key : Key} {outcome : Outcome} :
    cache.outcome? key = some outcome ↔ cache.task? key = some (.finished outcome) := by
  rw [outcome?]
  cases cache.task? key with
  | none => simp
  | some task => cases task <;> simp

/-- A task that is started and ended adds its outcome and changes no other. -/
theorem outcome?_ask_finish {cache : Cache} {key : Key} (hunknown : cache.outcome? key = none)
    (outcome : Outcome) (other : Key) :
    ((cache.ask key).1.finish key outcome).outcome? other =
      if other = key then some outcome else cache.outcome? other := by
  rw [outcome?, task?_finish, task?_ask]
  by_cases hkey : other = key
  · rw [outcome?, ← hkey] at hunknown
    rcases htask : cache.task? other with _ | (_ | earlier) <;> simp_all
  · rcases htask : cache.task? other with _ | (_ | earlier) <;> simp [hkey, outcome?, htask]

/-- Locating through a cache, in closed form. -/
theorem outcome_locate_eq (cache : Cache) (q : Query) (limit : Option Seconds)
    (schedule : Schedule) (w : World) :
    (cache.locate q limit schedule).outcome w =
      match cache.outcome? q.key with
      | some known => (.ok (known, cache), w)
      | none =>
        let located := (Locator.locate q limit schedule).outcome w
        (.ok (located.1, (cache.ask q.key).1.finish q.key located.1), located.2) := by
  unfold Cache.locate
  cases cache.outcome? q.key <;> rfl

/-- What was located stays located, and a query that is located has its outcome. -/
theorem outcome?_of_locate {cache after : Cache} {q : Query} {limit : Option Seconds}
    {schedule : Schedule} {w later : World} {outcome : Outcome}
    (h : (cache.locate q limit schedule).outcome w = (.ok (outcome, after), later)) :
    after.outcome? q.key = some outcome ∧
      ∀ key known, cache.outcome? key = some known → after.outcome? key = some known := by
  unfold Cache.locate at h
  cases hknown : cache.outcome? q.key with
  | some known =>
      simp only [hknown, outcome_pure, Prod.mk.injEq, Except.ok.injEq] at h
      obtain ⟨⟨rfl, rfl⟩, rfl⟩ := h
      exact ⟨hknown, fun _ _ => id⟩
  | none =>
      simp only [hknown, outcome_bind, outcome_attempt, outcome_pure, Prod.mk.injEq,
        Except.ok.injEq] at h
      obtain ⟨⟨rfl, rfl⟩, rfl⟩ := h
      constructor
      · rw [outcome?_eq_some_iff, task?_finish, task?_ask]
        rw [outcome?] at hknown
        cases htask : cache.task? q.key with
        | none => simp
        | some task => cases task <;> simp_all
      · intro key known hsome
        rw [outcome?_eq_some_iff] at hsome ⊢
        rw [task?_finish, task?_ask, hsome]
        rfl

/-- Locating through a cache looks up what is known and locates anything else, which is then known
too. -/
theorem outcome_locate_cases (cache : Cache) (q : Query) (limit : Option Seconds)
    (schedule : Schedule) (w : World) :
    (∃ known, cache.outcome? q.key = some known ∧
      (cache.locate q limit schedule).outcome w = (.ok (known, cache), w)) ∨
    cache.outcome? q.key = none ∧
      ∃ after, (cache.locate q limit schedule).outcome w =
          (.ok (((Locator.locate q limit schedule).outcome w).1, after),
            ((Locator.locate q limit schedule).outcome w).2) ∧
        ∀ key known, after.outcome? key = some known → cache.outcome? key = some known ∨
          key = q.key ∧ known = ((Locator.locate q limit schedule).outcome w).1 := by
  unfold Cache.locate
  cases hknown : cache.outcome? q.key with
  | some known => exact .inl ⟨known, rfl, rfl⟩
  | none =>
      refine .inr ⟨rfl, (cache.ask q.key).1.finish q.key
        ((Locator.locate q limit schedule).outcome w).1, rfl, ?_⟩
      intro key known hsome
      rw [outcome?_eq_some_iff, task?_finish, task?_ask] at hsome
      rw [outcome?_eq_some_iff]
      by_cases hkey : key = q.key
      · rw [outcome?, ← hkey] at hknown
        rcases htask : cache.task? key with _ | (_ | earlier) <;> simp_all
      · rcases htask : cache.task? key with _ | (_ | earlier) <;> simp_all

/-- After queries were located they all have their outcomes. -/
theorem outcome?_of_locateAll {queries : List Query} {cache after : Cache}
    {limit : Option Seconds} {schedule : Schedule} {w later : World} {outcomes : List Outcome}
    (h : (cache.locateAll limit schedule queries).outcome w = (.ok (outcomes, after), later)) :
    queries.map (fun q => after.outcome? q.key) = outcomes.map some ∧
      ∀ key known, cache.outcome? key = some known → after.outcome? key = some known := by
  induction queries generalizing cache w outcomes with
  | nil =>
      simp only [locateAll, outcome_pure, Prod.mk.injEq, Except.ok.injEq] at h
      obtain ⟨⟨rfl, rfl⟩, -⟩ := h
      exact ⟨rfl, fun _ _ => id⟩
  | cons q rest ih =>
      obtain ⟨⟨outcome, between⟩, located, hlocate, hrest⟩ := outcome_bind_eq_ok.mp h
      obtain ⟨⟨more, last⟩, finished, hall, hpure⟩ := outcome_bind_eq_ok.mp hrest
      simp only [outcome_pure, Prod.mk.injEq, Except.ok.injEq] at hpure
      obtain ⟨⟨rfl, rfl⟩, rfl⟩ := hpure
      obtain ⟨hknown, hkept⟩ := outcome?_of_locate hlocate
      obtain ⟨houtcomes, hstays⟩ := ih hall
      refine ⟨?_, fun key known hsome => hstays key known (hkept key known hsome)⟩
      simp [houtcomes, hstays _ _ hknown]

/-- Locating through a cache does not fail. -/
theorem exists_outcome_locateAll (cache : Cache) (limit : Option Seconds) (schedule : Schedule)
    (queries : List Query) (w : World) :
    ∃ outcomes after later, (cache.locateAll limit schedule queries).outcome w =
      (.ok (outcomes, after), later) := by
  induction queries generalizing cache w with
  | nil => exact ⟨[], cache, w, rfl⟩
  | cons q rest ih =>
      obtain ⟨outcome, between, located, hlocate⟩ : ∃ outcome between located,
          (cache.locate q limit schedule).outcome w = (.ok (outcome, between), located) := by
        unfold Cache.locate
        split
        · exact ⟨_, _, _, rfl⟩
        · exact ⟨_, _, _, rfl⟩
      obtain ⟨outcomes, after, later, hall⟩ := ih between located
      refine ⟨outcome :: outcomes, after, later, ?_⟩
      simp [locateAll, outcome_bind, hlocate, hall, Except.map]

/-! ## The first of every key -/

/-- The first of some queries that a cache does not tell apart from a query; the query itself if
there is none. -/
def leader (queries : List Query) (q : Query) : Query :=
  (queries.find? fun other => other.key = q.key).getD q

/-- The first query of a key is one of the queries, and it has that key. -/
theorem leader_mem {queries : List Query} {q : Query} (hq : q ∈ queries) :
    leader queries q ∈ queries ∧ (leader queries q).key = q.key := by
  rw [leader]
  cases hfirst : queries.find? fun other => other.key = q.key with
  | none => exact ⟨hq, rfl⟩
  | some first => exact ⟨List.mem_of_find?_eq_some hfirst, by simpa using List.find?_some hfirst⟩

/-- Queries of one key have the same first query. -/
theorem leader_eq_of_key_eq {queries : List Query} {q other : Query} (hq : q ∈ queries)
    (hkey : other.key = q.key) : leader queries other = leader queries q := by
  rw [leader, leader, hkey]
  cases hfirst : queries.find? fun other => other.key = q.key with
  | none => simpa using List.find?_eq_none.mp hfirst q hq
  | some first => rfl

/-- A query with a key that no earlier one has is the first of its key. -/
theorem leader_of_new {seen rest : List Query} {q : Query}
    (hnew : ∀ other ∈ seen, other.key ≠ q.key) : leader (seen ++ q :: rest) q = q := by
  have hnone : seen.find? (fun other => other.key = q.key) = none :=
    List.find?_eq_none.mpr fun other hother => by simpa using hnew other hother
  simp [leader, List.find?_append, hnone]

/-- Queries all get what they come to by themselves if and only if queries of one key come to the
same. -/
theorem map_leader_eq_iff {outcome : Query → Outcome} {queries : List Query} :
    (queries.map fun q => outcome (leader queries q)) = queries.map outcome ↔
      ∀ q ∈ queries, ∀ other ∈ queries, other.key = q.key → outcome other = outcome q := by
  rw [List.map_inj_left]
  constructor
  · intro heach q hq other hother hkey
    rw [← heach q hq, ← heach other hother, leader_eq_of_key_eq hq hkey]
  · intro hsame q hq
    exact hsame q hq _ (leader_mem hq).1 (leader_mem hq).2

/-- The tasks of a cache are those of the queries it was asked, and they have ended with what these
queries are to get. -/
structure Holds (cache : Cache) (seen : List Query) (answer : Query → Outcome) : Prop where
  finished : ∀ q ∈ seen, cache.task? q.key = some (.finished (answer q))
  fresh : ∀ key, (∀ q ∈ seen, q.key ≠ key) → cache.task? key = none

theorem holds_empty (answer : Query → Outcome) : empty.Holds [] answer where
  finished := by simp
  fresh := by simp

/-- A query that finds its task finished adds nothing. -/
theorem Holds.again {cache : Cache} {seen : List Query} {answer : Query → Outcome}
    (h : cache.Holds seen answer) {q : Query}
    (hfinished : cache.task? q.key = some (.finished (answer q))) :
    cache.Holds (seen ++ [q]) answer where
  finished other hother := by
    obtain hother | hother := List.mem_append.mp hother
    · exact h.finished other hother
    · obtain rfl := List.mem_singleton.mp hother
      exact hfinished
  fresh key hkey := h.fresh key fun other hother => hkey other (List.mem_append_left _ hother)

/-- A query of a new key adds its task. -/
theorem Holds.add {cache : Cache} {seen : List Query} {answer : Query → Outcome}
    (h : cache.Holds seen answer) {q : Query} (hnew : ∀ other ∈ seen, other.key ≠ q.key) :
    ((cache.ask q.key).1.finish q.key (answer q)).Holds (seen ++ [q]) answer where
  finished other hother := by
    rw [task?_finish, task?_ask]
    obtain hother | hother := List.mem_append.mp hother
    · simp [h.finished other hother]
    · obtain rfl := List.mem_singleton.mp hother
      simp [h.fresh _ hnew]
  fresh key hkey := by
    have hother : key ≠ q.key := (hkey q (by simp)).symm
    rw [task?_finish, task?_ask, h.fresh key fun other hseen => hkey other (by simp [hseen])]
    simp [hother]

section Alone

variable {s : World} {limit : Option Seconds} {schedule : Schedule} {queries : List Query}

/-- What locating a query comes to by itself. -/
def alone (s : World) (limit : Option Seconds) (schedule : Schedule) (q : Query) : Outcome :=
  ((Locator.locate q limit schedule).outcome s).1

variable (hkeeps : ∀ q ∈ queries, (Locator.locate q limit schedule).KeepsScene s)

include hkeeps in
/-- One step: a query gets what the first of its key comes to by itself. -/
theorem outcome_locate {seen rest : List Query} {q : Query} (hqueries : queries = seen ++ q :: rest)
    {cache : Cache} (hholds : cache.Holds seen fun q => alone s limit schedule (leader queries q))
    {w : World} (hscene : w.scene = s.scene) :
    ∃ cache' later, (cache.locate q limit schedule).outcome w =
        (.ok (alone s limit schedule (leader queries q), cache'), later) ∧
      cache'.Holds (seen ++ [q]) (fun q => alone s limit schedule (leader queries q)) ∧
      later.scene = s.scene := by
  unfold Cache.locate outcome?
  by_cases hold : ∃ other ∈ seen, other.key = q.key
  · obtain ⟨other, hother, hkey⟩ := hold
    have hleader : leader queries other = leader queries q :=
      leader_eq_of_key_eq (by simp [hqueries]) hkey
    have hfinished : cache.task? q.key =
        some (.finished (alone s limit schedule (leader queries q))) := by
      rw [← hkey, ← hleader]
      exact hholds.finished other hother
    exact ⟨cache, w, by simp [hfinished], hholds.again hfinished, hscene⟩
  · have hnew : ∀ other ∈ seen, other.key ≠ q.key := fun other hother hkey =>
      hold ⟨other, hother, hkey⟩
    have hleader : leader queries q = q := hqueries ▸ leader_of_new hnew
    have halone := (ignoresHistory_locate q limit schedule w s hscene).1
    refine ⟨_, ((Locator.locate q limit schedule).outcome w).2, ?_, hholds.add hnew,
      hkeeps q (by simp [hqueries]) w hscene⟩
    rw [hholds.fresh q.key hnew]
    simp [halone, alone, hleader, Except.map]

include hkeeps in
/-- The run from any point on, by induction on the queries that are left. -/
theorem outcome_locateAll_from {seen rest : List Query} (hqueries : queries = seen ++ rest)
    {cache : Cache} (hholds : cache.Holds seen fun q => alone s limit schedule (leader queries q))
    {w : World} (hscene : w.scene = s.scene) :
    ∃ cache' later, (cache.locateAll limit schedule rest).outcome w =
        (.ok (rest.map fun q => alone s limit schedule (leader queries q), cache'), later) ∧
      later.scene = s.scene := by
  induction rest generalizing seen cache w with
  | nil => exact ⟨cache, w, rfl, hscene⟩
  | cons q rest ih =>
      obtain ⟨between, located, hlocated, hbetween, hscene'⟩ :=
        outcome_locate hkeeps hqueries hholds hscene
      obtain ⟨last, later, hlater, hscene''⟩ := ih (by simp [hqueries]) hbetween hscene'
      refine ⟨last, later, ?_, hscene''⟩
      simp [locateAll, outcome_bind, hlocated, hlater, Except.map]

include hkeeps in
/-- Through a cache every query gets what the first query of its key comes to by itself. -/
theorem outcome_locateAll_leader {w : World} (hscene : w.scene = s.scene) :
    ∃ cache later, (empty.locateAll limit schedule queries).outcome w =
        (.ok (queries.map fun q => alone s limit schedule (leader queries q), cache), later) ∧
      later.scene = s.scene :=
  outcome_locateAll_from hkeeps (List.nil_append queries).symm (holds_empty _) hscene

include hkeeps in
/-- If queries of one key come to the same by themselves, then through a cache all queries get what
they come to by themselves. -/
theorem outcome_locateAll
    (hsame : ∀ q ∈ queries, ∀ other ∈ queries, other.key = q.key →
      alone s limit schedule other = alone s limit schedule q)
    {w : World} (hscene : w.scene = s.scene) :
    ∃ cache later, (empty.locateAll limit schedule queries).outcome w =
        (.ok (queries.map (alone s limit schedule), cache), later) ∧ later.scene = s.scene := by
  obtain ⟨cache, later, hlocated, hlater⟩ := outcome_locateAll_leader hkeeps hscene
  refine ⟨cache, later, ?_, hlater⟩
  rw [hlocated, map_leader_eq_iff.mpr hsame]

end Alone

/-! ## Queries of one key -/

/-- Two queries differ in nothing that locating looks at.  Of the context that is the expansion of
the configured path. -/
structure Alike (q other : Query) : Prop where
  configured : other.configured = q.configured
  interpreter : other.interpreter = q.interpreter
  strict : other.strict = q.strict
  expansion : ∀ path ∈ q.configured, Placeholder.expandAll [path] other.context q.interpreter =
    Placeholder.expandAll [path] q.context q.interpreter
  name : other.toolOrUsual.name = q.toolOrUsual.name
  binary : other.toolOrUsual.binary = q.toolOrUsual.binary
  versionArguments : other.toolOrUsual.versionArguments = q.toolOrUsual.versionArguments

/-- Alike queries pick the same command. -/
theorem Alike.candidate_eq {q other : Query} (h : Alike q other) :
    candidate other.configured other.context other.interpreter other.toolOrUsual other.strict =
      candidate q.configured q.context q.interpreter q.toolOrUsual q.strict := by
  unfold candidate
  rw [h.configured, h.interpreter, h.strict, h.binary]
  cases hpath : q.configured.filter (· ≠ "") with
  | none => rfl
  | some path =>
      have hconfigured : path ∈ q.configured := (Option.filter_eq_some_iff.mp hpath).1
      simp only [Placeholder.resolve, h.expansion path hconfigured]

/-- Alike queries are located in the same way. -/
theorem Alike.locate_eq {q other : Query} (h : Alike q other) (limit : Option Seconds)
    (schedule : Schedule) :
    Locator.locate other limit schedule = Locator.locate q limit schedule := by
  have hinspect : inspect other = inspect q := by rw [inspect, inspect, h.candidate_eq]
  have hreport (resolved : Resolved) : report other resolved = report q resolved := by
    rw [report, report, h.name]
  simp only [Locator.locate, hinspect, hreport, h.versionArguments]

/-- Queries of one key are alike when their configured path has one expansion and their tools ask
for the same file and version. -/
theorem alike_of_key_eq {q other : Query} (hkey : other.key = q.key)
    (hexpansion : ∀ path ∈ q.configured,
      Placeholder.expandAll [path] other.context q.interpreter =
        Placeholder.expandAll [path] q.context q.interpreter)
    (hbinary : other.toolOrUsual.binary = q.toolOrUsual.binary)
    (hversion : other.toolOrUsual.versionArguments = q.toolOrUsual.versionArguments) :
    Alike q other := by
  simp only [Query.key, Key.mk.injEq] at hkey
  exact ⟨hkey.1, hkey.2.2.1, hkey.2.2.2.2, hexpansion, hkey.2.2.2.1, hbinary, hversion⟩

/-- The version query that locating would run writes no file. -/
def LeavesFiles (q : Query) (s : World) : Prop :=
  ∀ path, ((inspect q).outcome s).1 = .ok (path, true) →
    ∀ ready, Launch.start s path q.toolOrUsual.versionArguments none = .ok ready →
      ready.LeavesFiles s.files

/-- What a cache answers to queries in a scene that stays as it is.  Every query gets the outcome
that the first query of its key has by itself.  All of them get their own outcome if and only if
queries of one key have the same; in particular if queries of one key have one expansion of the
configured path and ask for the same file and version. -/
theorem each_as_first_of_key (queries : List Query) (limit : Option Seconds) (w : World)
    (hleaves : ∀ q ∈ queries, LeavesFiles q w) :
    ∃ outcomes cache later,
      (empty.locateAll limit .quiet queries).outcome w = (.ok (outcomes, cache), later) ∧
        later.scene = w.scene ∧
        (outcomes = queries.map fun q => alone w limit .quiet (leader queries q)) ∧
        (outcomes = queries.map (alone w limit .quiet) ↔
          ∀ q ∈ queries, ∀ other ∈ queries, other.key = q.key →
            alone w limit .quiet other = alone w limit .quiet q) ∧
        ((∀ q ∈ queries, ∀ other ∈ queries, other.key = q.key →
            (∀ path ∈ q.configured, Placeholder.expandAll [path] other.context q.interpreter =
              Placeholder.expandAll [path] q.context q.interpreter) ∧
            other.toolOrUsual.binary = q.toolOrUsual.binary ∧
            other.toolOrUsual.versionArguments = q.toolOrUsual.versionArguments) →
          outcomes = queries.map (alone w limit .quiet)) := by
  have hkeeps : ∀ q ∈ queries, (Locator.locate q limit .quiet).KeepsScene w := fun q hq =>
    keepsScene_locate (hleaves q hq) limit .quiet
  obtain ⟨cache, later, hlocated, hscene⟩ := outcome_locateAll_leader hkeeps (w := w) rfl
  refine ⟨_, cache, later, hlocated, hscene, rfl, map_leader_eq_iff, ?_⟩
  intro hagree
  refine map_leader_eq_iff.mpr fun q hq other hother hkey => ?_
  obtain ⟨hexpansion, hbinary, hversion⟩ := hagree q hq other hother hkey
  rw [alone, alone, (alike_of_key_eq hkey hexpansion hbinary hversion).locate_eq]

/-- A query for the file in the directory that a variable names. -/
def inDirectoryOf (name value : String) : Query where
  configured := some (Placeholder.token ("env:" ++ name) ++ "/sqlfmt")
  context := ⟨[(name, value)], "/", none, []⟩
  interpreter := none
  tool := none
  strict := false

/-- A world with one formatter, which writes no file. -/
def oneFormatter : World where
  files := ⟨[(["a"], .directory), (["a", "sqlfmt"], .program 0 0o755)]⟩
  programs := fun _ _ tree => some ⟨0, [], [], tree⟩
  environment := []
  directory := []
  log := []
  runs := []

/-- Nothing that is asked for its version there writes a file. -/
theorem leavesFiles_oneFormatter (q : Query) : LeavesFiles q oneFormatter := by
  intro path _ ready hstart
  apply Launch.Ready.leavesFiles_of_programs _ hstart
  intro id call tree finish hfinish
  obtain rfl : _ = finish := Option.some.inj hfinish
  rfl

/-- Queries of one key in two environments: the second gets the file of the first. -/
theorem each_as_first_of_key_two_environments :
    ∃ outcomes cache later, (empty.locateAll none .quiet
        [inDirectoryOf "BIN" "/a", inDirectoryOf "BIN" "/b"]).outcome oneFormatter =
          (.ok (outcomes, cache), later) ∧
      outcomes.map Except.toOption = [some ⟨"/a/sqlfmt", true⟩, some ⟨"/a/sqlfmt", true⟩] := by
  obtain ⟨outcomes, cache, later, hlocated, -, houtcomes, -⟩ :=
    each_as_first_of_key [inDirectoryOf "BIN" "/a", inDirectoryOf "BIN" "/b"] none oneFormatter
      fun q _ => leavesFiles_oneFormatter q
  refine ⟨outcomes, cache, later, hlocated, ?_⟩
  rw [houtcomes]
  decide +kernel

/-- So what a query gets through a cache is not always what it comes to by itself. -/
theorem not_each_as_alone :
    ¬∀ (queries : List Query) (limit : Option Seconds) (w : World),
      (∀ q ∈ queries, LeavesFiles q w) →
        ∃ cache later, (empty.locateAll limit .quiet queries).outcome w =
          (.ok (queries.map (alone w limit .quiet), cache), later) := by
  intro heach
  let queries := [inDirectoryOf "BIN" "/a", inDirectoryOf "BIN" "/b"]
  obtain ⟨cache, later, hlocated⟩ := heach queries none oneFormatter
    fun q _ => leavesFiles_oneFormatter q
  have hcached : ((empty.locateAll none .quiet queries).outcome oneFormatter).1.toOption.map
      (fun located => located.1.map Except.toOption) =
        some [some ⟨"/a/sqlfmt", true⟩, some ⟨"/a/sqlfmt", true⟩] := by decide +kernel
  have halone : (queries.map (alone oneFormatter none .quiet)).map Except.toOption =
      [some ⟨"/a/sqlfmt", true⟩, some ⟨"/b/sqlfmt", false⟩] := by decide +kernel
  rw [hlocated] at hcached
  exact absurd (halone.symm.trans (Option.some.inj hcached)) (by decide)

end FormatLauncher.Locator.Cache
