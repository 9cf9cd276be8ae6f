/-
# Locating once per batch

A cache remembers what was located during one batch.  Queries with the same key share one task: the
first of them starts it, all of them get its outcome, whether that is an answer or a failure.  A
task is never replaced and never dropped.
-/

import FormatLauncher.Locator.Basic

namespace FormatLauncher.Locator

/-- The part of a query that the cache looks at. -/
structure Key where
  configured : Option String
  root : Option String
  interpreter : Option (List String)
  tool : String
  strict : Bool
  deriving DecidableEq, Repr

/-- The key of a query. -/
def Query.key (q : Query) : Key :=
  ⟨q.configured, q.context.root, q.interpreter, q.toolOrUsual.name, q.strict⟩

/-- What came of locating. -/
abbrev Outcome := Except Failure Resolved

/-- A task that locates. -/
inductive Task
  | running
  | finished (outcome : Outcome)

/-- The tasks of a batch, in the order in which they were started. -/
structure Cache where
  tasks : List (Key × Task)

namespace Cache

/-- No task yet. -/
def empty : Cache := ⟨[]⟩

/-- The number of tasks. -/
def size (cache : Cache) : Nat := cache.tasks.length

/-- The task of a key. -/
def task? (cache : Cache) (key : Key) : Option Task := cache.tasks.lookup key

/-- Start a task for a key unless there is one; the answer says whether one was started. -/
def ask (cache : Cache) (key : Key) : Cache × Bool :=
  match cache.task? key with
  | some _ => (cache, false)
  | none => (⟨cache.tasks ++ [(key, .running)]⟩, true)

/-- A running task of a key ends; a task that has ended keeps its outcome. -/
def finish (cache : Cache) (key : Key) (outcome : Outcome) : Cache :=
  ⟨cache.tasks.map fun (other, task) =>
    match task with
    | .running => if other = key then (other, .finished outcome) else (other, task)
    | .finished _ => (other, task)⟩

/-- The outcome of a key, when its task has ended. -/
def outcome? (cache : Cache) (key : Key) : Option Outcome :=
  match cache.task? key with
  | some (.finished outcome) => some outcome
  | _ => none

/-- Locate, or take what was located before: the outcome for one query, and the cache after it. -/
def locate (cache : Cache) (q : Query) (limit : Option Seconds) (schedule : Schedule) :
    Action (Outcome × Cache) := do
  match cache.outcome? q.key with
  | some outcome => return (outcome, cache)
  | none =>
    let (cache, _) := cache.ask q.key
    let outcome ← Action.attempt (Locator.locate q limit schedule)
    return (outcome, cache.finish q.key outcome)

/-- Locate for several queries, one after the other. -/
def locateAll (cache : Cache) (limit : Option Seconds) (schedule : Schedule) :
    List Query → Action (List Outcome × Cache)
  | [] => pure ([], cache)
  | q :: rest => do
    let (outcome, cache) ← cache.locate q limit schedule
    let (outcomes, cache) ← cache.locateAll limit schedule rest
    return (outcome :: outcomes, cache)

end Cache

end FormatLauncher.Locator
